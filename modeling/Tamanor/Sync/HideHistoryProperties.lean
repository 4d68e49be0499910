import Tamanor.Sync.HideSystem
import Tamanor.Sync.LiveActionsProperties

/-! Calls of `attemptFacebookHide` one after the other: what the rows that earlier calls have
left let a later one do. -/

set_option autoImplicit false

namespace Tamanor.Sync

open Ai Library

structure SequentialCall where
  call : HideCall
  now : Nat → Int

def SequentialCall.existing (next : SequentialCall) (executions : List ExecutionRow) :
    List ExecutionRow :=
  executions.filter (attemptWhere next.call.ctx)

variable (executions : List ExecutionRow)

def performStep (next : SequentialCall) : List ExecutionRow :=
  (next.call.perform executions next.now).1.recorded ++ executions

def openFailure (existing : List ExecutionRow) : Bool :=
  (existing.find? fun row => row.status == .failed || row.status == .executed).any
    fun row => row.status == .failed

def NoSilentRetry (next : SequentialCall) : Prop :=
  openFailure (next.existing executions) = true → next.call.options.retry = false →
    (next.call.perform executions next.now).1.liveHides = []

instance (executions : List ExecutionRow) (next : SequentialCall) :
    Decidable (NoSilentRetry executions next) :=
  inferInstanceAs (Decidable (_ → _ → _))

/-- While a failure is open, a call without retry finds it on top of the key's rows, or stops at
an executed row or a dry run. -/
def FailureOnTop (next : SequentialCall) : Prop :=
  openFailure (next.existing executions) = true → next.call.options.retry = false →
    (next.existing executions).head?.any (fun row => row.status == .failed) = true ∨
      (next.existing executions).any (fun row => row.status == .executed) = true ∨
      (priorDryRun next.call.options (next.existing executions)).isSome = true

instance (executions : List ExecutionRow) : DecidablePred (FailureOnTop executions) :=
  fun _ => inferInstanceAs (Decidable (_ → _ → _))

def RetriesExplicitly (calls : List SequentialCall) : Prop :=
  ∀ earlier next later, calls = earlier ++ next :: later →
    NoSilentRetry (Runs.run performStep executions earlier) next

theorem attempt_stops {executions : List ExecutionRow} {next : SequentialCall}
    (stops : (next.existing executions).head?.any (fun row => row.status == .failed) = true ∨
      (next.existing executions).any (fun row => row.status == .executed) = true ∨
      (priorDryRun next.call.options (next.existing executions)).isSome = true)
    (once : next.call.options.retry = false) (answer : InsertAnswer) :
    (next.call.attempt executions next.now answer).1 = HideRun.start next.call.ctx := by
  have rows : findExistingExecutions (next.call.env executions next.now answer) next.call.ctx =
    next.existing executions := rfl
  simp only [HideCall.attempt, attemptFacebookHide, rows]
  cases executed : (next.existing executions).find? fun row => row.status == .executed with
  | some row => rfl
  | none =>
    cases dryRun : priorDryRun next.call.options (next.existing executions) with
    | some row => rfl
    | none =>
      have none : ¬ (next.existing executions).any (fun row => row.status == .executed) = true := by
        intro some
        obtain ⟨row, member, status⟩ := List.any_eq_true.mp some
        exact List.find?_eq_none.mp executed row member status
      have failed := (stops.resolve_right fun other =>
        other.elim none (by simp [dryRun]))
      cases shape : next.existing executions with
      | nil => simp [shape] at failed
      | cons latest older =>
        have status : latest.status = .failed := by simpa [shape] using failed
        simp [status, once]

theorem perform_attempt (call : HideCall) (executions : List ExecutionRow) (now : Nat → Int) :
    ∃ answer, call.perform executions now = call.attempt executions now answer := by
  unfold HideCall.perform
  split
  · exact ⟨_, rfl⟩
  · split <;> exact ⟨_, rfl⟩

theorem noSilentRetry_of_failureOnTop {executions : List ExecutionRow} {next : SequentialCall}
    (onTop : FailureOnTop executions next) : NoSilentRetry executions next := by
  intro failure once
  obtain ⟨answer, performed⟩ := perform_attempt next.call executions next.now
  rw [performed, attempt_stops (onTop failure once) once]
  rfl

/-- Nothing is retried without being asked to, in every sequence of calls in which nothing was
recorded on top of an open failure when a call without retry comes. -/
theorem retriesExplicitly_of_failureOnTop (executions : List ExecutionRow)
    (calls : List SequentialCall) (meets : Runs.Meets performStep FailureOnTop executions calls) :
    RetriesExplicitly executions calls := by
  intro earlier next later shape
  rw [shape] at meets
  exact noSilentRetry_of_failureOnTop meets.at_step

def spamCall (cfg : LiveActionsConfig) (retry accepted : Bool) (executionId : String) :
    SequentialCall where
  call :=
    { cfg
      options := { retry, liveAttempt := false, safety := some openSafety }
      ctx := spamContext
      transport :=
        { hide := fun _ _ => some ⟨accepted, none, if accepted then none else some "generic", none⟩
          getCommentState := none
          getPageTokenState := none }
      executionId }
  now _ := 0

theorem retriesExplicitly_after_failure :
    RetriesExplicitly [] [spamCall liveConfig false false "a", spamCall liveConfig false true "b"] :=
  retriesExplicitly_of_failureOnTop _ _ (by decide +kernel)

/-- A retry that is blocked hides the failure, and the next call posts. -/
theorem not_retriesExplicitly :
    ¬ RetriesExplicitly [] [spamCall liveConfig false false "a",
      spamCall { liveConfig with liveEnabled := false } true true "b",
      spamCall liveConfig false true "c"] := by
  intro explicitly
  have silent := explicitly [spamCall liveConfig false false "a",
    spamCall { liveConfig with liveEnabled := false } true true "b"] _ [] rfl
  revert silent
  decide +kernel

end Tamanor.Sync
