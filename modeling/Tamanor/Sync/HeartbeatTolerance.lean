import Mathlib.Algebra.Order.Ring.Int
import Tamanor.Library.Runs

/-! The heartbeat controller of a sync lease (`lease-heartbeat.ts`) over the row that its calls
write (`heartbeatSyncLease`). The controller reads its clock before and after a call; the row is
told the first reading, and its own estimate of the expiry counts from the second one. -/

set_option autoImplicit false

namespace Tamanor.Sync

open Library

structure LeaseHeartbeatOptions where
  ttlMs : Int
  maxTransientFailures : Option Int

def LeaseHeartbeatOptions.failureLimit (opts : LeaseHeartbeatOptions) : Int :=
  max 1 (opts.maxTransientFailures.getD 3)

/-- How a call of the heartbeat ends. A call that throws may have written the row before. -/
inductive HeartbeatOutcome where
  | renewed
  | refused
  | thrown (wrote : Bool)
deriving DecidableEq

/-- A tick begins with a reading of the clock, and after its call the clock is read again. -/
inductive HeartbeatAction where
  | start
  | tick (sentAt : Int)
  | answer (outcome : HeartbeatOutcome) (now : Int)
  | stop
deriving DecidableEq

/-- The variables of the controller; `inFlight` has the reading that the call under way has been
given. The expiry that this holder wrote last, and the readings that it sent, are only recorded. -/
structure LeaseHeartbeat where
  lost : Bool
  stopped : Bool
  inFlight : Option Int
  consecutiveFailures : Int
  currentExpiry : Int
  timer : Bool
  written : Int
  sent : List Int
deriving DecidableEq

namespace LeaseHeartbeat

def create (expiresAt : Int) : LeaseHeartbeat where
  lost := false
  stopped := false
  inFlight := none
  consecutiveFailures := 0
  currentExpiry := expiresAt
  timer := false
  written := expiresAt
  sent := []

def declareLost (state : LeaseHeartbeat) : LeaseHeartbeat :=
  { state with lost := true, timer := false }

/-- `heartbeatSyncLease`: the row expires a TTL after the reading that the call has been given. -/
def writeRow (opts : LeaseHeartbeatOptions) (state : LeaseHeartbeat) (sentAt : Int) :
    LeaseHeartbeat :=
  { state with written := sentAt + opts.ttlMs }

def tolerates (opts : LeaseHeartbeatOptions) (state : LeaseHeartbeat) (now : Int) : Bool :=
  decide (state.consecutiveFailures < opts.failureLimit ∧ now < state.currentExpiry)

def fail (opts : LeaseHeartbeatOptions) (state : LeaseHeartbeat) (now : Int) : LeaseHeartbeat :=
  let failing := { state with consecutiveFailures := state.consecutiveFailures + 1 }
  if failing.tolerates opts now then failing else failing.declareLost

def finish (opts : LeaseHeartbeatOptions) (state : LeaseHeartbeat) (sentAt now : Int) :
    HeartbeatOutcome → LeaseHeartbeat
  | .renewed =>
    { state.writeRow opts sentAt with consecutiveFailures := 0, currentExpiry := now + opts.ttlMs }
  | .refused => state.declareLost
  | .thrown wrote => (if wrote then state.writeRow opts sentAt else state).fail opts now

def step (opts : LeaseHeartbeatOptions) (state : LeaseHeartbeat) : HeartbeatAction → LeaseHeartbeat
  | .start => if state.lost ∨ state.stopped then state else { state with timer := true }
  | .tick sentAt =>
    if state.lost ∨ state.stopped ∨ state.inFlight.isSome then state
    else { state with inFlight := some sentAt, sent := state.sent ++ [sentAt] }
  | .answer outcome now =>
    match state.inFlight with
    | none => state
    | some sentAt => { state.finish opts sentAt now outcome with inFlight := none }
  | .stop => { state with stopped := true, timer := false }

/-! What is asked of a step, and of a run. -/

/-- A tick that ends with a failure is tolerated only while the row has not expired. -/
def InTime (opts : LeaseHeartbeatOptions) (state : LeaseHeartbeat) (action : HeartbeatAction) :
    Prop :=
  ∀ wrote now, action = .answer (.thrown wrote) now → state.inFlight.isSome = true →
    (state.step opts action).lost = false → now < (state.step opts action).written

/-- A failed call that is not the last of the limit does not end, by the clock, between the expiry
in the row and the one that the controller knows of. -/
def OutsideDrift (opts : LeaseHeartbeatOptions) (state : LeaseHeartbeat) : HeartbeatAction → Prop
  | .answer (.thrown wrote) now =>
    ∀ sentAt ∈ state.inFlight, state.consecutiveFailures + 1 < opts.failureLimit →
      now < state.currentExpiry → now < if wrote then sentAt + opts.ttlMs else state.written
  | _ => True

/-- A renewal takes no time by the clock, and a call that throws has written no expiry before the
one that the controller knows of. -/
def Punctual (opts : LeaseHeartbeatOptions) (state : LeaseHeartbeat) : HeartbeatAction → Prop
  | .answer .renewed now => state.inFlight.all (now ≤ ·) = true
  | .answer (.thrown true) _ => state.inFlight.all (state.currentExpiry ≤ · + opts.ttlMs) = true
  | _ => True

structure Sound (opts : LeaseHeartbeatOptions) (state : LeaseHeartbeat)
    (actions : List HeartbeatAction) : Prop where
  inTime : Runs.Meets (step opts) (InTime opts) state actions
  lossFinal : ∀ before after, actions = before ++ after →
    (Runs.run (step opts) state before).lost = true →
      (Runs.run (step opts) state actions).lost = true
  silent : ∀ before after, actions = before ++ after →
    (Runs.run (step opts) state before).lost = true ∨
      (Runs.run (step opts) state before).stopped = true →
        (Runs.run (step opts) state actions).sent = (Runs.run (step opts) state before).sent

variable {opts : LeaseHeartbeatOptions} {state : LeaseHeartbeat} {action : HeartbeatAction}
  {sentAt now : Int} {outcome : HeartbeatOutcome}

@[simp] theorem fail_stopped : (state.fail opts now).stopped = state.stopped := by
  unfold fail
  dsimp only
  split <;> rfl

@[simp] theorem fail_sent : (state.fail opts now).sent = state.sent := by
  unfold fail
  dsimp only
  split <;> rfl

@[simp] theorem finish_stopped :
    (state.finish opts sentAt now outcome).stopped = state.stopped := by
  cases outcome with
  | renewed => rfl
  | refused => rfl
  | thrown wrote => cases wrote <;> exact fail_stopped

@[simp] theorem finish_sent : (state.finish opts sentAt now outcome).sent = state.sent := by
  cases outcome with
  | renewed => rfl
  | refused => rfl
  | thrown wrote => cases wrote <;> exact fail_sent

theorem fail_lost (lost : state.lost = true) : (state.fail opts now).lost = true := by
  unfold fail
  dsimp only
  split
  · exact lost
  · rfl

theorem finish_lost (lost : state.lost = true) :
    (state.finish opts sentAt now outcome).lost = true := by
  cases outcome with
  | renewed => exact lost
  | refused => rfl
  | thrown wrote => cases wrote <;> exact fail_lost lost

theorem step_lost (lost : state.lost = true) : (state.step opts action).lost = true := by
  cases action with
  | start => simp [step, lost]
  | tick sentAt => simp [step, lost]
  | answer outcome now =>
    unfold step
    dsimp only
    split
    · exact lost
    · exact finish_lost lost
  | stop => exact lost

theorem step_stopped (stopped : state.stopped = true) :
    (state.step opts action).stopped = true := by
  cases action with
  | start => simp [step, stopped]
  | tick sentAt => simp [step, stopped]
  | answer outcome now =>
    unfold step
    dsimp only
    split
    · exact stopped
    · exact finish_stopped.trans stopped
  | stop => rfl

theorem step_sent (ended : state.lost = true ∨ state.stopped = true) :
    (state.step opts action).sent = state.sent := by
  cases action with
  | start =>
    unfold step
    dsimp only
    split <;> rfl
  | tick sentAt =>
    refine congrArg sent (if_pos ?_)
    exact ended.imp_right .inl
  | answer outcome now =>
    unfold step
    dsimp only
    split
    · rfl
    · exact finish_sent
  | stop => rfl

theorem run_lost (actions : List HeartbeatAction) (lost : state.lost = true) :
    (Runs.run (step opts) state actions).lost = true :=
  @Runs.invariant_run _ _ (step opts) (·.lost = true) state (fun holds => step_lost holds)
    actions lost

/-- By induction on the run. -/
theorem run_sent (actions : List HeartbeatAction)
    (ended : state.lost = true ∨ state.stopped = true) :
    (Runs.run (step opts) state actions).sent = state.sent := by
  induction actions generalizing state with
  | nil => rfl
  | cons action rest ih =>
    rw [Runs.run_cons, ih (ended.imp step_lost step_stopped), step_sent ended]

theorem fail_expiry :
    (state.fail opts now).currentExpiry = state.currentExpiry ∧
      (state.fail opts now).written = state.written := by
  unfold fail
  dsimp only
  split <;> exact ⟨rfl, rfl⟩

theorem tolerated_iff (holds : state.lost = false) :
    (state.fail opts now).lost = false ↔
      state.consecutiveFailures + 1 < opts.failureLimit ∧ now < state.currentExpiry := by
  unfold fail tolerates
  dsimp only
  split
  next tolerated => exact iff_of_true holds (of_decide_eq_true tolerated)
  next refused => exact iff_of_false nofun fun both => refused (decide_eq_true both)

/-- A lost lease has no call under way, and failures are counted from zero. -/
structure Idle (state : LeaseHeartbeat) : Prop where
  unsent : state.lost = true → state.inFlight = none
  counted : 0 ≤ state.consecutiveFailures

theorem idle_create (expiresAt : Int) : (create expiresAt).Idle := ⟨nofun, le_rfl⟩

theorem fail_counted (counted : 0 ≤ state.consecutiveFailures) :
    0 ≤ (state.fail opts now).consecutiveFailures := by
  unfold fail
  dsimp only
  split <;> exact Int.add_nonneg counted (by decide)

theorem idle_step (idle : state.Idle) : (state.step opts action).Idle := by
  cases action with
  | start =>
    unfold step
    dsimp only
    split <;> exact ⟨idle.unsent, idle.counted⟩
  | tick sentAt =>
    unfold step
    dsimp only
    split
    · exact idle
    next live => exact ⟨fun lost => absurd (.inl lost) live, idle.counted⟩
  | answer outcome now =>
    unfold step
    dsimp only
    split
    · exact idle
    · refine ⟨fun _ => rfl, ?_⟩
      cases outcome with
      | renewed => exact le_rfl
      | refused => exact idle.counted
      | thrown wrote => cases wrote <;> exact fail_counted idle.counted
  | stop => exact ⟨idle.unsent, idle.counted⟩

theorem step_thrown {wrote : Bool} (holds : state.lost = false)
    (sends : state.inFlight = some sentAt) :
    ((state.step opts (.answer (.thrown wrote) now)).lost = false ↔
        state.consecutiveFailures + 1 < opts.failureLimit ∧ now < state.currentExpiry) ∧
      (state.step opts (.answer (.thrown wrote) now)).written =
        if wrote then sentAt + opts.ttlMs else state.written := by
  simp only [step, sends, finish]
  cases wrote with
  | false => exact ⟨tolerated_iff holds, fail_expiry.2⟩
  | true => exact ⟨@tolerated_iff opts (state.writeRow opts sentAt) now holds, fail_expiry.2⟩

theorem inTime_iff (idle : state.Idle) :
    InTime opts state action ↔ OutsideDrift opts state action := by
  cases action with
  | start => exact iff_of_true (fun _ _ other => nomatch other) trivial
  | tick sentAt => exact iff_of_true (fun _ _ other => nomatch other) trivial
  | stop => exact iff_of_true (fun _ _ other => nomatch other) trivial
  | answer outcome now =>
    cases outcome with
    | renewed => exact iff_of_true (fun _ _ other => nomatch other) trivial
    | refused => exact iff_of_true (fun _ _ other => nomatch other) trivial
    | thrown wrote =>
      constructor
      · intro inTime sentAt sends few early
        have holds : state.lost = false :=
          Bool.eq_false_of_not_eq_true fun lost => by simp [idle.unsent lost] at sends
        obtain ⟨tolerated, written⟩ := @step_thrown opts state sentAt now wrote holds sends
        rw [← written]
        exact inTime wrote now rfl (Option.isSome_of_mem sends) (tolerated.2 ⟨few, early⟩)
      · rintro outside _ _ ⟨rfl, rfl⟩ sends tolerated
        obtain ⟨sentAt, sends⟩ := Option.isSome_iff_exists.1 sends
        have holds : state.lost = false :=
          Bool.eq_false_of_not_eq_true fun lost => by simp [idle.unsent lost] at sends
        obtain ⟨tolerates, written⟩ := @step_thrown opts state sentAt now wrote holds sends
        obtain ⟨few, early⟩ := tolerates.1 tolerated
        rw [written]
        exact outside sentAt sends few early

/-- The controller does not count on more than the row has. -/
def Covered (state : LeaseHeartbeat) : Prop := state.currentExpiry ≤ state.written

theorem covered_step (covered : state.Covered) (punctual : Punctual opts state action) :
    (state.step opts action).Covered := by
  cases action with
  | start =>
    unfold step
    dsimp only
    split <;> exact covered
  | tick sentAt =>
    unfold step
    dsimp only
    split <;> exact covered
  | answer outcome now =>
    unfold step
    dsimp only
    split
    · exact covered
    next sentAt sends =>
      cases outcome with
      | renewed =>
        have early : now ≤ sentAt := by simpa [Punctual, sends] using punctual
        exact Int.add_le_add_right early opts.ttlMs
      | refused => exact covered
      | thrown wrote =>
        cases wrote with
        | false =>
          obtain ⟨expiry, written⟩ := @fail_expiry opts state now
          exact (expiry.le.trans covered).trans written.ge
        | true =>
          obtain ⟨expiry, written⟩ := @fail_expiry opts (state.writeRow opts sentAt) now
          have later : state.currentExpiry ≤ sentAt + opts.ttlMs := by
            simpa [Punctual, sends] using punctual
          exact (expiry.le.trans later).trans written.ge
  | stop => exact covered

theorem outsideDrift_of_covered (covered : state.Covered)
    (punctual : Punctual opts state action) : OutsideDrift opts state action := by
  unfold OutsideDrift
  split
  next wrote now =>
    intro sentAt sends _ early
    cases wrote with
    | false => exact lt_of_lt_of_le early covered
    | true =>
      have later : state.currentExpiry ≤ sentAt + opts.ttlMs := by
        simpa [Punctual, Option.mem_def.1 sends] using punctual
      exact lt_of_lt_of_le early later
  · trivial

theorem sound_of_inTime {actions : List HeartbeatAction}
    (inTime : Runs.Meets (step opts) (InTime opts) state actions) : Sound opts state actions where
  inTime := inTime
  lossFinal := by
    rintro before after rfl lost
    rw [Runs.run_append]
    exact run_lost after lost
  silent := by
    rintro before after rfl ended
    rw [Runs.run_append]
    exact run_sent after ended

/-- Loss is final and silent in every run, and the tolerance stays within the lease exactly in the
runs in which no failure falls into the drift of the estimate. There is no drift where renewals
take no time, and no tolerance where one failure is the limit. -/
theorem heartbeat_sound_iff (opts : LeaseHeartbeatOptions) (expiresAt : Int)
    (actions : List HeartbeatAction) :
    (Sound opts (create expiresAt) actions ↔
        Runs.Meets (step opts) (OutsideDrift opts) (create expiresAt) actions) ∧
      (opts.failureLimit = 1 ∨ Runs.Meets (step opts) (Punctual opts) (create expiresAt) actions →
        Sound opts (create expiresAt) actions) := by
  have agree : Runs.Meets (step opts) (InTime opts) (create expiresAt) actions ↔
      Runs.Meets (step opts) (OutsideDrift opts) (create expiresAt) actions :=
    @Runs.meets_congr _ _ (step opts) _ _ _ Idle idle_step inTime_iff actions
      (idle_create expiresAt)
  refine ⟨⟨fun sound => agree.1 sound.inTime, fun outside => sound_of_inTime (agree.2 outside)⟩, ?_⟩
  rintro (single | punctual)
  · refine sound_of_inTime (agree.2 ?_)
    refine @Runs.Meets.of_invariant _ _ (step opts) (fun _ _ => True) Idle (create expiresAt) _
      (fun idle _ => idle_step idle) (fun idle _ => ?_) actions (idle_create expiresAt)
      (Runs.meets_true actions)
    unfold OutsideDrift
    split
    · intro _ _ few
      have counted := idle.counted
      omega
    · trivial
  · refine sound_of_inTime (agree.2 ?_)
    exact @Runs.Meets.of_invariant _ _ (step opts) (Punctual opts) Covered (create expiresAt) _
      covered_step outsideDrift_of_covered actions (le_refl expiresAt) punctual

/-- The first renewal is sent at 50 and returns at 90, so that the row expires at 150 and the
controller counts on 190; a call that fails at 160 is tolerated. -/
theorem heartbeat_drifts : ¬ Sound ⟨100, none⟩ (create 100)
    [.tick 50, .answer .renewed 90, .tick 160, .answer (.thrown false) 160] := by
  intro sound
  have late := sound.inTime.2.2.2.1 false 160 rfl rfl rfl
  revert late
  decide

end LeaseHeartbeat

end Tamanor.Sync
