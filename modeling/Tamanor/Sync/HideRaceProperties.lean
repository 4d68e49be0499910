import Tamanor.Sync.HidePlan

/-! Concurrent hides of one queue item: the unique index lets one executed row stand, and the
loser of the race looks for it by the key of its own call. -/

set_option autoImplicit false

namespace Tamanor.Sync

open Ai Library

def contradictsHide : Option (Option CommentState) → Bool
  | some (some (.readable _ false)) => true
  | _ => false

def HideCall.PostSucceeded (call : HideCall) (existing : List ExecutionRow) (now : Nat → Int) : Prop :=
  let run := (call.attempt existing now .failed).1
  (∃ input ∈ run.liveHides, (hideComment input false call.transport).any
    (fun result => result.status == .executed) = true) ∧
    contradictsHide (commentReport (call.env existing now .failed) 1 run.ctx) = false

instance (call : HideCall) (existing : List ExecutionRow) (now : Nat → Int) :
    Decidable (call.PostSucceeded existing now) :=
  inferInstanceAs (Decidable (_ ∧ _))

/-- The read that should verify the hide does not throw. -/
def HideCall.VerificationAnswers (call : HideCall) (existing : List ExecutionRow) (now : Nat → Int) :
    Prop :=
  commentReport (call.env existing now .failed) 1 (call.attempt existing now .failed).1.ctx ≠ some none

instance (call : HideCall) (existing : List ExecutionRow) (now : Nat → Int) :
    Decidable (call.VerificationAnswers existing now) :=
  inferInstanceAs (Decidable (_ ≠ _))

def returnsExecuted : Except HideFailure HideExecutionResult → Bool
  | .ok result => result.status == .executed
  | .error _ => false

/-- No call has thrown after a hide that it performed. -/
def NoCrash (system : HideSystem) : Prop :=
  ∀ returned ∈ system.returns, returned.call.PostSucceeded returned.existing returned.now →
    returnsExecuted returned.outcome.2 = true

instance (system : HideSystem) : Decidable (NoCrash system) :=
  inferInstanceAs (Decidable (∀ returned ∈ system.returns, _ → _))

def ExecutedApart (row other : ExecutionRow) : Prop :=
  row.status = .executed → other.status = .executed → row.sharesIndex other = false

def AtMostOneExecuted (executions : List ExecutionRow) : Prop := executions.Pairwise ExecutedApart

def HideContext.conflicts (ctx : HideContext) (row : ExecutionRow) : Bool :=
  ctx.queueItemId.isSome && row.queueItemId == ctx.queueItemId && row.actionType == "hide_comment" &&
    row.trigger == ctx.trigger

/-- After a POST that succeeded, the verification answers; and an executed row that stands in
the way is one of the call's own key. -/
def WinnerIsOwn (system : HideSystem) : HideStep → Prop
  | .advance client =>
    match system.calls client with
    | some (.acted call _ existing actedAt) =>
      call.PostSucceeded existing (readings actedAt system.clock) →
        call.VerificationAnswers existing (readings actedAt system.clock)
    | some (.refused call existing now) =>
      call.PostSucceeded existing now → ∀ row ∈ system.executions, row.status = .executed →
        call.ctx.conflicts row = true → attemptWhere call.ctx row = true
    | _ => True
  | _ => True

instance (system : HideSystem) : DecidablePred (WinnerIsOwn system)
  | .call _ _ | .ingest _ _ _ | .tick _ => .isTrue trivial
  | .advance client =>
    match stage : system.calls client with
    | none | some (.ingesting _ _) | some (.called _ _) => .isTrue (by simp [WinnerIsOwn, stage])
    | some (.acted call _ existing actedAt) =>
      decidable_of_iff (call.PostSucceeded existing (readings actedAt system.clock) →
        call.VerificationAnswers existing (readings actedAt system.clock))
        (by simp [WinnerIsOwn, stage])
    | some (.refused call existing now) =>
      decidable_of_iff (call.PostSucceeded existing now → ∀ row ∈ system.executions,
        row.status = .executed → call.ctx.conflicts row = true → attemptWhere call.ctx row = true)
        (by simp [WinnerIsOwn, stage])

variable {call : HideCall} {existing : List ExecutionRow} {now : Nat → Int} {plan : HidePlan}

/-- A call with a POST that succeeded stops because its verification threw, or comes to insert
an executed row. -/
theorem HideCall.Follows.of_succeeded (follows : call.Follows existing now plan)
    (succeeded : call.PostSucceeded existing now) :
    (plan.status? = none ∧ plan.outcome (call.env existing now .failed) = (plan.run, .error .transport) ∧
      ¬ call.VerificationAnswers existing now) ∨
    (plan.status? = some .executed ∧ call.VerificationAnswers existing now) := by
  have run : (call.attempt existing now .failed).1 = plan.run := by
    rw [follows.outcome]
    cases plan <;> rfl
  obtain ⟨⟨input, posted, accepted⟩, unopposed⟩ := succeeded
  obtain ⟨result, answer, status⟩ := (Option.any_eq_true _ _).mp accepted
  have executed : result.status = .executed := beq_iff_eq.mp status
  unfold HideCall.VerificationAnswers
  rw [run] at posted unopposed ⊢
  have only {ran : HideRun} {other : HideCommentInput}
      (posts : ran.liveHides = (HideRun.start call.ctx).liveHides ++ [other])
      (listed : input ∈ ran.liveHides) : hideComment other false call.transport = some result := by
    rw [posts] at listed
    rw [← List.mem_singleton.mp listed]
    exact answer
  cases follows.honest with
  | quiet same _ =>
    rw [same] at posted
    cases posted
  | threw posts threw =>
    have contradiction := (only posts posted).symm.trans threw
    cases contradiction
  | rejected posts other failed =>
    have same := Option.some.inj ((only posts posted).symm.trans other)
    exact absurd (same ▸ executed) failed
  | unverified _ _ _ threw => exact .inl ⟨rfl, rfl, fun answers => answers threw⟩
  | contradicted _ _ _ visible =>
    have opposed := (congrArg contradictsHide visible).symm.trans unopposed
    cases opposed
  | performed _ _ _ answered _ => exact .inr ⟨rfl, answered⟩

theorem HideCall.Follows.refused_executed (follows : call.Follows existing now plan)
    (status : plan.status? = some .executed) (winner : Option ExecutionRow) :
    returnsExecuted (call.attempt existing now (.uniqueViolation winner)).2 = true ↔
      winner.isSome = true := by
  cases plan with
  | stop run result => cases status
  | insert run planned reason provider =>
    have executed : planned = .executed := Option.some.inj status
    subst executed
    rw [follows.outcome]
    cases winner with
    | none => simp [HidePlan.outcome, record, HideCall.env, returnsExecuted]
    | some row => simp [HidePlan.outcome, record, HideCall.env, returnsExecuted]

variable {row : ExecutionRow} {executions : List ExecutionRow} {ctx : HideContext}
  {before after : HideSystem}

theorem executedApart_symm {other : ExecutionRow} (apart : ExecutedApart row other) :
    ExecutedApart other row := by
  intro executed same
  have different := apart same executed
  rw [← Bool.not_eq_true] at different ⊢
  intro shares
  simp only [ExecutionRow.sharesIndex, Bool.and_eq_true, beq_iff_eq] at shares different
  obtain ⟨⟨⟨present, queue⟩, action⟩, trigger⟩ := shares
  exact different ⟨⟨⟨queue ▸ present, queue.symm⟩, action.symm⟩, trigger.symm⟩

instance : Std.Symm ExecutedApart := ⟨fun _ _ => executedApart_symm⟩

theorem AtMostOneExecuted.insert (unique : AtMostOneExecuted executions)
    (accepted : refusesInsert executions row = false) : AtMostOneExecuted (row :: executions) := by
  refine List.pairwise_cons.mpr ⟨?_, unique⟩
  intro other member executed same
  rw [← Bool.not_eq_true] at accepted ⊢
  intro shares
  refine accepted ?_
  simp only [refusesInsert, executed, beq_self_eq_true, Bool.true_and, List.any_eq_true]
  exact ⟨other, member, by simp [same, shares]⟩

def RefusedBy (system : HideSystem) (call : HideCall) (existing : List ExecutionRow)
    (now : Nat → Int) : Prop :=
  (∃ plan, call.Follows existing now plan ∧ plan.status? = some .executed) ∧
    ∃ row ∈ system.executions, row.status = .executed ∧ call.ctx.conflicts row = true

structure RaceSound (system : HideSystem) : Prop where
  unique : AtMostOneExecuted system.executions
  refused : ∀ {client call existing now}, system.calls client = some (.refused call existing now) →
    RefusedBy system call existing now

theorem conflicts_of_attemptWhere (queued : ctx.queueItemId.isSome = true)
    (own : attemptWhere ctx row = true) :
    ctx.conflicts row = true := by
  simp only [attemptWhere, Bool.and_eq_true] at own
  obtain ⟨⟨⟨⟨⟨⟨_, _⟩, queue⟩, _⟩, action⟩, trigger⟩, _⟩ := own
  simp only [HideContext.conflicts, queued, queue, action, trigger, Bool.and_self]

theorem sharesIndex_of_conflicts {other : ExecutionRow} (first : ctx.conflicts row = true)
    (second : ctx.conflicts other = true) :
    row.sharesIndex other = true := by
  simp only [HideContext.conflicts, Bool.and_eq_true, beq_iff_eq] at first second
  obtain ⟨⟨⟨queued, queue⟩, action⟩, trigger⟩ := first
  simp only [ExecutionRow.sharesIndex, queue, action, trigger, queued, second.1.1.2, second.1.2,
    second.2, beq_self_eq_true, Bool.and_self]

theorem findWinner_isSome_iff (unique : AtMostOneExecuted executions)
    (refused : ∃ row ∈ executions, row.status = .executed ∧ ctx.conflicts row = true) :
    (findWinner executions ctx).isSome = true ↔ ∀ row ∈ executions, row.status = .executed →
      ctx.conflicts row = true → attemptWhere ctx row = true := by
  constructor
  · intro found row member executed conflicts
    obtain ⟨winner, selected⟩ := Option.isSome_iff_exists.mp found
    have present := List.mem_of_find?_eq_some selected
    have own := List.find?_some selected
    simp only [Bool.and_eq_true, beq_iff_eq] at own
    have queued : ctx.queueItemId.isSome = true := by
      simp only [HideContext.conflicts, Bool.and_eq_true] at conflicts
      exact conflicts.1.1.1
    have shares := sharesIndex_of_conflicts conflicts (conflicts_of_attemptWhere queued own.1)
    by_cases same : row = winner
    · rw [same]
      exact own.1
    · have apart := unique.forall member present same executed own.2
      rw [shares] at apart
      cases apart
  · intro all
    obtain ⟨row, member, executed, conflicts⟩ := refused
    refine List.find?_isSome.mpr ⟨row, member, ?_⟩
    simp [all row member executed conflicts, executed]

theorem RefusedBy.mono (refused : RefusedBy before call existing now)
    (kept : ∀ row ∈ before.executions, row ∈ after.executions) :
    RefusedBy after call existing now := by
  obtain ⟨follows, row, member, executed, conflicts⟩ := refused
  exact ⟨follows, row, kept row member, executed, conflicts⟩

theorem RaceSound.move (sound : RaceSound before) (unique : AtMostOneExecuted after.executions)
    (kept : ∀ row ∈ before.executions, row ∈ after.executions)
    (calls : ∀ client call existing now, after.calls client = some (.refused call existing now) →
      before.calls client = some (.refused call existing now)) : RaceSound after where
  unique := unique
  refused waiting := (sound.refused (calls _ _ _ _ waiting)).mono kept

variable {system : HideSystem} {client : Nat}

theorem RaceSound.setCall (sound : RaceSound system) {stage : Option HideStage}
    (accepted : ∀ call existing now, stage = some (.refused call existing now) →
      RefusedBy system call existing now) : RaceSound (system.setCall client stage) where
  unique := sound.unique
  refused := by
    intro other call existing now waiting
    by_cases same : other = client
    · subst same
      simp only [HideSystem.setCall, Function.update_self] at waiting
      exact (accepted call existing now waiting).mono fun _ member => member
    · simp only [HideSystem.setCall, Function.update_of_ne same] at waiting
      exact (sound.refused waiting).mono fun _ member => member

theorem refusedBy_of_refusesInsert (inserts : call.insertion existing now = some row)
    (refuses : refusesInsert system.executions row = true) :
    RefusedBy system call existing now := by
  obtain ⟨plan, follows⟩ := call.follows existing now
  cases plan with
  | stop run result =>
    rw [follows.insertion_stop] at inserts
    cases inserts
  | insert run status reason provider =>
    rw [follows.insertion_insert] at inserts
    obtain ⟨account, context⟩ := follows.context
    change run.ctx = _ at context
    rw [← Option.some.inj inserts] at refuses
    simp only [refusesInsert, Bool.and_eq_true, List.any_eq_true, beq_iff_eq] at refuses
    obtain ⟨executed, other, member, same, shares⟩ := refuses
    have isExecuted : status = .executed := executed
    refine ⟨⟨_, follows, by rw [isExecuted]; rfl⟩, other, member, same, ?_⟩
    simpa [ExecutionRow.sharesIndex, HideContext.conflicts, executionRow, context] using shares

theorem RaceSound.step (sound : RaceSound system) (action : HideStep) :
    RaceSound (system.step action) := by
  have waits (stage : Option HideStage)
      (other : ∀ call existing now, stage ≠ some (.refused call existing now)) (client : Nat) :
      RaceSound (system.setCall client stage) :=
    sound.setCall fun call existing now same => absurd same (other call existing now)
  cases action with
  | call client call =>
    simp only [HideSystem.step]
    split
    · exact sound
    · exact waits _ (by simp) client
  | ingest client call switches =>
    simp only [HideSystem.step]
    split
    · exact sound
    · exact waits _ (by simp) client
  | tick ms => exact sound.move sound.unique (fun _ member => member) fun _ _ _ _ waiting => waiting
  | advance client =>
    simp only [HideSystem.step]
    split
    · exact sound
    · rename_i stage running
      cases stage with
      | ingesting call switches => exact waits _ (by simp) client
      | called call load => exact waits _ (by simp) client
      | acted call load existing actedAt =>
        simp only [HideSystem.advance]
        split
        · exact (waits none (by simp) client).move sound.unique (fun _ member => member)
            fun _ _ _ _ waiting => waiting
        · rename_i row inserts
          split
          · rename_i refuses
            refine sound.setCall fun other rows clock same => ?_
            cases same
            exact refusedBy_of_refusesInsert inserts refuses
          · rename_i accepted
            exact (waits none (by simp) client).move
              (sound.unique.insert (Bool.not_eq_true _ ▸ accepted))
              (fun _ member => List.mem_cons_of_mem _ member) fun _ _ _ _ waiting => waiting
      | refused call existing now =>
        exact (waits none (by simp) client).move sound.unique (fun _ member => member)
          fun _ _ _ _ waiting => waiting

theorem noCrash_congr (returns : after.returns = before.returns) :
    NoCrash after ↔ NoCrash before := by
  simp only [NoCrash, returns]

theorem noCrash_finish (noCrash : NoCrash system) (client : Nat) (outcome : HideOutcome) :
    NoCrash (system.finish client call existing now outcome) ↔
      (call.PostSucceeded existing now → returnsExecuted outcome.2 = true) := by
  constructor
  · intro kept
    exact kept ⟨call, existing, now, outcome⟩ (List.mem_append_right _ (List.mem_singleton_self _))
  · intro here other member
    rcases List.mem_append.mp member with old | new
    · exact noCrash other old
    · rw [List.mem_singleton.mp new]
      exact here

/-- The call that acts now returns as executed, or goes on to look for the winner, exactly if
its verification answers. -/
theorem noCrash_acted {load : Option HideLoad} {actedAt : Int} (noCrash : NoCrash system) :
    NoCrash (system.advance client (.acted call load existing actedAt)) ↔
      (call.PostSucceeded existing (readings actedAt system.clock) →
        call.VerificationAnswers existing (readings actedAt system.clock)) := by
  obtain ⟨plan, follows⟩ := call.follows existing (readings actedAt system.clock)
  simp only [HideSystem.advance]
  cases plan with
  | stop run result =>
    rw [follows.insertion_stop]
    refine (noCrash_finish noCrash client _).trans (imp_congr_right fun succeeded => ?_)
    rcases follows.of_succeeded succeeded with ⟨_, outcome, unanswered⟩ | ⟨status, _⟩
    · have failed : result = .error .transport := congrArg Prod.snd outcome
      simp [follows.outcome, HidePlan.outcome, failed, unanswered, returnsExecuted]
    · cases status
  | insert run status reason provider =>
    rw [follows.insertion_insert]
    have answers (succeeded : call.PostSucceeded existing (readings actedAt system.clock)) :
        status = .executed ∧ call.VerificationAnswers existing (readings actedAt system.clock) := by
      rcases follows.of_succeeded succeeded with ⟨none, _⟩ | ⟨executed, answers⟩
      · cases none
      · exact ⟨Option.some.inj executed, answers⟩
    dsimp only
    split
    · exact iff_of_true noCrash fun succeeded => (answers succeeded).2
    · refine (noCrash_congr rfl).trans ((noCrash_finish noCrash client _).trans
        (imp_congr_right fun succeeded => ?_))
      refine iff_of_true ?_ (answers succeeded).2
      rw [follows.created_result, (answers succeeded).1]
      rfl

theorem noCrash_refused (sound : RaceSound system)
    (running : system.calls client = some (.refused call existing now)) (noCrash : NoCrash system) :
    NoCrash (system.advance client (.refused call existing now)) ↔
      (call.PostSucceeded existing now → ∀ row ∈ system.executions, row.status = .executed →
        call.ctx.conflicts row = true → attemptWhere call.ctx row = true) := by
  obtain ⟨⟨plan, follows, status⟩, refused⟩ := sound.refused running
  refine (noCrash_finish noCrash client _).trans (imp_congr_right fun _ => ?_)
  rw [← findWinner_isSome_iff sound.unique refused]
  exact follows.refused_executed status _

theorem noCrash_step_iff (sound : RaceSound system) (noCrash : NoCrash system) (action : HideStep) :
    NoCrash (system.step action) ↔ WinnerIsOwn system action := by
  cases action with
  | call client call =>
    simp only [HideSystem.step, WinnerIsOwn, iff_true]
    split <;> exact noCrash
  | ingest client call switches =>
    simp only [HideSystem.step, WinnerIsOwn, iff_true]
    split <;> exact noCrash
  | tick ms => exact iff_of_true noCrash trivial
  | advance client =>
    simp only [HideSystem.step, WinnerIsOwn]
    cases running : system.calls client with
    | none => exact iff_of_true noCrash trivial
    | some stage =>
      cases stage with
      | ingesting call switches => exact iff_of_true noCrash trivial
      | called call load => exact iff_of_true noCrash trivial
      | acted call load existing actedAt => exact noCrash_acted noCrash
      | refused call existing now => exact noCrash_refused sound running noCrash

theorem RaceSound.opened (unique : AtMostOneExecuted executions)
    (settings : String → BrandSafetySettings) (days : LocalDays) (clock : Int) :
    RaceSound (HideSystem.opened executions settings days clock) :=
  ⟨unique, fun waiting => nomatch waiting⟩

/-- For every interleaving: at every moment at most one executed row stands for a queue item,
action and trigger; and no call throws after a hide that it performed, exactly if every loser
is refused by a row of its own key and every verification answers. -/
theorem executed_once_and_noCrash_iff (executions : List ExecutionRow)
    (settings : String → BrandSafetySettings) (days : LocalDays) (clock : Int)
    (unique : AtMostOneExecuted executions) (steps : List HideStep) :
    (∀ reached ∈ Runs.states HideSystem.step (.opened executions settings days clock) steps,
      AtMostOneExecuted reached.executions) ∧
    ((∀ reached ∈ Runs.states HideSystem.step (.opened executions settings days clock) steps,
      NoCrash reached) ↔
      Runs.Meets HideSystem.step WinnerIsOwn (.opened executions settings days clock) steps) := by
  have start := RaceSound.opened unique settings days clock
  have framed : ∀ {system : HideSystem} {action : HideStep}, RaceSound system →
      RaceSound (system.step action) := fun sound => sound.step _
  constructor
  · intro reached member
    exact (Runs.forall_states framed steps start reached member).unique
  · exact Runs.forall_states_iff_meets framed
      (fun sound noCrash => noCrash_step_iff sound noCrash _) start fun _ none => nomatch none

def policyCall (policyId executionId : String) : HideCall where
  cfg := liveConfig
  options := { retry := false, liveAttempt := false, safety := some openSafety }
  ctx := { spamContext with policyId := some policyId }
  transport := acceptingEnvironment.transport
  executionId := executionId

def raceSteps (first second : HideCall) : List HideStep :=
  [.call 0 first, .call 1 second, .advance 0, .advance 1, .advance 0, .advance 1, .advance 1]

def emptyTable : HideSystem := .opened [] (fun _ => openSafety.settings) utcDays 0

theorem executed_once_and_noCrash_one_policy :
    (Runs.run HideSystem.step emptyTable
        (raceSteps (policyCall "p" "a") (policyCall "p" "b"))).returns.length = 2 ∧
      ∀ reached ∈ Runs.states HideSystem.step emptyTable
        (raceSteps (policyCall "p" "a") (policyCall "p" "b")), NoCrash reached := by
  refine ⟨by decide +kernel, (executed_once_and_noCrash_iff [] (fun _ => openSafety.settings) utcDays
    0 List.Pairwise.nil _).2.mpr ?_⟩
  decide +kernel

/-- The loser's policy is another one: it finds no row, and throws. -/
theorem not_noCrash :
    ¬ ∀ reached ∈ Runs.states HideSystem.step emptyTable
        (raceSteps (policyCall "p" "a") (policyCall "q" "b")), NoCrash reached := by
  intro noCrash
  have crashed := noCrash _ (Runs.run_mem_states _)
  revert crashed
  decide +kernel

end Tamanor.Sync
