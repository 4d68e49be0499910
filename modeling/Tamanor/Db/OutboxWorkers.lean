import Tamanor.Db.FamilyNotificationOutbox
import Tamanor.Library.Runs

/-! Any number of workers on one outbox. A worker keeps the rows it has claimed and settles
them one by one; in the meantime their lease may expire and other workers may claim them. -/

set_option autoImplicit false

namespace Tamanor.Db

open Library

structure OutboxWorker where
  now : Int
  /-- Claimed, and not processed yet. -/
  remaining : List ClaimedRow
  /-- Processed, and not settled yet. -/
  deciding : Option (ClaimedRow × OutboxOutcome)

def OutboxWorker.idle : OutboxWorker := ⟨0, [], none⟩

def OutboxWorker.isIdle (worker : OutboxWorker) : Bool :=
  worker.remaining.isEmpty && worker.deciding.isNone

def OutboxWorker.held (worker : OutboxWorker) : List ClaimedRow :=
  worker.deciding.toList.map Prod.fst ++ worker.remaining

structure OutboxSystem where
  events : OutboxTable
  workers : Nat → OutboxWorker

inductive OutboxAction where
  | claim (worker : Nat) (now : Int) (batchSize : Option ℚ)
  /-- The order in which a claim returns its rows is up to the database. -/
  | process (worker : Nat) (id : String) (create : CreateNotification)
  | settle (worker : Nat)
  | crash (worker : Nat)

namespace OutboxSystem

def start (events : OutboxTable) : OutboxSystem := ⟨events, fun _ => .idle⟩

def withWorker (system : OutboxSystem) (worker : Nat) (state : OutboxWorker) : OutboxSystem :=
  { system with workers := Function.update system.workers worker state }

def step (system : OutboxSystem) : OutboxAction → OutboxSystem
  | .claim worker now batchSize =>
    if (system.workers worker).isIdle then
      let (events, rows) := claimBatch now batchSize system.events
      { system with events := events }.withWorker worker ⟨now, rows, none⟩
    else system
  | .process worker id create =>
    let state := system.workers worker
    match state.deciding, state.remaining.find? (·.id == id) with
    | none, some ev =>
      system.withWorker worker
        { state with
          remaining := state.remaining.filter (·.id ≠ id)
          deciding := some (ev, processOne ev state.now create) }
    | _, _ => system
  | .settle worker =>
    let state := system.workers worker
    match state.deciding with
    | some (ev, outcome) =>
      { system with events := settleEvent ev state.now outcome system.events }.withWorker worker
        { state with deciding := none }
    | none => system
  | .crash worker => system.withWorker worker .idle

variable {system : OutboxSystem} {worker other : Nat} {state : OutboxWorker} {ev : ClaimedRow}

@[simp] theorem events_withWorker : (system.withWorker worker state).events = system.events := rfl

@[simp] theorem workers_withWorker_self : (system.withWorker worker state).workers worker = state :=
  Function.update_self ..

theorem workers_withWorker_other (different : other ≠ worker) :
    (system.withWorker worker state).workers other = system.workers other :=
  Function.update_of_ne different ..

theorem step_claim (now : Int) (size : Option ℚ)
    (idle : (system.workers worker).isIdle = true) :
    system.step (.claim worker now size) =
      { system with events := (claimBatch now size system.events).1 }.withWorker worker
        ⟨now, (claimBatch now size system.events).2, none⟩ := by
  simp only [step, idle, if_true]

theorem step_process (system : OutboxSystem) (worker : Nat) {id : String} (create : CreateNotification)
    (free : (system.workers worker).deciding = none)
    (found : (system.workers worker).remaining.find? (·.id == id) = some ev) :
    system.step (.process worker id create) =
      system.withWorker worker
        { system.workers worker with
          remaining := (system.workers worker).remaining.filter (·.id ≠ id)
          deciding := some (ev, processOne ev (system.workers worker).now create) } := by
  simp only [step, free, found]

theorem step_settle (system : OutboxSystem) (worker : Nat) {outcome : OutboxOutcome}
    (decided : (system.workers worker).deciding = some (ev, outcome)) :
    system.step (.settle worker) =
      { system with
        events := settleEvent ev (system.workers worker).now outcome system.events }.withWorker worker
        { system.workers worker with deciding := none } := by
  simp only [step, decided]

theorem step_cases (system : OutboxSystem) (action : OutboxAction) :
    (∃ worker now size, action = .claim worker now size ∧ (system.workers worker).held = [] ∧
      system.step action = { system with events := (claimBatch now size system.events).1 }.withWorker
        worker ⟨now, (claimBatch now size system.events).2, none⟩) ∨
    (∃ worker ev outcome, action = .settle worker ∧
      (system.workers worker).deciding = some (ev, outcome) ∧
      system.step action = { system with
        events := settleEvent ev (system.workers worker).now outcome system.events }.withWorker worker
        { system.workers worker with deciding := none }) ∨
    (system.step action).events = system.events ∧
      ∀ worker, ((system.step action).workers worker).held.Subperm (system.workers worker).held := by
  have unchanged (same : system.step action = system) :
      (system.step action).events = system.events ∧
        ∀ worker, ((system.step action).workers worker).held.Subperm (system.workers worker).held := by
    rw [same]
    exact ⟨rfl, fun _ => List.Subperm.refl _⟩
  have replaced {worker : Nat} {state : OutboxWorker} (same : system.step action =
      system.withWorker worker state) (fewer : state.held.Subperm (system.workers worker).held) :
      (system.step action).events = system.events ∧
        ∀ worker, ((system.step action).workers worker).held.Subperm (system.workers worker).held := by
    rw [same]
    refine ⟨rfl, fun other => ?_⟩
    by_cases here : other = worker
    · rw [here, workers_withWorker_self]
      exact fewer
    · rw [workers_withWorker_other here]
  cases action with
  | claim worker now size =>
    cases idle : (system.workers worker).isIdle with
    | true =>
      refine .inl ⟨worker, now, size, rfl, ?_, step_claim now size idle⟩
      simp only [OutboxWorker.isIdle, Bool.and_eq_true, List.isEmpty_iff,
        Option.isNone_iff_eq_none] at idle
      simp [OutboxWorker.held, idle.1, idle.2]
    | false => exact .inr (.inr (unchanged (by simp [step, idle])))
  | process worker id create =>
    refine .inr (.inr ?_)
    cases free : (system.workers worker).deciding with
    | some decided => exact unchanged (by simp only [step, free])
    | none =>
      cases found : (system.workers worker).remaining.find? (·.id == id) with
      | none => exact unchanged (by simp only [step, free, found])
      | some ev =>
        refine replaced (step_process system worker create free found) ?_
        have here : ev.id = id := by simpa using List.find?_some found
        have member := List.mem_of_find?_eq_some found
        have outside : ev ∉ (system.workers worker).remaining.filter (·.id ≠ id) := by
          simp [here]
        show (ev :: List.filter _ _).Subperm _
        simp only [OutboxWorker.held, free, Option.toList_none, List.map_nil, List.nil_append]
        exact List.cons_subperm_of_not_mem_of_mem outside member List.filter_sublist.subperm
  | settle worker =>
    cases decided : (system.workers worker).deciding with
    | none => exact .inr (.inr (unchanged (by simp only [step, decided])))
    | some both => exact .inr (.inl ⟨worker, both.1, both.2, rfl, decided,
        step_settle system worker decided⟩)
  | crash worker =>
    have crashes : system.step (.crash worker) = system.withWorker worker .idle := rfl
    exact .inr (.inr (replaced crashes List.nil_subperm))

end OutboxSystem

open OutboxSystem

/-! A worker alone is the function of the source. -/

def settleActions (worker : Nat) (create : CreateNotification) (ev : ClaimedRow) :
    List OutboxAction :=
  [.process worker ev.id create, .settle worker]

theorem filter_other_ids {ev : ClaimedRow} {rows : List ClaimedRow}
    (absent : ev.id ∉ rows.map ClaimedRow.id) : rows.filter (·.id ≠ ev.id) = rows := by
  apply List.filter_eq_self.mpr
  intro other member
  have different : other.id ≠ ev.id := fun same => absent (same ▸ List.mem_map_of_mem member)
  simpa using different

theorem run_settleActions (worker : Nat) (batch : OutboxBatch) (done rest : List ClaimedRow)
    (system : OutboxSystem) (state : system.workers worker = ⟨batch.now, done ++ rest, none⟩)
    (distinct : ((done ++ rest).map ClaimedRow.id).Nodup) :
    (Runs.run step system (done.flatMap (settleActions worker batch.create))).events =
      batch.settleAll done system.events := by
  induction done generalizing system with
  | nil => rfl
  | cons ev done ih =>
    rw [List.cons_append, List.map_cons, List.nodup_cons] at distinct
    have others : (ev :: (done ++ rest)).filter (·.id ≠ ev.id) = done ++ rest := by
      rw [List.filter_cons_of_neg (by simp)]
      exact filter_other_ids distinct.1
    have free : (system.workers worker).deciding = none := by rw [state]
    have next : (system.workers worker).remaining.find? (·.id == ev.id) = some ev := by
      rw [state, List.cons_append, List.find?_cons_of_pos (by simp)]
    have processes := step_process system worker batch.create free next
    rw [state, List.cons_append, others] at processes
    have settles := step_settle
      (system.withWorker worker ⟨batch.now, done ++ rest, some (ev, batch.outcome ev)⟩) worker
      (congrArg OutboxWorker.deciding workers_withWorker_self)
    rw [List.flatMap_cons, Runs.run_append, settleActions, Runs.run_cons, Runs.run_cons,
      Runs.run_nil, processes]
    refine (congrArg (fun state => (Runs.run step state _).events) settles).trans ?_
    rw [ih _ (by simp) distinct.2]
    simp [OutboxBatch.settleAll]

theorem run_batch_alone (worker : Nat) (batch : OutboxBatch) (system : OutboxSystem)
    (idle : (system.workers worker).isIdle = true) :
    (Runs.run step system (.claim worker batch.now batch.batchSize ::
        (batch.settled (claimBatch batch.now batch.batchSize system.events).2).flatMap
          (settleActions worker batch.create))).events =
      (processFamilyNotificationOutboxBatch batch system.events).1 := by
  obtain ⟨rest, split⟩ : ∃ rest, batch.settled (claimBatch batch.now batch.batchSize
      system.events).2 ++ rest = (claimBatch batch.now batch.batchSize system.events).2 := by
    unfold OutboxBatch.settled
    split
    · exact ⟨[], List.append_nil _⟩
    · exact ⟨_, List.take_append_drop _ _⟩
  rw [Runs.run_cons, step_claim _ _ idle]
  refine run_settleActions worker batch _ rest _ ?_ ?_
  · rw [workers_withWorker_self, split]
  · rw [split]
    exact nodup_claimBatch _ _ _

def idleBatch : OutboxBatch := ⟨0, none, fun _ _ _ => none, none⟩

theorem run_batch_alone_queued :
    (Runs.run step (start queuedEvents) (.claim 0 0 none ::
        (idleBatch.settled (claimBatch 0 none queuedEvents).2).flatMap
          (settleActions 0 idleBatch.create))).events =
      (processFamilyNotificationOutboxBatch idleBatch queuedEvents).1 :=
  run_batch_alone 0 idleBatch (start queuedEvents) rfl

end Tamanor.Db
