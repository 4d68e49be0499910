import Tamanor.Library.Runs
import Tamanor.Library.Table

/-! Calls that run side by side on a shared state, one statement at a time. The proof rule
gives each stage of a call an assertion: the statements of the call establish it, and those of
the other calls leave it alone. -/

set_option autoImplicit false

namespace Tamanor.Library.Interleaving

variable {Shared Request Stage Choice Event : Type}

/-- A statement may end in several ways, of which the choice names one. An event happens
beside the calls. -/
structure Program (Shared Request Stage Choice Event : Type) where
  enter : Shared → Request → Stage
  statement : Shared → Nat → Stage → Choice → Shared × Stage
  occur : Shared → Event → Shared

structure System (Shared Stage : Type) where
  shared : Shared
  calls : Table Nat Stage

inductive Action (Request Choice Event : Type) where
  | enter (call : Nat) (request : Request)
  | statement (call : Nat) (choice : Choice)
  | occur (event : Event)

def System.initial (shared : Shared) : System Shared Stage := ⟨shared, .empty⟩

def System.alone (system : System Shared Stage) (call : Nat) (test : Stage → Bool) : Bool :=
  system.calls.rows.all fun entry => decide (entry.1 = call) || !test entry.2

theorem System.alone_iff {system : System Shared Stage} {call : Nat} {test : Stage → Bool} :
    system.alone call test = true ↔
      ∀ other stage, system.calls.find? other = some stage → other ≠ call → test stage = false := by
  unfold System.alone
  rw [List.all_eq_true]
  constructor
  · intro all other stage found different
    have here := all _ (Table.find?_eq_some_iff.mp found)
    simpa [different] using here
  · intro all entry member
    have here := all entry.1 entry.2 (Table.find?_eq_some_iff.mpr member)
    by_cases same : entry.1 = call
    · simp [same]
    · simp [here same]

namespace Program

variable (program : Program Shared Request Stage Choice Event)

/-- A call enters once; a statement of a call that is not there does nothing. -/
def step (system : System Shared Stage) : Action Request Choice Event → System Shared Stage
  | .enter call request =>
    { system with calls := system.calls.insert call (program.enter system.shared request) }
  | .statement call choice =>
    match system.calls.find? call with
    | none => system
    | some stage =>
      let after := program.statement system.shared call stage choice
      { shared := after.1, calls := system.calls.modify call fun _ => after.2 }
  | .occur event => { system with shared := program.occur system.shared event }

variable {program} {system : System Shared Stage} {call : Nat} {stage : Stage} {choice : Choice}

theorem step_statement (found : system.calls.find? call = some stage) :
    program.step system (.statement call choice) =
      { shared := (program.statement system.shared call stage choice).1
        calls := system.calls.modify call fun _ =>
          (program.statement system.shared call stage choice).2 } := by
  simp only [step, found]

theorem step_absent (absent : system.calls.find? call = none) :
    program.step system (.statement call choice) = system := by
  simp only [step, absent]

end Program

/-- What holds of the shared state, and what holds of it for a call that stands at a stage or
has not entered. -/
structure Assertions (Shared Stage : Type) where
  invariant : Shared → Prop
  assertion : Shared → Nat → Option Stage → Prop

namespace Assertions

variable (assertions : Assertions Shared Stage)

structure Hold (system : System Shared Stage) : Prop where
  invariant : assertions.invariant system.shared
  assertion : ∀ call, assertions.assertion system.shared call (system.calls.find? call)

variable (program : Program Shared Request Stage Choice Event)
  (condition : System Shared Stage → Action Request Choice Event → Prop)

/-- The proof obligations, for steps that meet a condition. -/
structure Sound : Prop where
  enter : ∀ {system : System Shared Stage} {call : Nat} {request : Request},
    assertions.Hold system → condition system (.enter call request) →
    assertions.assertion system.shared call none →
    assertions.assertion system.shared call (some (program.enter system.shared request))
  statement : ∀ {system : System Shared Stage} {call : Nat} {stage : Stage} {choice : Choice},
    assertions.Hold system → condition system (.statement call choice) →
    system.calls.find? call = some stage →
    assertions.invariant (program.statement system.shared call stage choice).1 ∧
      assertions.assertion (program.statement system.shared call stage choice).1 call
        (some (program.statement system.shared call stage choice).2)
  undisturbed : ∀ {system : System Shared Stage} {call : Nat} {stage : Stage} {choice : Choice}
    {other : Nat},
    assertions.Hold system → condition system (.statement call choice) →
    system.calls.find? call = some stage → other ≠ call →
    assertions.assertion (program.statement system.shared call stage choice).1 other
      (system.calls.find? other)
  occur : ∀ {system : System Shared Stage} {event : Event},
    assertions.Hold system → condition system (.occur event) →
    assertions.invariant (program.occur system.shared event) ∧
      ∀ call, assertions.assertion (program.occur system.shared event) call
        (system.calls.find? call)

variable {assertions program condition}

theorem Hold.initial {shared : Shared} (invariant : assertions.invariant shared)
    (absent : ∀ call, assertions.assertion shared call none) :
    assertions.Hold (System.initial shared) :=
  ⟨invariant, absent⟩

variable {system : System Shared Stage}

theorem Hold.at_stage (holds : assertions.Hold system) {call : Nat} {stage : Stage}
    (found : system.calls.find? call = some stage) :
    assertions.assertion system.shared call (some stage) := by
  rw [← found]
  exact holds.assertion call

theorem Sound.step (sound : assertions.Sound program condition)
    {action : Action Request Choice Event} (holds : assertions.Hold system)
    (meets : condition system action) : assertions.Hold (program.step system action) := by
  cases action with
  | enter call request =>
    cases present : system.calls.find? call with
    | some stage =>
      simp only [Program.step, Table.insert_taken present]
      exact holds
    | none =>
      have absent := holds.assertion call
      rw [present] at absent
      have entered := sound.enter holds meets absent
      refine ⟨holds.invariant, ?_⟩
      intro other
      simp only [Program.step]
      rw [Table.find?_insert call present]
      split
      next same =>
        rw [same]
        exact entered
      next => exact holds.assertion other
  | statement call choice =>
    cases present : system.calls.find? call with
    | none =>
      rw [Program.step_absent present]
      exact holds
    | some stage =>
      obtain ⟨invariant, own⟩ := sound.statement holds meets present
      rw [Program.step_statement present]
      refine ⟨invariant, ?_⟩
      intro other
      dsimp only
      rw [Table.find?_modify]
      split
      next same =>
        rw [same, present]
        exact own
      next different => exact sound.undisturbed holds meets present different
  | occur event =>
    obtain ⟨invariant, unmoved⟩ := sound.occur holds meets
    exact ⟨invariant, unmoved⟩

theorem Sound.states (sound : assertions.Sound program condition)
    {actions : List (Action Request Choice Event)} (initial : assertions.Hold system)
    (meets : Runs.Meets program.step condition system actions) :
    ∀ reached ∈ Runs.states program.step system actions, assertions.Hold reached :=
  Runs.invariant_states (fun holds condition => sound.step holds condition) initial meets

theorem Sound.meets (sound : assertions.Sound program condition)
    {promise : System Shared Stage → Action Request Choice Event → Prop}
    (promised : ∀ {system action}, assertions.Hold system → condition system action →
      promise system action) {actions : List (Action Request Choice Event)}
    (initial : assertions.Hold system) (meets : Runs.Meets program.step condition system actions) :
    Runs.Meets program.step promise system actions :=
  Runs.Meets.of_invariant (fun holds condition => sound.step holds condition) promised initial meets

end Assertions

end Tamanor.Library.Interleaving
