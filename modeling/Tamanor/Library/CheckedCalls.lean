import Tamanor.Library.Interleaving

/-! Calls that know nothing of the shared state from one statement to the next: what a call has
checked is a property of its stage. A test of the shared state says when a statement finds what
it relies on. -/

set_option autoImplicit false

namespace Tamanor.Library.Interleaving

variable {Shared Request Stage Choice Event : Type}

namespace Program

variable (program : Program Shared Request Stage Choice Event)

def allows (test : Shared → Stage → Choice → Bool) (system : System Shared Stage) :
    Action Request Choice Event → Bool
  | .statement call choice =>
    (system.calls.find? call).all fun stage => test system.shared stage choice
  | _ => true

/-- What is promised of each statement, by the states and the stages before and after it. -/
def Keeps (promise : Shared → Shared → Stage → Stage → Prop) (system : System Shared Stage)
    (action : Action Request Choice Event) : Prop :=
  ∀ call choice stage, action = .statement call choice → system.calls.find? call = some stage →
    promise system.shared (program.statement system.shared call stage choice).1 stage
      (program.statement system.shared call stage choice).2

/-- The proof obligations, for statements that pass the test. -/
structure Checks (invariant : Shared → Prop) (checked : Stage → Prop)
    (test : Shared → Stage → Choice → Bool)
    (promise : Shared → Shared → Stage → Stage → Prop) : Prop where
  enter : ∀ shared request, checked (program.enter shared request)
  statement : ∀ shared call stage choice, invariant shared → checked stage →
    test shared stage choice = true →
    invariant (program.statement shared call stage choice).1 ∧
      checked (program.statement shared call stage choice).2 ∧
      promise shared (program.statement shared call stage choice).1 stage
        (program.statement shared call stage choice).2
  occur : ∀ shared event, invariant shared → invariant (program.occur shared event)

variable {program} {invariant : Shared → Prop} {checked : Stage → Prop}
  {test : Shared → Stage → Choice → Bool} {promise : Shared → Shared → Stage → Stage → Prop}

theorem allows_at {system : System Shared Stage} {call : Nat} {choice : Choice} {stage : Stage}
    (allowed : allows test system
      (.statement call choice : Action Request Choice Event) = true)
    (found : system.calls.find? call = some stage) :
    test system.shared stage choice = true := by
  unfold allows at allowed
  dsimp only at allowed
  rw [found] at allowed
  exact allowed

namespace Checks

theorem sound (checks : program.Checks invariant checked test promise) :
    Assertions.Sound ⟨invariant, fun _ _ entered => ∀ stage, entered = some stage → checked stage⟩
      program fun system action => allows test system action = true where
  enter := by
    intro system call request _ _ _ stage entered
    cases entered
    exact checks.enter system.shared request
  statement := by
    intro system call stage choice holds allowed found
    obtain ⟨kept, next, _⟩ := checks.statement system.shared call stage choice holds.invariant
      (holds.at_stage found stage rfl) (allows_at allowed found)
    refine ⟨kept, ?_⟩
    intro later same
    cases same
    exact next
  undisturbed := by
    intro system call stage choice other holds _ _ _
    exact holds.assertion other
  occur := by
    intro system event holds _
    exact ⟨checks.occur system.shared event holds.invariant, holds.assertion⟩

/-- In every run whose statements pass the test, the invariant holds in every state and every
statement keeps its promise. -/
theorem runs (checks : program.Checks invariant checked test promise) {shared : Shared}
    {actions : List (Action Request Choice Event)} (initial : invariant shared)
    (allowed : Runs.Meets program.step (fun system action => allows test system action = true)
      (System.initial shared) actions) :
    (∀ reached ∈ Runs.states program.step (System.initial shared) actions,
        invariant reached.shared) ∧
      Runs.Meets program.step (program.Keeps promise) (System.initial shared) actions := by
  have holds : Assertions.Hold ⟨invariant, fun _ _ entered =>
      ∀ stage, entered = some stage → checked stage⟩ (System.initial shared) :=
    Assertions.Hold.initial initial fun _ _ absent => by cases absent
  constructor
  · intro reached member
    exact (checks.sound.states holds allowed reached member).invariant
  · refine checks.sound.meets ?_ holds allowed
    intro system action holds allowed call choice stage isStatement found
    subst isStatement
    exact (checks.statement system.shared call stage choice holds.invariant
      (holds.at_stage found stage rfl) (allows_at allowed found)).2.2

end Checks

end Program

end Tamanor.Library.Interleaving
