import Mathlib.Data.List.Basic

/-! Runs of a step function, the states they pass through, and conditions that every
step of a run meets in the state in which it is taken. -/

set_option autoImplicit false

namespace Tamanor.Library.Runs

variable {σ α : Type} (step : σ → α → σ)

def run (state : σ) (steps : List α) : σ := steps.foldl step state

def states (state : σ) : List α → List σ
  | [] => [state]
  | action :: rest => state :: states (step state action) rest

def Meets (condition : σ → α → Prop) (state : σ) : List α → Prop
  | [] => True
  | action :: rest => condition state action ∧ Meets condition (step state action) rest

instance decidableMeets (condition : σ → α → Prop) [∀ state, DecidablePred (condition state)]
    (state : σ) : (steps : List α) → Decidable (Meets step condition state steps)
  | [] => .isTrue trivial
  | action :: rest =>
    have := decidableMeets condition (step state action) rest
    inferInstanceAs (Decidable (_ ∧ _))

variable {step} {condition : σ → α → Prop} {invariant : σ → Prop} {state : σ}

@[simp] theorem run_nil : run step state [] = state := rfl

@[simp] theorem run_cons (action : α) (rest : List α) :
    run step state (action :: rest) = run step (step state action) rest := rfl

theorem run_append (first second : List α) :
    run step state (first ++ second) = run step (run step state first) second :=
  List.foldl_append

theorem mem_states_self (steps : List α) : state ∈ states step state steps := by
  cases steps with
  | nil => exact List.mem_singleton_self state
  | cons action rest => exact List.mem_cons_self

theorem run_mem_states (steps : List α) : run step state steps ∈ states step state steps := by
  induction steps generalizing state with
  | nil => exact List.mem_singleton_self state
  | cons action rest ih => exact List.mem_cons_of_mem _ ih

theorem Meets.at_step {first second : List α} {action : α}
    (meets : Meets step condition state (first ++ action :: second)) :
    condition (run step state first) action := by
  induction first generalizing state with
  | nil => exact meets.1
  | cons earlier rest ih => exact ih meets.2

theorem meets_append (first second : List α) :
    Meets step condition state (first ++ second) ↔
      Meets step condition state first ∧ Meets step condition (run step state first) second := by
  induction first generalizing state with
  | nil => simp [Meets]
  | cons action rest ih => simp [Meets, ih, and_assoc]

/-- Two conditions that agree in every state of a frame, which each step keeps, are met by
the same runs. -/
theorem meets_congr {other : σ → α → Prop} {frame : σ → Prop}
    (framed : ∀ {state action}, frame state → frame (step state action))
    (agree : ∀ {state action}, frame state → (condition state action ↔ other state action))
    {steps : List α} (inFrame : frame state) :
    Meets step condition state steps ↔ Meets step other state steps := by
  induction steps generalizing state with
  | nil => exact Iff.rfl
  | cons action rest ih => exact and_congr (agree inFrame) (ih (framed inFrame))

theorem invariant_states
    (preserved : ∀ {state action}, invariant state → condition state action →
      invariant (step state action))
    {steps : List α} (initial : invariant state) (meets : Meets step condition state steps) :
    ∀ reached ∈ states step state steps, invariant reached := by
  induction steps generalizing state with
  | nil =>
    intro reached member
    rw [List.mem_singleton.mp member]
    exact initial
  | cons action rest ih =>
    intro reached member
    rcases List.mem_cons.mp member with rfl | member
    · exact initial
    · exact ih (preserved initial meets.1) meets.2 reached member

theorem Meets.of_invariant {promise : σ → α → Prop}
    (preserved : ∀ {state action}, invariant state → condition state action →
      invariant (step state action))
    (promised : ∀ {state action}, invariant state → condition state action → promise state action)
    {steps : List α} (initial : invariant state) (meets : Meets step condition state steps) :
    Meets step promise state steps := by
  induction steps generalizing state with
  | nil => exact trivial
  | cons action rest ih =>
    exact ⟨promised initial meets.1, ih (preserved initial meets.1) meets.2⟩

theorem meets_members {seen : σ → Prop} {done : α → Prop} {steps : List α}
    (inStates : ∀ reached ∈ states step state steps, seen reached)
    (inSteps : ∀ action ∈ steps, done action) :
    Meets step (fun earlier action => seen earlier ∧ done action) state steps := by
  induction steps generalizing state with
  | nil => exact trivial
  | cons action rest ih =>
    obtain ⟨first, later⟩ := List.forall_mem_cons.mp inStates
    obtain ⟨here, others⟩ := List.forall_mem_cons.mp inSteps
    exact ⟨⟨first, here⟩, ih later others⟩

theorem meets_true (steps : List α) : Meets step (fun _ _ => True) state steps := by
  induction steps generalizing state with
  | nil => exact trivial
  | cons action rest ih => exact ⟨trivial, ih⟩

theorem forall_states
    (preserved : ∀ {state action}, invariant state → invariant (step state action))
    (steps : List α) (initial : invariant state) :
    ∀ reached ∈ states step state steps, invariant reached :=
  invariant_states (fun holds _ => preserved holds) initial (meets_true steps)

theorem invariant_run
    (preserved : ∀ {state action}, invariant state → invariant (step state action))
    (steps : List α) (initial : invariant state) : invariant (run step state steps) :=
  forall_states preserved steps initial _ (run_mem_states steps)

/-- If a step keeps the invariant exactly under its condition, a run keeps it exactly if
all its steps meet theirs. The frame is what every step keeps anyway. -/
theorem forall_states_iff_meets {frame : σ → Prop}
    (framed : ∀ {state action}, frame state → frame (step state action))
    (exactly : ∀ {state action}, frame state → invariant state →
      (invariant (step state action) ↔ condition state action))
    {steps : List α} (inFrame : frame state) (initial : invariant state) :
    (∀ reached ∈ states step state steps, invariant reached) ↔
      Meets step condition state steps := by
  induction steps generalizing state with
  | nil => simpa [states, Meets] using initial
  | cons action rest ih =>
    constructor
    · intro kept
      have after : invariant (step state action) :=
        kept _ (List.mem_cons_of_mem _ (mem_states_self rest))
      refine ⟨(exactly inFrame initial).mp after, (ih (framed inFrame) after).mp ?_⟩
      intro reached member
      exact kept reached (List.mem_cons_of_mem _ member)
    · rintro ⟨here, later⟩
      have after := (exactly inFrame initial).mpr here
      intro reached member
      rcases List.mem_cons.mp member with rfl | member
      · exact initial
      · exact (ih (framed inFrame) after).mpr later reached member

end Tamanor.Library.Runs

/-! Lists of steps of which each begins where the one before it has ended. -/

namespace Tamanor.Library

variable {σ ε : Type}

/-- The steps lead from one place to another. -/
def Linked (source target : ε → σ) : σ → List ε → σ → Prop
  | first, [], last => first = last
  | first, step :: rest, last =>
    source step = first ∧ Linked source target (target step) rest last

namespace Linked

variable {source target : ε → σ} {first middle last : σ} {steps others : List ε}

theorem append (leads : Linked source target first steps middle)
    (further : Linked source target middle others last) :
    Linked source target first (steps ++ others) last := by
  induction steps generalizing first with
  | nil =>
    obtain rfl : first = middle := leads
    exact further
  | cons step rest ih =>
    obtain ⟨begins, leads⟩ := leads
    exact ⟨begins, ih leads⟩

theorem snoc (leads : Linked source target first steps last) {step : ε}
    (begins : source step = last) :
    Linked source target first (steps ++ [step]) (target step) :=
  leads.append ⟨begins, rfl⟩

end Linked

end Tamanor.Library
