import Mathlib.Data.List.Induction
import Mathlib.Data.List.Nodup

/-! Sets that remember the order in which their elements were first added, as
ECMAScript sets do. -/

set_option autoImplicit false

namespace Tamanor.Library

structure OrderedSet (α : Type) where
  toList : List α
  nodup : toList.Nodup

namespace OrderedSet

variable {α : Type}

instance : Membership α (OrderedSet α) where
  mem set value := value ∈ set.toList

variable {set : OrderedSet α} {value : α}

@[simp] theorem mem_toList :
    value ∈ set.toList ↔ value ∈ set := Iff.rfl

def empty : OrderedSet α := ⟨[], List.nodup_nil⟩

@[simp] theorem not_mem_empty : ¬ value ∈ (empty : OrderedSet α) :=
  List.not_mem_nil

variable [DecidableEq α]

instance (set : OrderedSet α) (value : α) : Decidable (value ∈ set) :=
  inferInstanceAs (Decidable (value ∈ set.toList))

/-- `set.add(value)`: an element that is present keeps its position. -/
def add (set : OrderedSet α) (value : α) : OrderedSet α :=
  if absent : value ∈ set.toList then set
  else ⟨set.toList ++ [value], by
    refine List.nodup_append.mpr ⟨set.nodup, List.nodup_singleton value, ?_⟩
    intro member present other singleton same
    rw [List.mem_singleton] at singleton
    exact absent (singleton ▸ same ▸ present)⟩

def addAll (set : OrderedSet α) (values : List α) : OrderedSet α := values.foldl add set

/-- `new Set(values)`. -/
def ofList (values : List α) : OrderedSet α := empty.addAll values

@[simp] theorem mem_add {added : α} :
    value ∈ set.add added ↔ value ∈ set ∨ value = added := by
  unfold add
  split
  next present =>
    constructor
    · exact .inl
    · rintro (member | rfl)
      · exact member
      · exact present
  next absent =>
    change value ∈ set.toList ++ [added] ↔ _
    simp

@[simp] theorem mem_addAll {values : List α} :
    value ∈ set.addAll values ↔ value ∈ set ∨ value ∈ values := by
  induction values generalizing set with
  | nil => simp [addAll]
  | cons first values ih =>
    have step : set.addAll (first :: values) = (set.add first).addAll values := rfl
    rw [step, ih, mem_add, List.mem_cons, or_assoc]

@[simp] theorem mem_ofList {values : List α} :
    value ∈ ofList values ↔ value ∈ values := by
  simp [ofList]

theorem add_of_mem (member : value ∈ set) : set.add value = set :=
  dif_pos member

/-! A pass that does nothing for a value it has already taken in sees a list only through
its set. -/

section Absorbing

variable {σ : Type} {step : σ → α → σ} {Absorbed : σ → α → Prop}

omit [DecidableEq α] in
theorem foldl_absorbs (made : ∀ state value, Absorbed (step state value) value)
    (kept : ∀ {state value}, Absorbed state value → ∀ next, Absorbed (step state next) value)
    {values : List α} {value : α} (member : value ∈ values) (state : σ) :
    Absorbed (values.foldl step state) value := by
  induction values using List.reverseRecOn with
  | nil => cases member
  | append_singleton values last ih =>
    rw [List.foldl_append]
    rcases List.mem_append.mp member with earlier | here
    · exact kept (ih earlier) last
    · rw [List.mem_singleton.mp here]
      exact made _ last

theorem foldl_ofList (made : ∀ state value, Absorbed (step state value) value)
    (kept : ∀ {state value}, Absorbed state value → ∀ next, Absorbed (step state next) value)
    (idle : ∀ {state value}, Absorbed state value → step state value = state)
    (values : List α) (state : σ) :
    (ofList values).toList.foldl step state = values.foldl step state := by
  induction values using List.reverseRecOn with
  | nil => rfl
  | append_singleton values last ih =>
    have addLast : ofList (values ++ [last]) = (ofList values).add last := by
      simp [ofList, addAll]
    rw [addLast, List.foldl_append]
    by_cases present : last ∈ ofList values
    · rw [add_of_mem present, ih]
      exact (idle (foldl_absorbs made kept (mem_ofList.mp present) state)).symm
    · have appended : ((ofList values).add last).toList = (ofList values).toList ++ [last] :=
        congrArg toList (dif_neg present)
      rw [appended, List.foldl_append, ih]

end Absorbing

end OrderedSet

end Tamanor.Library
