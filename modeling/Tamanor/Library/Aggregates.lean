import Mathlib.Algebra.BigOperators.Group.List.Basic
import Mathlib.Data.List.Nodup
import Mathlib.Order.Bounds.Basic
import Mathlib.Algebra.Order.Ring.Int

/-! Aggregates of rows: numbers that are counted in two ways, by parents and all at once, and the
first and the last of some times. -/

set_option autoImplicit false

namespace Tamanor.Library

section Counts

variable {α κ : Type}

theorem countP_eq_countP_iff {rows : List α} {strong weak : α → Bool}
    (weaker : ∀ row ∈ rows, strong row = true → weak row = true) :
    rows.countP strong = rows.countP weak ↔ ∀ row ∈ rows, weak row = true → strong row = true := by
  induction rows with
  | nil => exact iff_of_true rfl nofun
  | cons row rest ih =>
    have rest_weaker : ∀ other ∈ rest, strong other = true → weak other = true :=
      fun other member => weaker other (List.mem_cons_of_mem _ member)
    have fewer : rest.countP strong ≤ rest.countP weak := List.countP_mono_left rest_weaker
    rw [List.countP_cons, List.countP_cons, List.forall_mem_cons, ← ih rest_weaker]
    cases passesWeak : weak row with
    | false =>
      cases passesStrong : strong row with
      | false => simp
      | true =>
        rw [weaker row List.mem_cons_self passesStrong] at passesWeak
        cases passesWeak
    | true =>
      cases passesStrong : strong row with
      | false =>
        refine iff_of_false ?_ fun both => absurd (both.1 rfl) nofun
        simp only [Bool.false_eq_true, if_false, if_true, Nat.add_zero]
        omega
      | true => simp

variable [DecidableEq κ]

theorem countP_or_of_disjoint {rows : List α} {first second : α → Bool}
    (disjoint : ∀ row ∈ rows, first row = true → second row = false) :
    rows.countP (fun row => first row || second row) = rows.countP first + rows.countP second := by
  induction rows with
  | nil => rfl
  | cons row rest ih =>
    have here := disjoint row List.mem_cons_self
    rw [List.countP_cons, List.countP_cons, List.countP_cons,
      ih fun other member => disjoint other (List.mem_cons_of_mem _ member)]
    cases passesFirst : first row with
    | false => simp [Nat.add_assoc]
    | true =>
      simp only [here passesFirst, Bool.or_false, Bool.false_eq_true, if_true, if_false]
      omega

theorem sum_countP_eq_countP (rows : List α) {parents : List κ} (distinct : parents.Nodup)
    (parent : α → κ) (test : α → Bool) :
    (parents.map fun key => rows.countP fun row => parent row == key && test row).sum =
      rows.countP fun row => parents.contains (parent row) && test row := by
  induction parents with
  | nil => simp
  | cons key rest ih =>
    obtain ⟨absent, distinct⟩ := List.nodup_cons.mp distinct
    rw [List.map_cons, List.sum_cons, ih distinct, ← countP_or_of_disjoint]
    · refine List.countP_congr ?_
      intro row _
      rw [List.contains_cons]
      cases parent row == key <;> cases rest.contains (parent row) <;> cases test row <;> simp
    · intro row _ ofKey
      have same : parent row = key := by
        simp only [Bool.and_eq_true, beq_iff_eq] at ofKey
        exact ofKey.1
      rw [same]
      simp [absent]

/-- Some of the rows pass a test as often as all of them pass a weaker one exactly if the rows
that pass the weaker one are among them and pass the other. -/
theorem countP_sublist_eq_countP_iff {rows some : List α} {strong weak : α → Bool}
    (distinct : rows.Nodup) (sublist : some.Sublist rows)
    (weaker : ∀ row ∈ some, strong row = true → weak row = true) :
    some.countP strong = rows.countP weak ↔
      ∀ row ∈ rows, weak row = true → row ∈ some ∧ strong row = true := by
  classical
  have same : (rows.filter fun row => decide (row ∈ some)).Perm some := by
    refine (List.perm_ext_iff_of_nodup (distinct.filter _) (distinct.sublist sublist)).mpr ?_
    intro row
    rw [List.mem_filter, decide_eq_true_eq]
    exact ⟨And.right, fun member => ⟨sublist.subset member, member⟩⟩
  rw [← same.countP_eq, List.countP_filter, countP_eq_countP_iff]
  · refine forall₂_congr fun row _ => ?_
    rw [Bool.and_eq_true, decide_eq_true_eq, and_comm]
  · intro row _ both
    rw [Bool.and_eq_true, decide_eq_true_eq] at both
    exact weaker row both.2 both.1

end Counts

section Times

variable {times : List Int} {time since : Int}

theorem min?_iff_isLeast : times.min? = some time ↔ IsLeast { other | other ∈ times } time :=
  List.min?_eq_some_iff

theorem exists_min? (member : time ∈ times) : ∃ first, times.min? = some first := by
  refine Option.ne_none_iff_exists'.mp ?_
  intro none
  rw [List.min?_eq_none_iff.mp none] at member
  cases member

theorem max?_since :
    (∃ last, times.max? = some last ∧ since ≤ last) ↔ ∃ other ∈ times, since ≤ other := by
  constructor
  · rintro ⟨last, isLast, later⟩
    exact ⟨last, (List.max?_eq_some_iff.mp isLast).1, later⟩
  · rintro ⟨other, member, later⟩
    obtain ⟨last, isLast⟩ : ∃ last, times.max? = some last := by
      refine Option.ne_none_iff_exists'.mp ?_
      intro none
      rw [List.max?_eq_none_iff.mp none] at member
      cases member
    exact ⟨last, isLast, le_trans later ((List.max?_eq_some_iff.mp isLast).2 other member)⟩

theorem min?_after :
    (∃ first, (times.filter fun other => decide (since < other)).min? = some first ∧
      since ≤ first) ↔ ∃ other ∈ times, since < other := by
  constructor
  · rintro ⟨first, isFirst, _⟩
    obtain ⟨member, after⟩ := List.mem_filter.mp (List.min?_eq_some_iff.mp isFirst).1
    exact ⟨first, member, of_decide_eq_true after⟩
  · rintro ⟨other, member, after⟩
    have kept : other ∈ times.filter fun other => decide (since < other) :=
      List.mem_filter.mpr ⟨member, decide_eq_true after⟩
    obtain ⟨first, isFirst⟩ := exists_min? kept
    obtain ⟨_, later⟩ := List.mem_filter.mp (List.min?_eq_some_iff.mp isFirst).1
    exact ⟨first, isFirst, le_of_lt (of_decide_eq_true later)⟩

theorem min?_of_min? {others : List Int} :
    ([times.min?, others.min?].filterMap id).min? = (times ++ others).min? := by
  refine Option.ext fun first => ?_
  rw [min?_iff_isLeast, min?_iff_isLeast]
  have mem_firsts (other : Int) : other ∈ [times.min?, others.min?].filterMap id ↔
      times.min? = some other ∨ others.min? = some other := by
    simp [List.mem_filterMap, eq_comm]
  constructor
  · rintro ⟨member, least⟩
    constructor
    · rcases (mem_firsts first).mp member with isFirst | isFirst
      · exact List.mem_append_left _ (min?_iff_isLeast.mp isFirst).1
      · exact List.mem_append_right _ (min?_iff_isLeast.mp isFirst).1
    · intro other inBoth
      rcases List.mem_append.mp inBoth with here | here
      · obtain ⟨earliest, isEarliest⟩ := exists_min? here
        exact le_trans (least ((mem_firsts earliest).mpr (.inl isEarliest)))
          ((min?_iff_isLeast.mp isEarliest).2 here)
      · obtain ⟨earliest, isEarliest⟩ := exists_min? here
        exact le_trans (least ((mem_firsts earliest).mpr (.inr isEarliest)))
          ((min?_iff_isLeast.mp isEarliest).2 here)
  · rintro ⟨inBoth, least⟩
    constructor
    · refine (mem_firsts first).mpr ?_
      rcases List.mem_append.mp inBoth with here | here
      · exact .inl (min?_iff_isLeast.mpr ⟨here, fun other member =>
          least (List.mem_append_left _ member)⟩)
      · exact .inr (min?_iff_isLeast.mpr ⟨here, fun other member =>
          least (List.mem_append_right _ member)⟩)
    · intro other member
      rcases (mem_firsts other).mp member with isFirst | isFirst
      · exact least (List.mem_append_left _ (min?_iff_isLeast.mp isFirst).1)
      · exact least (List.mem_append_right _ (min?_iff_isLeast.mp isFirst).1)

end Times

end Tamanor.Library
