import Mathlib.Data.List.Sort
import Tamanor.Library.Paging

/-! Keyset paging. Rows are sorted by a key that tells them apart, and a page is asked for
by the key of the last row of the page before. -/

set_option autoImplicit false

namespace Tamanor.Library

/-- A strict total order that can be decided. -/
structure KeyOrder (κ : Type) where
  precedes : κ → κ → Bool
  irrefl : ∀ key, precedes key key = false
  trans : ∀ {first second third}, precedes first second = true → precedes second third = true →
    precedes first third = true
  total : ∀ {first second}, first ≠ second →
    precedes first second = true ∨ precedes second first = true

namespace KeyOrder

theorem asymm {κ : Type} (order : KeyOrder κ) {first second : κ}
    (before : order.precedes first second = true) : order.precedes second first = false := by
  cases after : order.precedes second first with
  | false => rfl
  | true =>
    have loop := order.trans before after
    rw [order.irrefl] at loop
    cases loop

def natural {κ : Type} [LinearOrder κ] : KeyOrder κ where
  precedes first second := decide (first < second)
  irrefl key := decide_eq_false (lt_irrefl key)
  trans before after := decide_eq_true (lt_trans (of_decide_eq_true before)
    (of_decide_eq_true after))
  total different := (lt_or_gt_of_ne different).imp (fun less => decide_eq_true less)
    fun less => decide_eq_true less

/-- Pairs with the later number first, and equal numbers by the later name first. -/
def descending {ν : Type} (names : KeyOrder ν) : KeyOrder (Int × ν) where
  precedes first second :=
    decide (second.1 < first.1) ||
      (decide (second.1 = first.1) && names.precedes second.2 first.2)
  irrefl key := by simp [names.irrefl]
  trans := by
    intro first second third before after
    simp only [Bool.or_eq_true, Bool.and_eq_true, decide_eq_true_eq] at before after ⊢
    rcases before with less | ⟨same, less⟩
    · rcases after with less' | ⟨same', -⟩
      · exact .inl (lt_trans less' less)
      · exact .inl (same' ▸ less)
    · rcases after with less' | ⟨same', less'⟩
      · exact .inl (same ▸ less')
      · exact .inr ⟨same'.trans same, names.trans less' less⟩
  total := by
    intro first second different
    simp only [Bool.or_eq_true, Bool.and_eq_true, decide_eq_true_eq]
    rcases lt_trichotomy first.1 second.1 with less | same | less
    · exact .inr (.inl less)
    · have names' : first.2 ≠ second.2 := fun equal => different (Prod.ext same equal)
      rcases names.total names' with less | less
      · exact .inr (.inr ⟨same, less⟩)
      · exact .inl (.inr ⟨same.symm, less⟩)
    · exact .inl (.inl less)

end KeyOrder

namespace Keyset

variable {α β κ : Type} (order : KeyOrder κ) (key : α → κ)

def sorted (rows : List α) : List α :=
  rows.insertionSort fun first second => order.precedes (key second) (key first) = false

def Ascending (rows : List α) : Prop :=
  rows.Pairwise fun first second => order.precedes (key first) (key second) = true

def page (size : Nat) (view : α → β) (cursor : κ → String) (left : List α) : Paging.Page β where
  items := (left.take size).map view
  nextCursor :=
    if size < left.length then (left.take size).getLast?.map fun row => cursor (key row) else none

variable {order key}

theorem perm_sorted (rows : List α) : (sorted order key rows).Perm rows :=
  List.perm_insertionSort _ rows

variable {rows : List α}

theorem ascending_sorted (distinct : (rows.map key).Nodup) :
    Ascending order key (sorted order key rows) := by
  have weak : (sorted order key rows).Pairwise fun first second =>
      order.precedes (key second) (key first) = false := by
    have total : Std.Total fun first second : α =>
        order.precedes (key second) (key first) = false := by
      refine ⟨fun first second => ?_⟩
      cases before : order.precedes (key second) (key first) with
      | false => exact .inl rfl
      | true => exact .inr (order.asymm before)
    have trans : IsTrans α fun first second : α =>
        order.precedes (key second) (key first) = false := by
      refine ⟨fun first second third before after => ?_⟩
      by_contra late
      have late : order.precedes (key third) (key first) = true := by simpa using late
      by_cases same : key first = key second
      · rw [same, after] at late
        cases late
      · rcases order.total same with forward | backward
        · rw [order.trans late forward] at after
          cases after
        · rw [backward] at before
          cases before
    exact List.pairwise_insertionSort _ rows
  have apart : (sorted order key rows).Pairwise fun first second => key first ≠ key second :=
    List.pairwise_map.mp (((perm_sorted rows).map key).nodup_iff.mpr distinct)
  refine (weak.and apart).imp fun {first second} both => ?_
  rcases order.total both.2 with before | after
  · exact before
  · rw [both.1] at after
    cases after

theorem Ascending.eq_of_perm {first second : List α} (ordered : Ascending order key first)
    (ordered' : Ascending order key second) (perm : first.Perm second) : first = second := by
  refine perm.eq_of_pairwise (fun left right _ _ before after => ?_) ordered ordered'
  rw [order.asymm before] at after
  cases after

theorem Ascending.filter (ordered : Ascending order key rows) (keep : α → Bool) :
    Ascending order key (rows.filter keep) :=
  List.Pairwise.sublist List.filter_sublist ordered

theorem nodup_filter_keys (distinct : (rows.map key).Nodup) (keep : α → Bool) :
    ((rows.filter keep).map key).Nodup :=
  distinct.sublist (List.filter_sublist.map key)

theorem sorted_filter (distinct : (rows.map key).Nodup) (keep : α → Bool) :
    sorted order key (rows.filter keep) = (sorted order key rows).filter keep := by
  refine (ascending_sorted (nodup_filter_keys distinct keep)).eq_of_perm
    ((ascending_sorted distinct).filter keep) ?_
  exact (perm_sorted _).trans ((perm_sorted rows).filter keep).symm

theorem filter_after {front back : List α} {last : α}
    (ordered : Ascending order key (front ++ last :: back)) :
    (front ++ last :: back).filter (fun row => order.precedes (key last) (key row)) = back := by
  obtain ⟨-, rest, across⟩ := List.pairwise_append.mp ordered
  obtain ⟨after, -⟩ := List.pairwise_cons.mp rest
  have before : front.filter (fun row => order.precedes (key last) (key row)) = [] := by
    rw [List.filter_eq_nil_iff]
    intro row member
    rw [order.asymm (across row member last List.mem_cons_self)]
    exact Bool.false_ne_true
  rw [List.filter_append, before, List.nil_append, List.filter_cons_of_neg (by simp [order.irrefl]),
    List.filter_eq_self.mpr after]

variable {ε : Type} {fetch : Option String → Except ε (Paging.Page β)} {size : Nat} {view : α → β}
  {cursor : κ → String}

theorem lists_rest (ordered : Ascending order key rows) (positive : 0 < size)
    (named : ∀ row ∈ rows, cursor (key row) ≠ "")
    (next : ∀ row ∈ rows, fetch (some (cursor (key row))) =
      .ok (page key size view cursor (rows.filter fun other =>
        order.precedes (key row) (key other)))) {done left : List α} (split : rows = done ++ left)
    {after : Option String} (here : fetch after = .ok (page key size view cursor left)) :
    ∃ pages, Paging.Lists fetch after pages none ∧ pages.flatten = left.map view := by
  induction length : left.length using Nat.strongRecOn generalizing done left after with
  | ind length ih =>
    by_cases more : size < left.length
    · have taken : left.take size ≠ [] := by
        rw [← List.length_pos_iff, List.length_take]
        omega
      obtain ⟨front, last, page⟩ := (List.eq_nil_or_concat (left.take size)).resolve_left taken
      have rowsEq : rows = (done ++ front) ++ last :: left.drop size :=
        calc
          rows = done ++ (left.take size ++ left.drop size) := by
            rw [split, List.take_append_drop]
          _ = (done ++ front) ++ last :: left.drop size := by simp [page]
      have member : last ∈ rows := rowsEq ▸ by simp
      have following : fetch (some (cursor (key last))) =
          .ok (Keyset.page key size view cursor (left.drop size)) := by
        rw [next last member]
        congr 2
        rw [rowsEq] at ordered ⊢
        exact filter_after ordered
      obtain ⟨pages, lists, flat⟩ := ih (left.drop size).length
        (by rw [List.length_drop]; omega)
        (show rows = (done ++ left.take size) ++ left.drop size by simp [split])
        following rfl
      refine ⟨(left.take size).map view :: pages, .more here ?_ lists, ?_⟩
      · have cursorOf : (Keyset.page key size view cursor left).nextCursor =
            some (cursor (key last)) := by
          simp [Keyset.page, more, page]
        rw [Paging.Page.next?, cursorOf, Option.filter_some_pos]
        simpa using named last member
      · rw [List.flatten_cons, flat, ← List.map_append, List.take_append_drop]
    · have final : (Keyset.page key size view cursor left).next? = none := by
        simp [Keyset.page, more, Paging.Page.next?]
      refine ⟨_, .last here final, ?_⟩
      simp [Keyset.page, List.take_of_length_le (not_lt.mp more)]

theorem lists_all (ordered : Ascending order key rows) (positive : 0 < size)
    (named : ∀ row ∈ rows, cursor (key row) ≠ "")
    (first : fetch none = .ok (page key size view cursor rows))
    (next : ∀ row ∈ rows, fetch (some (cursor (key row))) =
      .ok (page key size view cursor (rows.filter fun other =>
        order.precedes (key row) (key other)))) :
    ∃ pages, Paging.Lists fetch none pages none ∧ pages.flatten = rows.map view :=
  lists_rest ordered positive named next (List.nil_append rows).symm first

end Keyset

end Tamanor.Library
