import Mathlib.Data.List.Sort

/-! The first entries of a list sorted by a key that tells them apart: an entry is among the first
`n` if fewer than `n` have a smaller key, whatever order the list had before. -/

set_option autoImplicit false

namespace Tamanor.Library

section Ranking

variable {α κ : Type} [LinearOrder κ] {key : α → κ}

def keyRank (key : α → κ) (entries : List α) (limit : κ) : Nat :=
  entries.countP fun entry => key entry < limit

theorem keyRank_perm {first second : List α} (perm : first.Perm second) (limit : κ) :
    keyRank key first limit = keyRank key second limit :=
  perm.countP_eq _

theorem keyRank_eq_length {front back : List α} {entry : α}
    (ascending : (front ++ entry :: back).Pairwise fun left right => key left < key right) :
    keyRank key (front ++ entry :: back) (key entry) = front.length := by
  rw [List.pairwise_append, List.pairwise_cons] at ascending
  obtain ⟨_, ⟨after, _⟩, before⟩ := ascending
  have first : front.countP (fun other => key other < key entry) = front.length := by
    rw [List.countP_eq_length]
    intro other member
    exact decide_eq_true (before other member entry List.mem_cons_self)
  have last : (entry :: back).countP (fun other => key other < key entry) = 0 := by
    rw [List.countP_eq_zero]
    intro other member less
    rcases List.mem_cons.mp member with rfl | later
    · exact lt_irrefl _ (of_decide_eq_true less)
    · exact lt_asymm (after other later) (of_decide_eq_true less)
  rw [keyRank, List.countP_append, first, last, Nat.add_zero]

theorem mem_take_iff {sorted : List α} {entry : α} {count : Nat}
    (ascending : sorted.Pairwise fun left right => key left < key right)
    (member : entry ∈ sorted) :
    entry ∈ sorted.take count ↔ keyRank key sorted (key entry) < count := by
  obtain ⟨front, back, rfl⟩ := List.append_of_mem member
  rw [keyRank_eq_length ascending]
  have apart := (List.pairwise_append.mp ascending).2.2
  constructor
  · intro taken
    by_contra beyond
    rw [List.take_append_of_le_length (Nat.not_lt.mp beyond)] at taken
    exact lt_irrefl _ (apart entry (List.mem_of_mem_take taken) entry List.mem_cons_self)
  · intro below
    rw [List.take_append]
    obtain ⟨rest, positive⟩ := Nat.exists_eq_add_of_lt below
    refine List.mem_append_right _ ?_
    rw [positive, Nat.add_assoc, Nat.add_sub_cancel_left, List.take_succ_cons]
    exact List.mem_cons_self

variable {le : α → α → Prop} [DecidableRel le] {entries : List α} {entry : α} {count : Nat}

theorem pairwise_lt_insertionSort (ordered : ∀ left right, le left right ↔ key left ≤ key right)
    (apart : (entries.map key).Nodup) :
    (entries.insertionSort le).Pairwise fun left right => key left < key right := by
  have : Std.Total le := ⟨fun left right => by
    rw [ordered, ordered]
    exact le_total _ _⟩
  have : IsTrans α le := ⟨fun left middle right => by
    rw [ordered, ordered, ordered]
    exact le_trans⟩
  have once : ((entries.insertionSort le).map key).Nodup :=
    (((List.perm_insertionSort le entries).map key).nodup_iff).mpr apart
  rw [List.Nodup, List.pairwise_map] at once
  refine ((List.pairwise_insertionSort le entries).and once).imp ?_
  rintro left right ⟨before, different⟩
  exact lt_of_le_of_ne ((ordered _ _).mp before) different

variable (ordered : ∀ left right, le left right ↔ key left ≤ key right)
  (apart : (entries.map key).Nodup)

include ordered apart

theorem mem_take_insertionSort (member : entry ∈ entries) :
    entry ∈ (entries.insertionSort le).take count ↔ keyRank key entries (key entry) < count := by
  have perm := List.perm_insertionSort le entries
  rw [mem_take_iff (pairwise_lt_insertionSort ordered apart) (perm.mem_iff.mpr member),
    keyRank_perm perm]

theorem mem_drop_insertionSort (member : entry ∈ entries) :
    entry ∈ (entries.insertionSort le).drop count ↔ count ≤ keyRank key entries (key entry) := by
  have perm := List.perm_insertionSort le entries
  have ascending := pairwise_lt_insertionSort ordered apart
  have split := List.take_append_drop count (entries.insertionSort le)
  have taken : entry ∈ (entries.insertionSort le).take count ↔ _ :=
    mem_take_insertionSort ordered apart member
  rw [← not_lt, ← taken]
  rw [← perm.mem_iff, ← split, List.mem_append] at member
  constructor
  · intro dropped inTake
    rw [← split] at ascending
    exact lt_irrefl _ ((List.pairwise_append.mp ascending).2.2 entry inTake entry dropped)
  · intro notTaken
    exact member.resolve_left notTaken

end Ranking

end Tamanor.Library
