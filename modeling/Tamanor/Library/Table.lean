import Mathlib.Data.List.Find
import Mathlib.Data.List.Nodup
import Mathlib.Algebra.Order.BigOperators.Group.List
import Mathlib.Algebra.Order.Ring.Int
import Mathlib.Tactic.Ring

/-! Tables of rows with a unique key, and sums over their rows. A conservation law
is a statement about such a sum; each write changes it by the row it replaces. -/

set_option autoImplicit false

namespace Tamanor.Library

structure Table (κ ν : Type) where
  rows : List (κ × ν)
  unique : (rows.map Prod.fst).Nodup

namespace Table

variable {κ ν : Type}

def empty : Table κ ν := ⟨[], List.nodup_nil⟩

variable [DecidableEq κ]

def find? (table : Table κ ν) (key : κ) : Option ν := table.rows.lookup key

/-- Rewrite the row of a key; nothing happens if there is none. -/
def modify (table : Table κ ν) (key : κ) (change : ν → ν) : Table κ ν where
  rows := table.rows.map fun row => if row.1 = key then (row.1, change row.2) else row
  unique := by
    have keys : (table.rows.map fun row =>
        if row.1 = key then (row.1, change row.2) else row).map Prod.fst =
        table.rows.map Prod.fst := by
      rw [List.map_map]
      apply List.map_congr_left
      intro row _
      dsimp only [Function.comp]
      split <;> rfl
    rw [keys]
    exact table.unique

def mapValues (table : Table κ ν) (change : ν → ν) : Table κ ν where
  rows := table.rows.map fun row => (row.1, change row.2)
  unique := by
    rw [List.map_map]
    exact table.unique

def updateWhere (table : Table κ ν) (test : κ → ν → Bool) (change : ν → ν) : Table κ ν where
  rows := table.rows.map fun row => (row.1, if test row.1 row.2 then change row.2 else row.2)
  unique := by
    rw [List.map_map]
    exact table.unique

def deleteWhere (table : Table κ ν) (test : κ → ν → Bool) : Table κ ν where
  rows := table.rows.filter fun row => !test row.1 row.2
  unique := table.unique.sublist (List.filter_sublist.map Prod.fst)

def insert (table : Table κ ν) (key : κ) (value : ν) : Table κ ν :=
  if taken : key ∈ table.rows.map Prod.fst then table
  else
    { rows := table.rows ++ [(key, value)]
      unique := by
        rw [List.map_append, List.map_singleton, List.nodup_append]
        refine ⟨table.unique, List.nodup_singleton key, ?_⟩
        intro other present last singleton same
        rw [same, List.mem_singleton.mp singleton] at present
        exact taken present }

def upsert (table : Table κ ν) (key : κ) (value : ν) : Table κ ν :=
  if (table.find? key).isSome then table.modify key fun _ => value else table.insert key value

def total (table : Table κ ν) (measure : κ → ν → ℤ) : ℤ :=
  (table.rows.map fun row => measure row.1 row.2).sum

variable {table : Table κ ν} {key : κ} {value : ν}

theorem lookup_eq_some_iff {rows : List (κ × ν)} (unique : (rows.map Prod.fst).Nodup) :
    rows.lookup key = some value ↔ (key, value) ∈ rows := by
  induction rows with
  | nil => simp
  | cons row rows ih =>
    obtain ⟨first, stored⟩ := row
    simp only [List.map_cons, List.nodup_cons] at unique
    by_cases same : key = first
    · subst same
      have absent : (key, value) ∉ rows := fun member =>
        unique.1 (List.mem_map.mpr ⟨_, member, rfl⟩)
      simp [absent, eq_comm]
    · have other : (key == first) = false := by simpa using same
      simp [List.lookup_cons, other, ih unique.2, same]

theorem find?_eq_some_iff : table.find? key = some value ↔ (key, value) ∈ table.rows :=
  lookup_eq_some_iff table.unique

theorem find?_eq_none_iff : table.find? key = none ↔ key ∉ table.rows.map Prod.fst := by
  rw [← not_iff_not, not_not, ← ne_eq, Option.ne_none_iff_exists']
  constructor
  · rintro ⟨value, found⟩
    exact List.mem_map.mpr ⟨_, find?_eq_some_iff.mp found, rfl⟩
  · intro present
    obtain ⟨row, member, rfl⟩ := List.mem_map.mp present
    exact ⟨row.2, find?_eq_some_iff.mpr member⟩

@[simp] theorem find?_empty : (empty : Table κ ν).find? key = none := rfl

theorem find?_modify (changed : κ) (change : ν → ν) :
    (table.modify changed change).find? key =
      if key = changed then (table.find? key).map change else table.find? key := by
  unfold modify find?
  dsimp only
  induction table.rows with
  | nil => simp
  | cons row rows ih =>
    obtain ⟨first, stored⟩ := row
    by_cases same : key = first
    · subst same
      by_cases hit : key = changed
      · simp [hit]
      · simp [hit]
    · have other : (key == first) = false := by simpa using same
      by_cases hit : first = changed
      · subst hit
        simpa [List.lookup_cons, other] using ih
      · simpa [List.lookup_cons, other, hit] using ih

theorem find?_insert (added : κ) (fresh : table.find? added = none) :
    (table.insert added value).find? key = if key = added then some value else table.find? key := by
  have absent := find?_eq_none_iff.mp fresh
  unfold insert
  rw [dif_neg absent]
  unfold find?
  dsimp only
  rw [List.lookup_append]
  by_cases same : key = added
  · subst same
    rw [show table.rows.lookup key = none from fresh]
    simp
  · have other : (key == added) = false := by simpa using same
    simp [List.lookup_cons, other, same]

theorem find?_upsert (added : κ) :
    (table.upsert added value).find? key = if key = added then some value else table.find? key := by
  unfold upsert
  cases found : table.find? added with
  | none =>
    rw [if_neg (by simp)]
    exact find?_insert added found
  | some stored =>
    rw [if_pos (by simp), find?_modify]
    split
    next same =>
      rw [same, found]
      rfl
    next => rfl

variable (measure : κ → ν → ℤ)

theorem total_modify (change : ν → ν) (found : table.find? key = some value) :
    (table.modify key change).total measure =
      table.total measure - measure key value + measure key (change value) := by
  obtain ⟨rows, unique⟩ := table
  unfold find? at found
  unfold total modify
  dsimp only at found ⊢
  induction rows with
  | nil => cases found
  | cons row rows ih =>
    obtain ⟨first, stored⟩ := row
    simp only [List.map_cons, List.nodup_cons] at unique
    by_cases same : key = first
    · subst same
      have here : stored = value := by simpa using found
      have rest : rows.map (fun other =>
          if other.1 = key then (other.1, change other.2) else other) = rows := by
        conv_rhs => rw [← List.map_id rows]
        apply List.map_congr_left
        intro other member
        have different : other.1 ≠ key := fun equal =>
          unique.1 (List.mem_map.mpr ⟨other, member, equal⟩)
        simp [different]
      simp only [List.map_cons, if_true, rest, List.sum_cons, here]
      ring
    · have other : (key == first) = false := by simpa using same
      have tail : rows.lookup key = some value := by simpa [List.lookup_cons, other] using found
      have different : ¬ first = key := fun equal => same equal.symm
      simp only [List.map_cons, different, if_false, List.sum_cons]
      rw [ih unique.2 tail]
      ring

variable {change : ν → ν} {test : κ × ν → Bool}

theorem modify_congr {other : ν → ν}
    (same : ∀ value, table.find? key = some value → change value = other value) :
    table.modify key change = table.modify key other := by
  simp only [modify, mk.injEq]
  apply List.map_congr_left
  intro row member
  split
  next hit =>
    have found : table.find? key = some row.2 := find?_eq_some_iff.mpr (hit ▸ member)
    rw [same _ found]
  next => rfl

theorem modify_self (table : Table κ ν) (key : κ) : table.modify key id = table := by
  obtain ⟨rows, unique⟩ := table
  simp [modify]

theorem modify_absent (absent : table.find? key = none) (change : ν → ν) :
    table.modify key change = table := by
  obtain ⟨rows, unique⟩ := table
  have missing := find?_eq_none_iff.mp absent
  simp only [modify, mk.injEq]
  conv_rhs => rw [← List.map_id rows]
  apply List.map_congr_left
  intro row member
  have other : row.1 ≠ key := fun same => missing (same ▸ List.mem_map_of_mem member)
  simp [other]

theorem insert_taken (found : table.find? key = some value) (added : ν) :
    table.insert key added = table := by
  unfold insert
  rw [dif_pos]
  exact List.mem_map.mpr ⟨_, find?_eq_some_iff.mp found, rfl⟩

theorem total_eq_zero {measure : κ → ν → ℤ}
    (zero : ∀ key value, table.find? key = some value → measure key value = 0) :
    table.total measure = 0 := by
  apply List.sum_eq_zero
  intro weight weighed
  obtain ⟨row, member, rfl⟩ := List.mem_map.mp weighed
  exact zero row.1 row.2 (find?_eq_some_iff.mpr member)

theorem total_insert (fresh : table.find? key = none) :
    (table.insert key value).total measure = table.total measure + measure key value := by
  unfold insert
  rw [dif_neg (find?_eq_none_iff.mp fresh)]
  simp [total]

theorem measure_le_total (nonneg : ∀ key value, 0 ≤ measure key value)
    (found : table.find? key = some value) :
    measure key value ≤ table.total measure := by
  have member := List.mem_map_of_mem (f := fun row : κ × ν => measure row.1 row.2)
    (find?_eq_some_iff.mp found)
  apply List.single_le_sum _ _ member
  intro weight weighed
  obtain ⟨row, -, rfl⟩ := List.mem_map.mp weighed
  exact nonneg _ _

theorem find?_rows_modify (table : Table κ ν) (changed : κ) (change : ν → ν)
    (kept : ∀ value, table.find? changed = some value →
      test (changed, change value) = test (changed, value)) :
    (table.modify changed change).rows.find? test =
      (table.rows.find? test).map fun row =>
        if row.1 = changed then (row.1, change row.2) else row := by
  have same : ∀ row ∈ table.rows,
      test (if row.1 = changed then (row.1, change row.2) else row) = test row := by
    rintro ⟨key, value⟩ member
    split
    next hit =>
      obtain rfl : key = changed := hit
      exact kept value (find?_eq_some_iff.mpr member)
    next => rfl
  simp only [modify]
  rw [List.find?_map]
  congr 1
  exact List.find?_congr same

theorem any_rows_modify (table : Table κ ν) (changed : κ) (change : ν → ν)
    (kept : ∀ value, table.find? changed = some value →
      test (changed, change value) = test (changed, value)) :
    (table.modify changed change).rows.any test = table.rows.any test := by
  have found := find?_rows_modify table changed change kept
  rw [← List.isSome_find?, ← List.isSome_find?, found, Option.isSome_map]

theorem rows_insert (added : κ) (fresh : table.find? added = none) (value : ν) :
    (table.insert added value).rows = table.rows ++ [(added, value)] := by
  rw [insert, dif_neg (find?_eq_none_iff.mp fresh)]

theorem find?_insert_of_found {added : κ} {found : ν} (fresh : table.find? added = none)
    (stored : table.find? key = some found) :
    (table.insert added value).find? key = some found := by
  rw [find?_insert added fresh, if_neg]
  · exact stored
  · intro taken
    rw [taken, fresh] at stored
    cases stored

theorem find?_of_find?_rows {row : κ × ν} (found : table.rows.find? test = some row) :
    table.find? row.1 = some row.2 :=
  find?_eq_some_iff.mpr (List.mem_of_find?_eq_some found)

theorem find?_updateWhere (test : κ → ν → Bool) (change : ν → ν) :
    (table.updateWhere test change).find? key =
      (table.find? key).map fun value => if test key value then change value else value := by
  have looked (rows : List (κ × ν)) :
      (rows.map fun row => (row.1, if test row.1 row.2 then change row.2 else row.2)).lookup key =
        (rows.lookup key).map fun value => if test key value then change value else value := by
    induction rows with
    | nil => rfl
    | cons row rows ih =>
      rw [List.map_cons, List.lookup_cons, List.lookup_cons, ih]
      cases same : key == row.1 with
      | true => simp [beq_iff_eq.mp same]
      | false => rfl
  exact looked table.rows

theorem find?_deleteWhere (test : κ → ν → Bool) :
    (table.deleteWhere test).find? key = (table.find? key).filter fun value => !test key value := by
  have member (value : ν) : (table.deleteWhere test).find? key = some value ↔
      (table.find? key).filter (fun value => !test key value) = some value := by
    rw [find?_eq_some_iff, Option.filter_eq_some_iff, find?_eq_some_iff]
    exact List.mem_filter
  exact Option.ext member

theorem of_find?_deleteWhere {test : κ → ν → Bool}
    (found : (table.deleteWhere test).find? key = some value) :
    table.find? key = some value ∧ test key value = false := by
  rw [find?_deleteWhere, Option.filter_eq_some_iff, Bool.not_eq_true'] at found
  exact found

theorem of_find?_modify {changed : κ}
    (found : (table.modify changed change).find? key = some value) :
    ∃ earlier, table.find? key = some earlier ∧
      value = if key = changed then change earlier else earlier := by
  rw [find?_modify] at found
  split at found
  next same =>
    obtain ⟨earlier, stored, rfl⟩ := Option.map_eq_some_iff.mp found
    exact ⟨earlier, stored, (if_pos same).symm⟩
  next different => exact ⟨value, found, (if_neg different).symm⟩

theorem isSome_find?_modify (changed : κ) (change : ν → ν) :
    ((table.modify changed change).find? key).isSome = (table.find? key).isSome := by
  rw [find?_modify]
  split
  next => exact Option.isSome_map
  next => rfl

theorem find?_insert_self (fresh : table.find? key = none) :
    (table.insert key value).find? key = some value := by
  rw [find?_insert key fresh, if_pos rfl]

theorem of_find?_insert {added : κ} {row : ν} (fresh : table.find? added = none)
    (found : (table.insert added row).find? key = some value) :
    key = added ∧ value = row ∨ key ≠ added ∧ table.find? key = some value := by
  rw [find?_insert added fresh] at found
  split at found
  next same => exact .inl ⟨same, (Option.some.inj found).symm⟩
  next different => exact .inr ⟨different, found⟩

theorem updateWhere_of_none {test : κ → ν → Bool} (change : ν → ν)
    (none : ∀ key value, table.find? key = some value → test key value = false) :
    table.updateWhere test change = table := by
  obtain ⟨rows, unique⟩ := table
  simp only [updateWhere, mk.injEq]
  conv_rhs => rw [← List.map_id rows]
  apply List.map_congr_left
  rintro ⟨key, value⟩ member
  have untested : test key value = false := none key value (find?_eq_some_iff.mpr member)
  simp [untested]

/-! What a view of the values shows of an update. -/

omit [DecidableEq κ] in
theorem mapValues_updateWhere_congr (table : Table κ ν) (test : κ → ν → Bool) {other view : ν → ν}
    (same : ∀ value, view (change value) = view (other value)) :
    (table.updateWhere test change).mapValues view =
      (table.updateWhere test other).mapValues view := by
  simp only [mapValues, updateWhere, mk.injEq, List.map_map]
  apply List.map_congr_left
  intro row _
  dsimp only [Function.comp]
  split
  · rw [same]
  · rfl

theorem mapValues_updateWhere_eq_iff (table : Table κ ν) (test : κ → ν → Bool)
    (change view : ν → ν) :
    (table.updateWhere test change).mapValues view = table.mapValues view ↔
      ∀ key value, table.find? key = some value → test key value = true →
        view (change value) = view value := by
  simp only [mapValues, updateWhere, mk.injEq, List.map_map, List.map_inj_left]
  constructor
  · intro same key value found tested
    have here := same (key, value) (find?_eq_some_iff.mp found)
    simpa [tested] using here
  · rintro same ⟨key, value⟩ member
    dsimp only [Function.comp]
    split
    next tested => rw [same key value (find?_eq_some_iff.mpr member) tested]
    next => rfl

end Table

end Tamanor.Library
