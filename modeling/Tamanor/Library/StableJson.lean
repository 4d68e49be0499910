import Tamanor.Library.CanonicalJson

/-! The text of a value in which each object has its fields in the order of their names. It does
not change when the value goes through the column. -/

set_option autoImplicit false

namespace Tamanor.Library.Json

variable (fields : List (String × JsonValue))

def nameOrder : List (String × JsonValue) :=
  orderBy unitsOf fields

mutual

def stable : JsonValue → JsonValue
  | .arr items => .arr (stableItems items)
  | .obj fields => .obj (nameOrder (stableFields fields))
  | value => value

def stableItems : List JsonValue → List JsonValue
  | [] => []
  | item :: rest => stable item :: stableItems rest

def stableFields : List (String × JsonValue) → List (String × JsonValue)
  | [] => []
  | (name, value) :: rest => (name, stable value) :: stableFields rest

end

def stableStringify (value : JsonValue) : Text := value.stable.print

theorem stableItems_eq (items : List JsonValue) : stableItems items = items.map stable := by
  induction items with
  | nil => rfl
  | cons item rest ih => rw [stableItems, ih, List.map_cons]

theorem stableFields_eq :
    stableFields fields = fields.map fun field => (field.1, field.2.stable) := by
  induction fields with
  | nil => rfl
  | cons field rest ih => rw [stableFields, ih, List.map_cons]

theorem names_stableFields : (stableFields fields).map Prod.fst = fields.map Prod.fst := by
  rw [stableFields_eq, List.map_map]
  rfl

/-! A value that is read back from the column. -/

theorem stable_column (value : JsonValue) (distinctNames : value.distinct) :
    value.column.stable = value.stable.erase := by
  induction value using members_induction with
  | num number => cases number <;> rfl
  | arr items ih =>
    rw [column, stable, stable, erase, columnItems_eq, stableItems_eq, stableItems_eq,
      eraseItems_eq, List.map_map, List.map_map]
    exact congrArg _ (List.map_congr_left fun item member =>
      ih item member (distinctItems_iff.mp distinctNames item member))
  | obj fields ih =>
    rw [column, stable, stable, erase, nameOrder, nameOrder, ← orderBy_eraseFields]
    have read : stableFields (columnFields fields) = eraseFields (stableFields fields) := by
      rw [columnFields_eq, stableFields_eq, stableFields_eq, eraseFields_eq, List.map_map,
        List.map_map]
      exact List.map_congr_left fun field member =>
        Prod.ext rfl (ih field member (distinctFields_iff.mp distinctNames.2 field member))
    refine congrArg _ (orderBy_congr unitsOf_injective ?_ ?_)
    · rw [← read, stableFields_eq, stableFields_eq]
      exact (orderBy_perm _ _).map _
    · rw [← read, names_stableFields, names_columnFields]
      exact distinctNames.1
  | _ => rfl

theorem stableStringify_column {value : JsonValue} (distinctNames : value.distinct) :
    value.column.stableStringify = value.stableStringify := by
  rw [stableStringify, stableStringify, stable_column value distinctNames, print_erase]

mutual

/-- The same but for the order in which an object has its fields; the names of each differ. -/
def sameUpToOrder : JsonValue → JsonValue → Prop
  | .arr items, .arr others => sameItems items others
  | .obj fields, .obj others => fields.length = others.length ∧ sameFields fields others
  | value, other => value = other

def sameItems : List JsonValue → List JsonValue → Prop
  | item :: rest, other :: others => sameUpToOrder item other ∧ sameItems rest others
  | items, others => items = others

def sameFields : List (String × JsonValue) → List (String × JsonValue) → Prop
  | [], _ => True
  | (name, value) :: rest, others =>
    (∃ other, (name, other) ∈ others ∧ sameUpToOrder value other) ∧ sameFields rest others

end

theorem finite_stable (value : JsonValue) (finite : value.finite = true) :
    value.stable.finite = true := by
  induction value using members_induction with
  | arr items ih =>
    rw [stable, stableItems_eq]
    exact finiteItems_iff.mpr (List.forall_mem_map.mpr fun item member =>
      ih item member (finiteItems_iff.mp finite item member))
  | obj fields ih =>
    rw [stable, Json.finite, nameOrder, finite_orderBy, stableFields_eq]
    exact finiteFields_iff.mpr (List.forall_mem_map.mpr fun field member =>
      ih field member (finiteFields_iff.mp finite field member))
  | _ => exact finite

theorem mem_stableFields {fields : List (String × JsonValue)} {name : String} {value : JsonValue} :
    (name, value) ∈ stableFields fields ↔
      ∃ origin, (name, origin) ∈ fields ∧ origin.stable = value := by
  rw [stableFields_eq, List.mem_map]
  constructor
  · rintro ⟨⟨_, origin⟩, member, same⟩
    cases same
    exact ⟨origin, member, rfl⟩
  · rintro ⟨origin, member, rfl⟩
    exact ⟨_, member, rfl⟩

theorem nameOrder_eq_iff {fields others : List (String × JsonValue)}
    (once : (fields.map Prod.fst).Nodup) (onceOther : (others.map Prod.fst).Nodup) :
    nameOrder (stableFields fields) = nameOrder (stableFields others) ↔
      fields.length = others.length ∧ ∀ field ∈ fields,
        ∃ other, (field.1, other) ∈ others ∧ field.2.stable = other.stable := by
  have length_eq (fields : List (String × JsonValue)) :
      (stableFields fields).length = fields.length := by
    rw [stableFields_eq, List.length_map]
  constructor
  · intro same
    have perm := ((orderBy_perm unitsOf (stableFields fields)).symm.trans
      (List.Perm.of_eq same)).trans (orderBy_perm unitsOf (stableFields others))
    refine ⟨by rw [← length_eq, perm.length_eq, length_eq], ?_⟩
    rintro ⟨name, value⟩ member
    obtain ⟨other, listed, equal⟩ :=
      mem_stableFields.mp (perm.mem_iff.mp (mem_stableFields.mpr ⟨value, member, rfl⟩))
    exact ⟨other, listed, equal.symm⟩
  · rintro ⟨lengths, each⟩
    rw [← names_stableFields] at once onceOther
    have inside : stableFields fields ⊆ stableFields others := by
      rintro ⟨name, value⟩ member
      obtain ⟨origin, listed, rfl⟩ := mem_stableFields.mp member
      obtain ⟨other, there, equal⟩ := each _ listed
      exact mem_stableFields.mpr ⟨other, there, equal.symm⟩
    have perm := (List.subperm_of_subset once.of_map inside).perm_of_length_le
      (by rw [length_eq, length_eq, lengths])
    exact orderBy_congr unitsOf_injective perm onceOther

mutual

theorem stable_eq_iff (left right : JsonValue) (distinctNames : left.distinct)
    (distinctOther : right.distinct) :
    left.stable = right.stable ↔ left.sameUpToOrder right := by
  cases left with
  | arr items =>
    cases right with
    | arr others =>
      rw [stable, stable, Json.arr.injEq, sameUpToOrder]
      exact stableItems_eq_iff items others distinctNames distinctOther
    | _ => simp [stable, sameUpToOrder]
  | obj fields =>
    cases right with
    | obj others =>
      rw [stable, stable, Json.obj.injEq, nameOrder_eq_iff distinctNames.1 distinctOther.1,
        sameUpToOrder, sameFields_iff fields others distinctNames.2 distinctOther.2]
    | _ => simp [stable, sameUpToOrder]
  | _ => cases right <;> simp [stable, sameUpToOrder]

theorem stableItems_eq_iff (items others : List JsonValue) (distinctNames : distinctItems items)
    (distinctOther : distinctItems others) :
    stableItems items = stableItems others ↔ sameItems items others := by
  cases items with
  | nil => cases others <;> simp [stableItems, sameItems]
  | cons item rest =>
    cases others with
    | nil => simp [stableItems, sameItems]
    | cons other others =>
      rw [stableItems, stableItems, sameItems, List.cons.injEq,
        stable_eq_iff item other distinctNames.1 distinctOther.1,
        stableItems_eq_iff rest others distinctNames.2 distinctOther.2]

theorem sameFields_iff (fields others : List (String × JsonValue))
    (distinctNames : distinctFields fields) (distinctOther : distinctFields others) :
    (∀ field ∈ fields, ∃ other, (field.1, other) ∈ others ∧ field.2.stable = other.stable) ↔
      sameFields fields others := by
  match fields, distinctNames with
  | [], _ => simp [sameFields]
  | (name, value) :: rest, distinctNames =>
    rw [List.forall_mem_cons, sameFields, sameFields_iff rest others distinctNames.2 distinctOther]
    refine and_congr_left' (exists_congr fun other => and_congr_right fun member => ?_)
    exact stable_eq_iff value other distinctNames.1 (distinctFields_iff.mp distinctOther _ member)

end

theorem stableStringify_eq_iff {left right : JsonValue} (finite : left.finite = true)
    (finiteOther : right.finite = true) (distinctNames : left.distinct)
    (distinctOther : right.distinct) :
    left.stableStringify = right.stableStringify ↔ left.sameUpToOrder right := by
  rw [← stable_eq_iff left right distinctNames distinctOther]
  refine ⟨fun same => ?_, fun same => by rw [stableStringify, stableStringify, same]⟩
  have erased := erase_eq_of_print same
  rwa [erase_of_finite _ (finite_stable left finite),
    erase_of_finite _ (finite_stable right finiteOther)] at erased

end Tamanor.Library.Json
