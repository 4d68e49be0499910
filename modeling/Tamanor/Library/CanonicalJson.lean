import Tamanor.Library.JsonText

/-! Objects that are copied field by field, and the column of a database that keeps JSON values.
Neither looks at the order in which an object has its fields. -/

set_option autoImplicit false

namespace Tamanor.Library.Json

/-! The order of lists of numbers, by their first difference. -/

def precedes : List Nat → List Nat → Bool
  | [], _ => true
  | _ :: _, [] => false
  | first :: left, second :: right =>
    decide (first < second) || (decide (first = second) && precedes left right)

theorem precedes_total (left right : List Nat) :
    precedes left right = true ∨ precedes right left = true := by
  induction left generalizing right with
  | nil => exact .inl rfl
  | cons first left ih =>
    cases right with
    | nil => exact .inr rfl
    | cons second right =>
      simp only [precedes, Bool.or_eq_true, Bool.and_eq_true, decide_eq_true_eq]
      rcases Nat.lt_trichotomy first second with less | same | greater
      · exact .inl (.inl less)
      · rcases ih right with before | after
        · exact .inl (.inr ⟨same, before⟩)
        · exact .inr (.inr ⟨same.symm, after⟩)
      · exact .inr (.inl greater)

theorem precedes_trans {left middle right : List Nat} (first : precedes left middle = true)
    (second : precedes middle right = true) : precedes left right = true := by
  induction left generalizing middle right with
  | nil => rfl
  | cons number left ih =>
    cases middle with
    | nil => cases first
    | cons between middle =>
      cases right with
      | nil => cases second
      | cons last right =>
        simp only [precedes, Bool.or_eq_true, Bool.and_eq_true, decide_eq_true_eq] at *
        rcases first with first | ⟨first, before⟩
        · left
          omega
        · rcases second with second | ⟨second, after⟩
          · left
            omega
          · exact .inr ⟨first.trans second, ih before after⟩

theorem precedes_antisymm {left right : List Nat} (first : precedes left right = true)
    (second : precedes right left = true) : left = right := by
  induction left generalizing right with
  | nil =>
    cases right with
    | nil => rfl
    | cons number right => cases second
  | cons number left ih =>
    cases right with
    | nil => cases first
    | cons other right =>
      simp only [precedes, Bool.or_eq_true, Bool.and_eq_true, decide_eq_true_eq] at first second
      rcases first with less | ⟨same, before⟩
      · omega
      · rcases second with greater | ⟨_, after⟩
        · omega
        · rw [same, ih before after]

/-! Fields in the order of a rank of their names. -/

def orderBy (rank : String → List Nat) (fields : List (String × JsonValue)) :
    List (String × JsonValue) :=
  fields.insertionSort fun first second => precedes (rank first.1) (rank second.1) = true

section Order

variable {rank : String → List Nat} {fields others : List (String × JsonValue)}

theorem orderBy_perm (rank : String → List Nat) (fields : List (String × JsonValue)) :
    (orderBy rank fields).Perm fields :=
  List.perm_insertionSort _ _

theorem orderBy_congr (ranked : Function.Injective rank) (perm : fields.Perm others)
    (names : (others.map Prod.fst).Nodup) : orderBy rank fields = orderBy rank others := by
  let before := fun left right : String × JsonValue =>
    precedes (rank left.1) (rank right.1) = true
  have total : Std.Total before := ⟨fun left right => precedes_total (rank left.1) (rank right.1)⟩
  have transitive : IsTrans (String × JsonValue) before := ⟨fun _ _ _ => precedes_trans⟩
  refine List.Perm.eq_of_pairwise ?_ (List.pairwise_insertionSort before fields)
    (List.pairwise_insertionSort before others)
    ((orderBy_perm rank fields).trans (perm.trans (orderBy_perm rank others).symm))
  intro left right isLeft isRight first second
  have inOthers : left ∈ others := perm.mem_iff.mp ((orderBy_perm rank fields).mem_iff.mp isLeft)
  have alsoInOthers : right ∈ others := (orderBy_perm rank others).mem_iff.mp isRight
  exact List.inj_on_of_nodup_map names inOthers alsoInOthers
    (ranked (precedes_antisymm first second))

theorem orderBy_eraseFields (rank : String → List Nat) (fields : List (String × JsonValue)) :
    orderBy rank (eraseFields fields) = eraseFields (orderBy rank fields) := by
  let before := fun left right : String × JsonValue =>
    precedes (rank left.1) (rank right.1) = true
  rw [eraseFields_eq, eraseFields_eq]
  exact (List.map_insertionSort (r := before) (s := before)
    (fun field => (field.1, field.2.erase)) fields fun _ _ _ _ => Iff.rfl).symm

theorem finite_orderBy : finiteFields (orderBy rank fields) = finiteFields fields := by
  rw [Bool.eq_iff_iff, finiteFields_iff, finiteFields_iff]
  exact forall_congr' fun field => by rw [(orderBy_perm rank fields).mem_iff]

end Order

def unitsOf (name : String) : List Nat := Text.codeUnits name.toList

theorem unitsOf_injective : Function.Injective unitsOf :=
  fun _ _ same => String.toList_injective (Text.codeUnits_injective same)

/-! The order in which an object has its own fields: the indices of arrays come first. -/

def isArrayIndex (name : String) : Bool :=
  match name.toList with
  | [] => false
  | ['0'] => true
  | first :: rest =>
    first != '0' && (first :: rest).all Char.isDigit &&
      decide ((first :: rest).foldl (fun value digit => 10 * value + (digit.toNat - 48)) 0 <
        2 ^ 32 - 1)

/-- Indices are ordered by their value, which is by their length and then by their digits. -/
def ownRank (name : String) : List Nat :=
  if isArrayIndex name then 0 :: name.length :: unitsOf name else 1 :: unitsOf name

theorem ownRank_injective : Function.Injective ownRank := by
  intro first second same
  apply unitsOf_injective
  unfold ownRank at same
  split at same <;> split at same <;> simp_all

variable (fields : List (String × JsonValue))

def ownOrder : List (String × JsonValue) :=
  orderBy ownRank fields

theorem ownOrder_perm : (ownOrder fields).Perm fields :=
  orderBy_perm _ _

mutual

/-- A copy with the fields that are kept, each object being filled in the order of its names. -/
def arrange (keep : String → Bool) : JsonValue → JsonValue
  | .arr items => .arr (arrangeItems keep items)
  | .obj fields => .obj (ownOrder (arrangeFields keep fields))
  | value => value

def arrangeItems (keep : String → Bool) : List JsonValue → List JsonValue
  | [] => []
  | item :: rest => arrange keep item :: arrangeItems keep rest

def arrangeFields (keep : String → Bool) : List (String × JsonValue) → List (String × JsonValue)
  | [] => []
  | (name, value) :: rest =>
    if keep name then (name, arrange keep value) :: arrangeFields keep rest
    else arrangeFields keep rest

end

variable (keep : String → Bool)

theorem arrangeItems_eq (items : List JsonValue) :
    arrangeItems keep items = items.map (arrange keep) := by
  induction items with
  | nil => rfl
  | cons item rest ih => rw [arrangeItems, ih, List.map_cons]

theorem arrangeFields_eq (fields : List (String × JsonValue)) :
    arrangeFields keep fields =
      (fields.filter fun field => keep field.1).map fun field =>
        (field.1, field.2.arrange keep) := by
  induction fields with
  | nil => rfl
  | cons field rest ih =>
    rw [arrangeFields, ih, List.filter_cons]
    split <;> rfl

/-- The value with the fields of its objects in one order; two values that agree in it are the
same but for the order of their fields. -/
def sorted (value : JsonValue) : JsonValue := value.arrange fun _ => true

theorem finite_arrange (value : JsonValue) (finite : value.finite = true) :
    (value.arrange keep).finite = true := by
  induction value using members_induction with
  | arr items ih =>
    rw [arrange, arrangeItems_eq]
    refine finiteItems_iff.mpr (List.forall_mem_map.mpr fun item member => ?_)
    exact ih item member (finiteItems_iff.mp finite item member)
  | obj fields ih =>
    rw [arrange, Json.finite, ownOrder, finite_orderBy, arrangeFields_eq]
    refine finiteFields_iff.mpr (List.forall_mem_map.mpr fun field member => ?_)
    have listed := List.mem_of_mem_filter member
    exact ih field listed (finiteFields_iff.mp finite field listed)
  | _ => exact finite

/-! Values of which every field is kept. -/

mutual

def keepsAll (keep : String → Bool) : JsonValue → Bool
  | .arr items => keepsAllItems keep items
  | .obj fields => keepsAllFields keep fields
  | _ => true

def keepsAllItems (keep : String → Bool) : List JsonValue → Bool
  | [] => true
  | item :: rest => keepsAll keep item && keepsAllItems keep rest

def keepsAllFields (keep : String → Bool) : List (String × JsonValue) → Bool
  | [] => true
  | (name, value) :: rest => keep name && keepsAll keep value && keepsAllFields keep rest

end

mutual

theorem arrange_eq_sorted (keep : String → Bool) (value : JsonValue)
    (all : value.keepsAll keep = true) : value.arrange keep = value.sorted := by
  unfold sorted
  cases value with
  | arr items => rw [arrange, arrange, arrangeItems_eq_sorted keep items all]
  | obj fields => rw [arrange, arrange, arrangeFields_eq_sorted keep fields all]
  | _ => rfl

theorem arrangeItems_eq_sorted (keep : String → Bool) (items : List JsonValue)
    (all : keepsAllItems keep items = true) :
    arrangeItems keep items = arrangeItems (fun _ => true) items := by
  cases items with
  | nil => rfl
  | cons item rest =>
    rw [keepsAllItems, Bool.and_eq_true] at all
    have itemSorted := arrange_eq_sorted keep item all.1
    unfold sorted at itemSorted
    rw [arrangeItems, arrangeItems, itemSorted, arrangeItems_eq_sorted keep rest all.2]

theorem arrangeFields_eq_sorted (keep : String → Bool) (fields : List (String × JsonValue))
    (all : keepsAllFields keep fields = true) :
    arrangeFields keep fields = arrangeFields (fun _ => true) fields := by
  match fields, all with
  | [], _ => rfl
  | (name, value) :: rest, all =>
    rw [keepsAllFields, Bool.and_eq_true, Bool.and_eq_true] at all
    have valueSorted := arrange_eq_sorted keep value all.1.2
    unfold sorted at valueSorted
    rw [arrangeFields, arrangeFields, if_pos all.1.1, if_pos rfl, valueSorted,
      arrangeFields_eq_sorted keep rest all.2]

end

/-- The order in which the column keeps the fields of an object: by the length of their names. -/
def columnOrder : List (String × JsonValue) :=
  orderBy (fun name => name.utf8ByteSize :: name.toList.map Char.toNat) fields

theorem columnOrder_perm : (columnOrder fields).Perm fields :=
  orderBy_perm _ _

mutual

def column : JsonValue → JsonValue
  | .num (.infinite _) => .null
  | .arr items => .arr (columnItems items)
  | .obj fields => .obj (columnOrder (columnFields fields))
  | value => value

def columnItems : List JsonValue → List JsonValue
  | [] => []
  | item :: rest => column item :: columnItems rest

def columnFields : List (String × JsonValue) → List (String × JsonValue)
  | [] => []
  | (name, value) :: rest => (name, column value) :: columnFields rest

end

theorem columnItems_eq (items : List JsonValue) : columnItems items = items.map column := by
  induction items with
  | nil => rfl
  | cons item rest ih => rw [columnItems, ih, List.map_cons]

theorem columnFields_eq :
    columnFields fields = fields.map fun field => (field.1, field.2.column) := by
  induction fields with
  | nil => rfl
  | cons field rest ih => rw [columnFields, ih, List.map_cons]

theorem names_columnFields : (columnFields fields).map Prod.fst = fields.map Prod.fst := by
  rw [columnFields_eq, List.map_map]
  rfl

/-- A value that is read back from the column is copied as the value that was written, but for its
numbers that are not finite. -/
theorem arrange_column (value : JsonValue) (distinctNames : value.distinct) :
    value.column.arrange keep = (value.arrange keep).erase := by
  induction value using members_induction with
  | num number => cases number <;> rfl
  | arr items ih =>
    rw [column, arrange, arrange, erase, columnItems_eq, arrangeItems_eq, arrangeItems_eq,
      eraseItems_eq, List.map_map, List.map_map]
    exact congrArg _ (List.map_congr_left fun item member =>
      ih item member (distinctItems_iff.mp distinctNames item member))
  | obj fields ih =>
    rw [column, arrange, arrange, erase, ownOrder, ownOrder, ← orderBy_eraseFields]
    have kept : arrangeFields keep (columnFields fields) =
        eraseFields (arrangeFields keep fields) := by
      rw [columnFields_eq, arrangeFields_eq, arrangeFields_eq, eraseFields_eq, List.filter_map,
        List.map_map, List.map_map]
      refine List.map_congr_left fun field member => Prod.ext rfl ?_
      have listed := List.mem_of_mem_filter member
      exact ih field listed (distinctFields_iff.mp distinctNames.2 field listed)
    refine congrArg _ (orderBy_congr ownRank_injective ?_ ?_)
    · rw [← kept, arrangeFields_eq, arrangeFields_eq]
      exact ((columnOrder_perm _).filter _).map _
    · rw [eraseFields_eq, arrangeFields_eq, List.map_map, List.map_map]
      exact distinctNames.1.sublist (List.filter_sublist.map _)
  | _ => rfl

theorem arrange_column_of_finite {value : JsonValue} (finite : value.finite = true)
    (distinctNames : value.distinct) :
    value.column.arrange keep = value.arrange keep := by
  rw [arrange_column keep value distinctNames, erase_of_finite _ (finite_arrange keep value finite)]

theorem finite_column (value : JsonValue) : value.column.finite = true := by
  induction value using members_induction with
  | num number => cases number <;> rfl
  | arr items ih =>
    rw [column, columnItems_eq]
    exact finiteItems_iff.mpr (List.forall_mem_map.mpr ih)
  | obj fields ih =>
    rw [column, Json.finite, columnOrder, finite_orderBy, columnFields_eq]
    exact finiteFields_iff.mpr (List.forall_mem_map.mpr ih)
  | _ => rfl

theorem distinct_column (value : JsonValue) (distinctNames : value.distinct) :
    value.column.distinct := by
  induction value using members_induction with
  | num number => cases number <;> exact distinctNames
  | arr items ih =>
    rw [column, columnItems_eq]
    exact distinctItems_iff.mpr (List.forall_mem_map.mpr fun item member =>
      ih item member (distinctItems_iff.mp distinctNames item member))
  | obj fields ih =>
    have perm := columnOrder_perm (columnFields fields)
    rw [column, distinct, (perm.map _).nodup_iff, names_columnFields]
    refine ⟨distinctNames.1, distinctFields_iff.mpr fun field member => ?_⟩
    rw [perm.mem_iff, columnFields_eq] at member
    obtain ⟨origin, listed, rfl⟩ := List.mem_map.mp member
    exact ih origin listed (distinctFields_iff.mp distinctNames.2 origin listed)
  | _ => exact distinctNames

/-! Fields of a value; a value that is no object has none. -/

theorem mem_of_lookup {α : Type} {entries : List (String × α)} {name : String} {found : α}
    (isFound : entries.lookup name = some found) : (name, found) ∈ entries := by
  obtain ⟨before, after, same, _⟩ := List.lookup_eq_some_iff.mp isFound
  rw [same]
  exact List.mem_append_right _ List.mem_cons_self

theorem distinct_field? {value found : JsonValue} {name : String} (distinct : value.distinct)
    (isFound : value.field? name = some found) : found.distinct := by
  cases value with
  | obj fields => exact distinctFields_iff.mp distinct.2 _ (mem_of_lookup isFound)
  | _ => cases isFound

theorem lookup_columnFields (name : String) :
    (columnFields fields).lookup name = (fields.lookup name).map column := by
  induction fields with
  | nil => rfl
  | cons field rest ih =>
    obtain ⟨fieldName, value⟩ := field
    rw [columnFields, List.lookup_cons, List.lookup_cons]
    cases name == fieldName with
    | true => rfl
    | false => exact ih

theorem lookup_perm {first second : List (String × JsonValue)} (perm : first.Perm second)
    (distinct : (second.map Prod.fst).Nodup) (name : String) :
    first.lookup name = second.lookup name := by
  induction perm with
  | nil => rfl
  | cons field _ ih =>
    obtain ⟨fieldName, value⟩ := field
    rw [List.map_cons, List.nodup_cons] at distinct
    rw [List.lookup_cons, List.lookup_cons, ih distinct.2]
  | swap left right rest =>
    obtain ⟨leftName, leftValue⟩ := left
    obtain ⟨rightName, rightValue⟩ := right
    rw [List.map_cons, List.map_cons, List.nodup_cons] at distinct
    have different : leftName ≠ rightName := by
      rintro rfl
      exact distinct.1 List.mem_cons_self
    simp only [List.lookup_cons]
    cases isLeft : name == leftName with
    | true =>
      have notRight : (name == rightName) = false := by
        rw [beq_iff_eq.mp isLeft]
        exact beq_false_of_ne different
      rw [notRight]
    | false => rfl
  | trans first _ ihFirst ihSecond =>
    rename_i middle last permSecond
    rw [← ihSecond distinct]
    exact ihFirst ((permSecond.map Prod.fst).nodup_iff.mpr distinct)

theorem field?_column {value : JsonValue} (distinct : value.distinct)
    (name : String) : value.column.field? name = (value.field? name).map column := by
  cases value with
  | num number => cases number <;> rfl
  | obj fields =>
    have names : ((columnFields fields).map Prod.fst).Nodup := by
      rw [names_columnFields]
      exact distinct.1
    rw [column, field?, field?, lookup_perm (columnOrder_perm _) names, lookup_columnFields]
  | _ => rfl

def isNull : JsonValue → Bool
  | .null => true
  | _ => false

mutual

/-- What a value is printed as where a text is put together; an object has no text of its own,
and one with a field `toString` throws. -/
def display : JsonValue → Option Text
  | .null => some "null".toList
  | .bool value => some (if value then "true".toList else "false".toList)
  | .num (.finite number) => some number.text
  | .num (.infinite negative) =>
    some (if negative then "-Infinity".toList else "Infinity".toList)
  | .str value => some value.toList
  | .arr items => displayItems true items
  | .obj fields =>
    if fields.any fun field => field.1 = "toString" then none
    else some "[object Object]".toList

def displayItems (first : Bool) : List JsonValue → Option Text
  | [] => some []
  | item :: rest => do
      let own ← if item.isNull then some [] else display item
      let others ← displayItems false rest
      return comma first ++ (own ++ others)

end

/-- A property that an object does not have is undefined. -/
def displayField (value : Option JsonValue) : Option Text :=
  match value with
  | none => some "undefined".toList
  | some value => value.display

end Tamanor.Library.Json
