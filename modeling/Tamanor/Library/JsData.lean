import Tamanor.Library.StableJson

/-! The data of JavaScript: what JSON can say, the numbers that are not finite, and undefined, which
`JSON.stringify` leaves out of an object and replaces in an array. The text of a value in the order
of its names survives the way through JSON just where no part of the value is undefined. -/

set_option autoImplicit false

namespace Tamanor.Library

inductive JsValue where
  | undefined
  | null
  | bool (value : Bool)
  | num (number : JsonNumber)
  | notFinite
  | str (value : String)
  | arr (items : List JsValue)
  | obj (fields : List (String × JsValue))

namespace JsValue

open Json (comma orderBy precedes quote unitsOf)

/-- A list or an object has a property if all of its members do. -/
@[elab_as_elim]
theorem members_induction {motive : JsValue → Prop} (undefined : motive .undefined)
    (null : motive .null) (bool : ∀ value, motive (.bool value))
    (num : ∀ number, motive (.num number)) (notFinite : motive .notFinite)
    (str : ∀ value, motive (.str value))
    (arr : ∀ items, (∀ item ∈ items, motive item) → motive (.arr items))
    (obj : ∀ fields, (∀ field ∈ fields, motive field.2) → motive (.obj fields))
    (value : JsValue) : motive value :=
  @JsValue.rec motive (fun items => ∀ item ∈ items, motive item)
    (fun fields => ∀ field ∈ fields, motive field.2) (fun field => motive field.2)
    undefined null bool num notFinite str arr obj nofun
    (fun _ _ head tail => List.forall_mem_cons.mpr ⟨head, tail⟩) nofun
    (fun _ _ head tail => List.forall_mem_cons.mpr ⟨head, tail⟩) (fun _ _ own => own) value

mutual

/-- `JSON.parse(JSON.stringify(value))`; none for undefined. -/
def roundTrip : JsValue → Option JsonValue
  | .undefined => none
  | .null | .notFinite => some .null
  | .bool value => some (.bool value)
  | .num number => some (.num number)
  | .str value => some (.str value)
  | .arr items => some (.arr (roundTripItems items))
  | .obj fields => some (.obj (roundTripFields fields))

def roundTripItems : List JsValue → List JsonValue
  | [] => []
  | item :: rest => (roundTrip item).getD .null :: roundTripItems rest

def roundTripFields : List (String × JsValue) → List (String × JsonValue)
  | [] => []
  | (name, value) :: rest =>
    match roundTrip value with
    | none => roundTripFields rest
    | some value => (name, value) :: roundTripFields rest

end

/-- `texts.join(",")`, and the bracket that closes the list. -/
def join (close : Char) (first : Bool) : List Text → Text
  | [] => [close]
  | text :: rest => comma first ++ (text ++ join close false rest)

def byName {α : Type} (first second : String × α) : Prop :=
  precedes (unitsOf first.1) (unitsOf second.1) = true

instance {α : Type} : DecidableRel (byName (α := α)) :=
  fun first second => inferInstanceAs
    (Decidable (precedes (unitsOf first.1) (unitsOf second.1) = true))

mutual

/-- The text of a value with its names in order; none for undefined. In a list undefined is joined
as an empty text, in a template as its name. -/
def stableStringify : JsValue → Option Text
  | .undefined => none
  | .null | .notFinite => some "null".toList
  | .bool value => some (if value then "true".toList else "false".toList)
  | .num number => some number.text
  | .str value => some (quote value)
  | .arr items => some ('[' :: join ']' true (stableItems items))
  | .obj fields =>
    some ('\x7b' :: join '\x7d' true
      (((stableFields fields).insertionSort byName).map fun field =>
        quote field.1 ++ ':' :: field.2))

def stableItems : List JsValue → List Text
  | [] => []
  | item :: rest => (stableStringify item).getD [] :: stableItems rest

def stableFields : List (String × JsValue) → List (String × Text)
  | [] => []
  | (name, value) :: rest =>
    (name, (stableStringify value).getD "undefined".toList) :: stableFields rest

end

mutual

/-- No part of the value is undefined. -/
def written : JsValue → Bool
  | .undefined => false
  | .arr items => writtenItems items
  | .obj fields => writtenFields fields
  | _ => true

def writtenItems : List JsValue → Bool
  | [] => true
  | item :: rest => written item && writtenItems rest

def writtenFields : List (String × JsValue) → Bool
  | [] => true
  | (_, value) :: rest => written value && writtenFields rest

end

mutual

/-- The names of an object differ. -/
def distinct : JsValue → Prop
  | .arr items => distinctItems items
  | .obj fields =>
    (fields.map Prod.fst).Nodup ∧ distinctFields fields
  | _ => True

def distinctItems : List JsValue → Prop
  | [] => True
  | item :: rest => distinct item ∧ distinctItems rest

def distinctFields : List (String × JsValue) → Prop
  | [] => True
  | (_, value) :: rest => distinct value ∧ distinctFields rest

end

variable (items : List JsValue)

theorem roundTripItems_eq :
    roundTripItems items = items.map fun item => item.roundTrip.getD .null := by
  induction items with
  | nil => rfl
  | cons item rest ih => rw [roundTripItems, ih, List.map_cons]

variable (fields : List (String × JsValue))

theorem roundTripFields_eq :
    roundTripFields fields =
      fields.filterMap fun field => field.2.roundTrip.map fun value => (field.1, value) := by
  induction fields with
  | nil => rfl
  | cons field rest ih =>
    obtain ⟨name, value⟩ := field
    rw [roundTripFields, List.filterMap_cons, ih]
    cases value.roundTrip <;> rfl

theorem stableItems_eq :
    stableItems items = items.map fun item => item.stableStringify.getD [] := by
  induction items with
  | nil => rfl
  | cons item rest ih => rw [stableItems, ih, List.map_cons]

theorem stableFields_eq :
    stableFields fields = fields.map fun field =>
      (field.1, field.2.stableStringify.getD "undefined".toList) := by
  induction fields with
  | nil => rfl
  | cons field rest ih =>
    obtain ⟨name, value⟩ := field
    rw [stableFields, ih, List.map_cons]

theorem writtenItems_iff {items : List JsValue} :
    writtenItems items = true ↔ ∀ item ∈ items, item.written = true := by
  induction items with
  | nil => simp [writtenItems]
  | cons item rest ih => rw [writtenItems, Bool.and_eq_true, ih, List.forall_mem_cons]

theorem writtenFields_iff {fields : List (String × JsValue)} :
    writtenFields fields = true ↔ ∀ field ∈ fields, field.2.written = true := by
  induction fields with
  | nil => simp [writtenFields]
  | cons field rest ih => rw [writtenFields, Bool.and_eq_true, ih, List.forall_mem_cons]

theorem distinctItems_iff {items : List JsValue} :
    distinctItems items ↔ ∀ item ∈ items, item.distinct := by
  induction items with
  | nil => simp [distinctItems]
  | cons item rest ih => rw [distinctItems, ih, List.forall_mem_cons]

theorem distinctFields_iff {fields : List (String × JsValue)} :
    distinctFields fields ↔ ∀ field ∈ fields, field.2.distinct := by
  induction fields with
  | nil => simp [distinctFields]
  | cons field rest ih => rw [distinctFields, ih, List.forall_mem_cons]

theorem printItems_eq_join (first : Bool) (items : List JsonValue) :
    Json.printItems first items = join ']' first (items.map Json.print) := by
  induction items generalizing first with
  | nil => rfl
  | cons item rest ih => rw [Json.printItems, ih, List.map_cons, join]

theorem printFields_eq_join (first : Bool) (fields : List (String × JsonValue)) :
    Json.printFields first fields =
      join '\x7d' first (fields.map fun field => quote field.1 ++ ':' :: field.2.print) := by
  induction fields generalizing first with
  | nil => rfl
  | cons field rest ih =>
    obtain ⟨name, value⟩ := field
    rw [Json.printFields, ih, List.map_cons, join]
    simp

theorem names_roundTripFields :
    ((roundTripFields fields).map Prod.fst).Sublist (fields.map Prod.fst) := by
  induction fields with
  | nil => exact .slnil
  | cons field rest ih =>
    rw [roundTripFields]
    cases field.2.roundTrip with
    | none => exact .cons _ ih
    | some json => exact .cons_cons _ ih

theorem distinct_roundTrip (value : JsValue) (distinctNames : value.distinct) :
    (value.roundTrip.getD .null).distinct := by
  induction value using members_induction with
  | arr items ih =>
    refine Json.distinctItems_iff.mpr ?_
    rw [roundTripItems_eq]
    exact List.forall_mem_map.mpr fun item member =>
      ih item member (distinctItems_iff.mp distinctNames item member)
  | obj fields ih =>
    refine ⟨distinctNames.1.sublist (names_roundTripFields fields), Json.distinctFields_iff.mpr ?_⟩
    rw [roundTripFields_eq]
    intro field member
    obtain ⟨origin, listed, read⟩ := List.mem_filterMap.mp member
    obtain ⟨json, isJson, rfl⟩ := Option.map_eq_some_iff.mp read
    have own := ih origin listed (distinctFields_iff.mp distinctNames.2 origin listed)
    rw [isJson] at own
    exact own
  | _ => exact trivial

theorem lookup_roundTripFields {fields : List (String × JsValue)} {name : String}
    {value : JsValue} {json : JsonValue} (found : fields.lookup name = some value)
    (read : value.roundTrip = some json) : (roundTripFields fields).lookup name = some json := by
  induction fields with
  | nil => cases found
  | cons field rest ih =>
    obtain ⟨fieldName, fieldValue⟩ := field
    rw [List.lookup_cons] at found
    rw [roundTripFields]
    cases same : name == fieldName with
    | true =>
      rw [same] at found
      cases found
      rw [read]
      exact (List.lookup_cons ..).trans (by rw [same])
    | false =>
      rw [same] at found
      cases fieldValue.roundTrip with
      | none => exact ih found
      | some other => exact (List.lookup_cons ..).trans (by rw [same]; exact ih found)

section Selection

variable {α β : Type} {before : α → α → Prop} {after : β → β → Prop} [DecidableRel before]
  [DecidableRel after] [Std.Total before] [IsTrans α before] {read : α → Option β}

variable (after) in
omit [Std.Total before] in
theorem filterMap_orderedInsert
    (same : ∀ left right first second, read left = some first → read right = some second →
      (before left right ↔ after first second))
    (value : α) {values : List α} (sorted : values.Pairwise before) :
    (values.orderedInsert before value).filterMap read =
      match read value with
      | none => values.filterMap read
      | some first => (values.filterMap read).orderedInsert after first := by
  induction values with
  | nil => cases found : read value <;> simp [found]
  | cons head values ih =>
    obtain ⟨least, rest⟩ := List.pairwise_cons.mp sorted
    rw [List.orderedInsert_cons]
    split
    next above =>
      cases found : read value with
      | none => rw [List.filterMap_cons_none found]
      | some first =>
        rw [List.filterMap_cons_some found]
        cases others : (head :: values).filterMap read with
        | nil => rfl
        | cons second seconds =>
          have member : second ∈ (head :: values).filterMap read := by simp [others]
          obtain ⟨origin, inside, isSecond⟩ := List.mem_filterMap.mp member
          have ahead : before value origin := by
            rcases List.mem_cons.mp inside with rfl | later
            · exact above
            · exact IsTrans.trans _ _ _ above (least origin later)
          exact (List.orderedInsert_cons_of_le _ _
            ((same value origin first second found isSecond).mp ahead)).symm
    next below =>
      cases kept : read head with
      | none =>
        rw [List.filterMap_cons_none kept, List.filterMap_cons_none kept, ih rest]
      | some second =>
        rw [List.filterMap_cons_some kept, List.filterMap_cons_some kept, ih rest]
        cases found : read value with
        | none => rfl
        | some first =>
          exact (List.orderedInsert_of_not_le _ _ fun ahead =>
            below ((same value head first second found kept).mpr ahead)).symm

variable (after) in
theorem filterMap_insertionSort
    (same : ∀ left right first second, read left = some first → read right = some second →
      (before left right ↔ after first second)) (values : List α) :
    (values.insertionSort before).filterMap read = (values.filterMap read).insertionSort after := by
  induction values with
  | nil => rfl
  | cons value values ih =>
    rw [List.insertionSort_cons, filterMap_orderedInsert after same value
      (List.pairwise_insertionSort before values), ih]
    cases found : read value with
    | none => rw [List.filterMap_cons_none found]
    | some first => rw [List.filterMap_cons_some found, List.insertionSort_cons]

end Selection

/-! The texts of the members, in the order in which they are printed. -/

instance {α : Type} : Std.Total (byName (α := α)) :=
  ⟨fun _ _ => Json.precedes_total _ _⟩

instance {α : Type} : IsTrans (String × α) byName := ⟨fun _ _ _ => Json.precedes_trans⟩

def itemText (item : JsValue) : Text := item.stableStringify.getD []

def jsonItemText (item : JsValue) : Text := (item.roundTrip.getD .null).stable.print

def fieldText (field : String × JsValue) : Text :=
  quote field.1 ++ ':' :: field.2.stableStringify.getD "undefined".toList

def jsonFieldText (field : String × JsValue) : Option Text :=
  field.2.roundTrip.map fun value => quote field.1 ++ ':' :: value.stable.print

theorem stableStringify_arr :
    stableStringify (.arr items) = some ('[' :: join ']' true (items.map itemText)) := by
  rw [stableStringify, stableItems_eq]
  rfl

theorem print_stable_arr :
    Json.print (.arr (Json.stableItems (roundTripItems items))) =
      '[' :: join ']' true (items.map jsonItemText) := by
  rw [Json.print, printItems_eq_join, Json.stableItems_eq, roundTripItems_eq, List.map_map,
    List.map_map]
  rfl

theorem stableStringify_obj :
    stableStringify (.obj fields) =
      some ('\x7b' :: join '\x7d' true ((fields.insertionSort byName).map fieldText)) := by
  rw [stableStringify, stableFields_eq, ← List.map_insertionSort (r := byName) (s := byName),
    List.map_map]
  · rfl
  · exact fun _ _ _ _ => Iff.rfl

theorem print_stable_obj :
    (Json.obj (roundTripFields fields)).stable.print =
      '\x7b' :: join '\x7d' true ((fields.insertionSort byName).filterMap jsonFieldText) := by
  have kept : Json.nameOrder (Json.stableFields (roundTripFields fields)) =
      (fields.insertionSort byName).filterMap fun field =>
        field.2.roundTrip.map fun value => (field.1, value.stable) := by
    rw [filterMap_insertionSort byName, Json.stableFields_eq, roundTripFields_eq,
      List.map_filterMap]
    · simp only [Option.map_map]
      rfl
    · intro left right first second isFirst isSecond
      obtain ⟨_, _, rfl⟩ := Option.map_eq_some_iff.mp isFirst
      obtain ⟨_, _, rfl⟩ := Option.map_eq_some_iff.mp isSecond
      exact Iff.rfl
  rw [Json.stable, Json.print, printFields_eq_join, kept, List.map_filterMap]
  simp only [Option.map_map]
  rfl

/-! A value that reads back the text that it had. -/

theorem print_ne_undefined (value : JsonValue) (left right : Text) :
    'u' :: left ≠ value.print ++ right := by
  intro same
  cases value with
  | bool value => cases value <;> cases same
  | num number =>
    cases number with
    | infinite => cases same
    | finite number =>
      obtain ⟨text, nonempty, printed⟩ := number
      cases text with
      | nil => exact nonempty rfl
      | cons char others =>
        rw [List.all_cons, Bool.and_eq_true] at printed
        cases same
        cases printed.1
  | _ => cases same

/-- What follows an item in a list. -/
def Follows (rest : Text) : Prop := rest.head? = some ',' ∨ rest.head? = some ']'

theorem follows_join (texts : List Text) (rest : Text) :
    Follows (join ']' false texts ++ rest) := by
  cases texts with
  | nil => exact .inr rfl
  | cons text texts => exact .inl rfl

/-- The text of the value begins the text of what is read back only where it is that text. -/
def Tells (value : JsValue) : Prop :=
  ∀ text json left right, value.stableStringify = some text → value.roundTrip = some json →
    text ++ left = json.stable.print ++ right → value.written = true ∧ left = right

theorem exists_texts {value : JsValue} (known : value ≠ .undefined) :
    ∃ text json, value.stableStringify = some text ∧ value.roundTrip = some json := by
  cases value with
  | undefined => exact absurd rfl known
  | _ => exact ⟨_, _, rfl, rfl⟩

theorem Tells.item {item : JsValue} (tells : item.Tells) {left right : Text}
    (follows : Follows left) (same : itemText item ++ left = jsonItemText item ++ right) :
    item.written = true ∧ left = right := by
  by_cases absent : item = .undefined
  · subst absent
    change left = 'n' :: _ at same
    rw [same] at follows
    rcases follows with comma | close
    · cases comma
    · cases close
  · obtain ⟨text, json, printed, read⟩ := exists_texts absent
    rw [itemText, jsonItemText, printed, read] at same
    exact tells text json left right printed read same

theorem join_items {items : List JsValue} (tells : ∀ item ∈ items, item.Tells) (first : Bool)
    {left right : Text} (same : join ']' first (items.map itemText) ++ left =
      join ']' first (items.map jsonItemText) ++ right) :
    (∀ item ∈ items, item.written = true) ∧ left = right := by
  induction items generalizing first with
  | nil => exact ⟨nofun, (List.cons.inj same).2⟩
  | cons item rest ih =>
    obtain ⟨here, later⟩ := List.forall_mem_cons.mp tells
    simp only [List.map_cons, join, List.append_assoc] at same
    obtain ⟨isWritten, others⟩ := here.item (follows_join _ _) (List.append_cancel_left same)
    obtain ⟨areWritten, ends⟩ := ih later false others
    exact ⟨List.forall_mem_cons.mpr ⟨isWritten, areWritten⟩, ends⟩

theorem join_fields {fields : List (String × JsValue)} (tells : ∀ field ∈ fields, field.2.Tells)
    (first : Bool) {left right : Text} (same : join '\x7d' first (fields.map fieldText) ++ left =
      join '\x7d' first (fields.filterMap jsonFieldText) ++ right) :
    (∀ field ∈ fields, field.2.written = true) ∧ left = right := by
  induction fields generalizing first with
  | nil => exact ⟨nofun, (List.cons.inj same).2⟩
  | cons field rest ih =>
    obtain ⟨name, value⟩ := field
    obtain ⟨here, later⟩ := List.forall_mem_cons.mp tells
    by_cases absent : value = .undefined
    · -- the name that is printed next is followed by a value, or there is none
      subst absent
      exfalso
      rw [List.filterMap_cons_none rfl] at same
      cases others : rest.filterMap jsonFieldText with
      | nil =>
        rw [others] at same
        cases first <;> cases same
      | cons text texts =>
        have member : text ∈ rest.filterMap jsonFieldText := by simp [others]
        obtain ⟨other, _, isText⟩ := List.mem_filterMap.mp member
        obtain ⟨json, _, rfl⟩ := Option.map_eq_some_iff.mp isText
        rw [others] at same
        simp only [List.map_cons, join, fieldText, stableStringify, Option.getD_none,
          List.append_assoc, List.cons_append] at same
        have values := (Json.quote_unambiguous (List.append_cancel_left same)).2
        exact print_ne_undefined _ _ _ (List.cons.inj values).2
    · obtain ⟨text, json, printed, read⟩ := exists_texts absent
      have kept : jsonFieldText (name, value) = some (quote name ++ ':' :: json.stable.print) := by
        rw [jsonFieldText, read]
        rfl
      rw [List.filterMap_cons_some kept] at same
      simp only [List.map_cons, join, fieldText, printed, Option.getD_some, List.append_assoc,
        List.cons_append] at same
      have values := (Json.quote_unambiguous (List.append_cancel_left same)).2
      obtain ⟨isWritten, others⟩ := here text json _ _ printed read (List.cons.inj values).2
      obtain ⟨areWritten, ends⟩ := ih later false others
      exact ⟨List.forall_mem_cons.mpr ⟨isWritten, areWritten⟩, ends⟩

theorem tells (value : JsValue) : value.Tells := by
  induction value using members_induction with
  | undefined =>
    intro text json left right printed
    cases printed
  | arr items ih =>
    intro text json left right printed read same
    rw [stableStringify_arr] at printed
    cases printed
    cases read
    rw [Json.stable, print_stable_arr] at same
    exact (join_items ih true (List.cons.inj same).2).imp_left writtenItems_iff.mpr
  | obj fields ih =>
    intro text json left right printed read same
    rw [stableStringify_obj] at printed
    cases printed
    cases read
    rw [print_stable_obj] at same
    have perm := List.perm_insertionSort byName fields
    obtain ⟨areWritten, ends⟩ := join_fields
      (fun field member => ih field (perm.mem_iff.mp member)) true (List.cons.inj same).2
    exact ⟨writtenFields_iff.mpr fun field member =>
      areWritten field (perm.mem_iff.mpr member), ends⟩
  | _ =>
    intro text json left right printed read same
    cases printed
    cases read
    exact ⟨rfl, List.append_cancel_left same⟩

/-! A value of which every part is written. -/

theorem exists_json {value : JsValue} (isWritten : value.written = true) :
    ∃ json, value.roundTrip = some json := by
  cases value with
  | undefined => cases isWritten
  | _ => exact ⟨_, rfl⟩

theorem stableStringify_of_written (value : JsValue) (isWritten : value.written = true) :
    value.stableStringify = value.roundTrip.map Json.stableStringify := by
  induction value using members_induction with
  | undefined => cases isWritten
  | arr items ih =>
    rw [stableStringify_arr, roundTrip, Option.map_some, Json.stableStringify, Json.stable,
      print_stable_arr]
    refine congrArg (fun texts => some ('[' :: join ']' true texts)) (List.map_congr_left ?_)
    intro item member
    have written := writtenItems_iff.mp isWritten item member
    obtain ⟨json, read⟩ := exists_json written
    rw [itemText, jsonItemText, ih item member written, read]
    rfl
  | obj fields ih =>
    have perm := List.perm_insertionSort byName fields
    rw [stableStringify_obj, roundTrip, Option.map_some, Json.stableStringify, print_stable_obj,
      ← List.filterMap_eq_map]
    refine congrArg (fun texts => some ('\x7b' :: join '\x7d' true texts)) ?_
    refine List.filterMap_congr fun field member => ?_
    have listed := perm.mem_iff.mp member
    have written := writtenFields_iff.mp isWritten field listed
    obtain ⟨json, read⟩ := exists_json written
    rw [Function.comp, fieldText, jsonFieldText, ih field listed written, read]
    rfl
  | _ => rfl

theorem stableStringify_roundTrip_iff {value : JsValue} (known : value ≠ .undefined) :
    value.stableStringify = value.roundTrip.map Json.stableStringify ↔ value.written = true := by
  refine ⟨?_, stableStringify_of_written value⟩
  intro same
  obtain ⟨text, json, printed, read⟩ := exists_texts known
  rw [printed, read] at same
  exact (tells value text json [] [] printed read (congrArg (· ++ []) (Option.some.inj same))).1

end JsValue

end Tamanor.Library
