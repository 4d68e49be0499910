import Tamanor.Core.CyberbullyingCompliance

/-! What the hash of a compliance report binds: the payload but for the order of its fields, if
none of its fields has the name of the prototype, and the hash of the report before it. -/

set_option autoImplicit false

namespace Tamanor.Core

open Library

variable {digest : Text → String} {payload other : JsonValue}
  {previousHash otherPrevious : Option String}

/-- Every number is finite, and no field has the name of the prototype. -/
def PlainPayload (payload : JsonValue) : Prop :=
  payload.finite = true ∧ payload.keepsAll isOwnField = true

variable {name : String} {value : Option JsonValue} {fields others : List (String × JsonValue)}
  {prevHash : Option String} {version : Nat} {rows : List ComplianceChainRow}

theorem mem_property {field : String × JsonValue} :
    field ∈ property name value ↔ field.1 = name ∧ value = some field.2 := by
  obtain ⟨fieldName, fieldValue⟩ := field
  cases value with
  | none => simp [property]
  | some value => simp [property, eq_comm]

theorem property_names (name : String) (value : Option JsonValue) :
    ((property name value).map Prod.fst).Sublist [name] := by
  cases value with
  | none => exact List.nil_sublist _
  | some value => exact List.Sublist.refl _

theorem finite_field? {value found : JsonValue} (finite : value.finite = true)
    (isFound : value.field? name = some found) : found.finite = true := by
  cases value with
  | obj fields =>
    exact Json.finiteFields_iff.mp finite _ (Json.mem_of_lookup isFound)
  | _ => cases isFound

theorem readProperty_some {read : Option JsonValue} (reads : readProperty value name = some read) :
    ∃ object, value = some object ∧ object.field? name = read := by
  unfold readProperty at reads
  split at reads
  · cases reads
  · cases reads
  next object _ => exact ⟨object, rfl, Option.some.inj reads⟩

theorem hashInput_spec {input : JsonValue}
    (builds : buildComplianceHashInput payload previousHash = some input) :
    ∃ identity, input = .obj (identity ++ [("previousSnapshotHash", textOrNull previousHash),
        ("snapshotPayload", payload)]) ∧
      ∀ field ∈ identity, field.1 ≠ "previousSnapshotHash" ∧ field.1 ≠ "snapshotPayload" := by
  unfold buildComplianceHashInput at builds
  obtain ⟨metadata, readsMetadata, builds⟩ := Option.bind_eq_some_iff.mp builds
  obtain ⟨incident, readsIncident, builds⟩ := Option.bind_eq_some_iff.mp builds
  obtain ⟨reportType, readsType, builds⟩ := Option.bind_eq_some_iff.mp builds
  obtain ⟨incidentId, readsId, builds⟩ := Option.bind_eq_some_iff.mp builds
  obtain ⟨version, readsVersion, builds⟩ := Option.bind_eq_some_iff.mp builds
  obtain ⟨schemaVersion, readsSchema, builds⟩ := Option.bind_eq_some_iff.mp builds
  obtain ⟨generatedAt, readsGenerated, builds⟩ := Option.bind_eq_some_iff.mp builds
  obtain ⟨updatedAt, readsUpdated, builds⟩ := Option.bind_eq_some_iff.mp builds
  obtain ⟨typeText, _, builds⟩ := Option.bind_eq_some_iff.mp builds
  obtain ⟨incidentText, _, builds⟩ := Option.bind_eq_some_iff.mp builds
  obtain ⟨versionText, _, builds⟩ := Option.bind_eq_some_iff.mp builds
  obtain rfl := Option.some.inj builds
  refine ⟨_, rfl, ?_⟩
  intro field member
  simp only [List.mem_append, List.mem_singleton, mem_property] at member
  rcases member with (((((rfl | ⟨name, _⟩) | ⟨name, _⟩) | ⟨name, _⟩) | ⟨name, _⟩) | ⟨name, _⟩) |
    ⟨name, _⟩
  · dsimp only
    exact ⟨by decide, by decide⟩
  all_goals rw [name]; exact ⟨by decide, by decide⟩

def printedCopy (value : JsonValue) : JsonValue := (sortKeysDeep value).erase

theorem printedCopy_eq {first second : JsonValue}
    (same : canonicalStringify first = canonicalStringify second) :
    printedCopy first = printedCopy second :=
  Json.erase_eq_of_print same

theorem mem_of_printedCopy_eq (name : String) (value : JsonValue)
    (same : printedCopy (.obj fields) = printedCopy (.obj others)) (member : (name, value) ∈ fields)
    (own : isOwnField name = true) :
    ∃ found, (name, found) ∈ others ∧ printedCopy found = printedCopy value := by
  unfold printedCopy sortKeysDeep at same
  rw [Json.arrange, Json.arrange, Json.erase, Json.erase, Json.ownOrder, Json.ownOrder,
    ← Json.orderBy_eraseFields, ← Json.orderBy_eraseFields] at same
  have copied : (name, printedCopy value) ∈
      Json.eraseFields (Json.arrangeFields isOwnField fields) := by
    rw [Json.eraseFields_eq, Json.arrangeFields_eq, List.map_map]
    exact List.mem_map.mpr ⟨(name, value), List.mem_filter.mpr ⟨member, own⟩, rfl⟩
  rw [← (Json.ownOrder_perm _).mem_iff, Json.ownOrder, Json.obj.inj same,
    (Json.orderBy_perm _ _).mem_iff, Json.eraseFields_eq, Json.arrangeFields_eq,
    List.map_map] at copied
  obtain ⟨⟨foundName, found⟩, isFound, sameField⟩ := List.mem_map.mp copied
  obtain ⟨rfl, sameValue⟩ := Prod.mk.inj sameField
  exact ⟨found, (List.mem_filter.mp isFound).1, sameValue⟩

theorem textOrNull_injective {first second : Option String}
    (same : printedCopy (textOrNull first) = printedCopy (textOrNull second)) :
    first = second := by
  cases first <;> cases second
  · rfl
  · cases same
  · cases same
  · cases same
    rfl

theorem canonicalStringify_column {value : JsonValue} (name : String) (distinct : value.distinct) :
    canonicalStringify (.obj (fields ++ (name, value.column) :: others)) =
      canonicalStringify (.obj (fields ++ (name, value) :: others)) := by
  unfold canonicalStringify sortKeysDeep
  rw [← Json.print_erase (Json.arrange _ _),
    ← Json.print_erase (Json.arrange isOwnField (.obj (fields ++ (name, value) :: _)))]
  rw [Json.arrange, Json.arrange, Json.erase, Json.erase, Json.ownOrder, Json.ownOrder,
    ← Json.orderBy_eraseFields, ← Json.orderBy_eraseFields]
  simp only [Json.arrangeFields_eq, Json.eraseFields_eq, List.filter_append,
    List.filter_cons, List.map_append]
  split
  · simp only [List.map_cons, Json.arrange_column isOwnField value distinct,
      Json.erase_erase]
  · rfl

theorem hash_binds (injective : Function.Injective digest) {hash : String}
    (hashes : computeComplianceHashHex digest payload previousHash = some hash)
    (otherHashes : computeComplianceHashHex digest other otherPrevious = some hash) :
    printedCopy payload = printedCopy other ∧ previousHash = otherPrevious := by
  unfold computeComplianceHashHex at hashes otherHashes
  obtain ⟨input, builds, rfl⟩ := Option.map_eq_some_iff.mp hashes
  obtain ⟨otherInput, otherBuilds, same⟩ := Option.map_eq_some_iff.mp otherHashes
  have copies := printedCopy_eq (injective same)
  obtain ⟨identity, rfl, named⟩ := hashInput_spec builds
  obtain ⟨otherIdentity, rfl, _⟩ := hashInput_spec otherBuilds
  constructor
  · obtain ⟨found, member, sameValue⟩ :=
      mem_of_printedCopy_eq "snapshotPayload" other copies (by simp) (by decide)
    rcases List.mem_append.mp member with inIdentity | member
    · exact absurd rfl (named _ inIdentity).2
    · simp only [List.mem_cons, Prod.mk.injEq, List.not_mem_nil, or_false] at member
      rcases member with ⟨impossible, _⟩ | ⟨_, rfl⟩
      · exact absurd impossible (by decide)
      · exact sameValue
  · obtain ⟨found, member, sameValue⟩ := mem_of_printedCopy_eq "previousSnapshotHash"
      (textOrNull otherPrevious) copies (by simp) (by decide)
    rcases List.mem_append.mp member with inIdentity | member
    · exact absurd rfl (named _ inIdentity).1
    · simp only [List.mem_cons, Prod.mk.injEq, List.not_mem_nil, or_false] at member
      rcases member with ⟨_, rfl⟩ | ⟨impossible, _⟩
      · exact textOrNull_injective sameValue
      · exact absurd impossible (by decide)

theorem printedCopy_of_plain (plain : PlainPayload payload) :
    printedCopy payload = payload.sorted := by
  unfold printedCopy sortKeysDeep
  rw [Json.erase_of_finite _ (Json.finite_arrange _ _ plain.1), Json.arrange_eq_sorted _ _ plain.2]

theorem verified_of_verifyPayload {storedHash schemaVersion : String}
    (verified : verifyComplianceSnapshotPayload digest payload storedHash previousHash
      schemaVersion = some .verified) :
    computeComplianceHashHex digest payload previousHash = some storedHash := by
  unfold verifyComplianceSnapshotPayload at verified
  split at verified
  · cases verified
  · obtain ⟨hash, hashes, isVerified⟩ := Option.map_eq_some_iff.mp verified
    split at isVerified
    next same => rw [hashes, same]
    · cases isVerified

theorem verifyChainRows_cons {row : ComplianceChainRow} {rest : List ComplianceChainRow} :
    verifyChainRows digest prevHash version (row :: rest) = some .verified ↔
      row.version = version ∧ row.previousSnapshotHash = prevHash ∧
        verifyComplianceSnapshotPayload digest row.snapshotPayload row.snapshotHash
          row.previousSnapshotHash row.schemaVersion = some .verified ∧
        verifyChainRows digest (some row.snapshotHash) (version + 1) rest = some .verified := by
  rw [verifyChainRows]
  constructor
  · intro verified
    by_cases numbered : row.version = version
    swap
    · rw [if_pos numbered] at verified
      cases verified
    by_cases linked : row.previousSnapshotHash = prevHash
    swap
    · rw [if_neg (not_not.mpr numbered), if_pos linked] at verified
      cases verified
    rw [if_neg (not_not.mpr numbered), if_neg (not_not.mpr linked)] at verified
    obtain ⟨status, isStatus, continues⟩ := Option.bind_eq_some_iff.mp verified
    split at continues
    next failed =>
      cases continues
      exact absurd rfl failed
    next succeeded =>
      rw [not_not.mp succeeded] at isStatus
      exact ⟨numbered, linked, isStatus, continues⟩
  · rintro ⟨numbered, linked, isStatus, continues⟩
    rw [if_neg (not_not.mpr numbered), if_neg (not_not.mpr linked), isStatus]
    exact continues

def lastHash (prevHash : Option String) (rows : List ComplianceChainRow) : Option String :=
  match rows.getLast? with
  | none => prevHash
  | some row => some row.snapshotHash

theorem lastHash_cons (prevHash : Option String) (row : ComplianceChainRow)
    (rest : List ComplianceChainRow) :
    lastHash prevHash (row :: rest) = lastHash (some row.snapshotHash) rest := by
  unfold lastHash
  cases rest with
  | nil => rfl
  | cons next behind => rw [List.getLast?_cons_cons, List.getLast?_eq_some_getLast (by simp)]

section

variable (verified : verifyChainRows digest prevHash version rows = some .verified)
include verified

theorem verifyChainRows_snoc {row : ComplianceChainRow}
    (numbered : row.version = version + rows.length)
    (linked : row.previousSnapshotHash = lastHash prevHash rows)
    (hashed : verifyComplianceSnapshotPayload digest row.snapshotPayload row.snapshotHash
      row.previousSnapshotHash row.schemaVersion = some .verified) :
    verifyChainRows digest prevHash version (rows ++ [row]) = some .verified := by
  induction rows generalizing prevHash version with
  | nil => exact verifyChainRows_cons.mpr ⟨numbered, linked, hashed, rfl⟩
  | cons first rest ih =>
    obtain ⟨firstNumbered, firstLinked, firstHashed, continues⟩ := verifyChainRows_cons.mp verified
    rw [lastHash_cons] at linked
    rw [List.length_cons] at numbered
    exact verifyChainRows_cons.mpr ⟨firstNumbered, firstLinked, firstHashed,
      ih continues (by omega) linked⟩

theorem versions_of_verified : rows.map (·.version) = List.range' version rows.length := by
  induction rows generalizing prevHash version with
  | nil => rfl
  | cons row rest ih =>
    obtain ⟨numbered, _, _, continues⟩ := verifyChainRows_cons.mp verified
    rw [List.map_cons, List.length_cons, List.range'_succ, ih continues, numbered]

theorem links_of_verified :
    prevHash :: rows.map (fun row => some row.snapshotHash) =
      rows.map (·.previousSnapshotHash) ++ [lastHash prevHash rows] := by
  induction rows generalizing prevHash version with
  | nil => rfl
  | cons row rest ih =>
    obtain ⟨_, linked, _, continues⟩ := verifyChainRows_cons.mp verified
    rw [List.map_cons, ih continues, List.map_cons, linked, lastHash_cons]
    rfl

end

def SamePayload (first second : ComplianceChainRow) : Prop :=
  first.snapshotPayload.sorted = second.snapshotPayload.sorted

theorem chain_binds (injective : Function.Injective digest) {first second : List ComplianceChainRow}
    {otherPrev : Option String}
    (firstVerified : verifyChainRows digest prevHash version first = some .verified)
    (secondVerified : verifyChainRows digest otherPrev version second = some .verified)
    (length : first.length = second.length)
    (lastHash : first.getLast?.map (·.snapshotHash) = second.getLast?.map (·.snapshotHash))
    (firstPlain : ∀ row ∈ first, PlainPayload row.snapshotPayload)
    (secondPlain : ∀ row ∈ second, PlainPayload row.snapshotPayload) :
    List.Forall₂ SamePayload first second ∧ (first ≠ [] → prevHash = otherPrev) := by
  induction first generalizing second prevHash otherPrev version with
  | nil =>
    obtain rfl := List.eq_nil_of_length_eq_zero length.symm
    exact ⟨.nil, fun nonempty => absurd rfl nonempty⟩
  | cons row rest ih =>
    cases second with
    | nil => cases length
    | cons other others =>
      obtain ⟨_, linked, verified, continues⟩ := verifyChainRows_cons.mp firstVerified
      obtain ⟨_, otherLinked, otherVerified, otherContinues⟩ :=
        verifyChainRows_cons.mp secondVerified
      have sameLength : rest.length = others.length := Nat.succ.inj length
      have tails : List.Forall₂ SamePayload rest others ∧
          some row.snapshotHash = some other.snapshotHash := by
        cases rest with
        | nil =>
          obtain rfl := List.eq_nil_of_length_eq_zero sameLength.symm
          exact ⟨.nil, lastHash⟩
        | cons next behind =>
          cases others with
          | nil => cases sameLength
          | cons otherNext otherBehind =>
            rw [List.getLast?_cons_cons, List.getLast?_cons_cons] at lastHash
            obtain ⟨same, linkedTails⟩ := ih continues otherContinues sameLength lastHash
              (fun entry member => firstPlain entry (List.mem_cons_of_mem _ member))
              (fun entry member => secondPlain entry (List.mem_cons_of_mem _ member))
            exact ⟨same, linkedTails (List.cons_ne_nil _ _)⟩
      have plain := firstPlain row List.mem_cons_self
      have otherPlain := secondPlain other List.mem_cons_self
      have hashes := verified_of_verifyPayload verified
      rw [Option.some.inj tails.2] at hashes
      obtain ⟨samePayload, samePrevious⟩ := hash_binds injective hashes
        (verified_of_verifyPayload otherVerified)
      rw [printedCopy_of_plain plain, printedCopy_of_plain otherPlain] at samePayload
      exact ⟨.cons samePayload tails.1, fun _ => linked.symm.trans (samePrevious.trans otherLinked)⟩

theorem displayItems_column (first : Bool) {items : List JsonValue}
    (finite : ∀ item ∈ items, item.finite = true)
    (same : ∀ item ∈ items, item.column.display = item.display) :
    Json.displayItems first (Json.columnItems items) = Json.displayItems first items := by
  induction items generalizing first with
  | nil => rfl
  | cons item rest ih =>
    obtain ⟨here, later⟩ := List.forall_mem_cons.mp finite
    obtain ⟨own, others⟩ := List.forall_mem_cons.mp same
    have sameNull : item.column.isNull = item.isNull := by
      cases item with
      | num number => cases number <;> first | rfl | cases here
      | _ => rfl
    rw [Json.columnItems, Json.displayItems, Json.displayItems, sameNull, own,
      ih false later others]

theorem display_column (value : JsonValue) (finite : value.finite = true) :
    value.column.display = value.display := by
  induction value using Json.members_induction with
  | num number => cases number <;> first | rfl | cases finite
  | arr items ih =>
    have each := Json.finiteItems_iff.mp finite
    exact displayItems_column true each fun item member => ih item member (each item member)
  | obj fields =>
    have named : ∀ entries : List (String × JsonValue),
        (entries.any fun field => decide (field.1 = "toString")) =
          (entries.map Prod.fst).any fun name => decide (name = "toString") := by
      intro entries
      rw [List.any_map]
      rfl
    rw [Json.column, Json.display, Json.display,
      (Json.columnOrder_perm _).any_eq, named, named, Json.names_columnFields]
  | _ => rfl

def CleanValue (value : Option JsonValue) : Prop :=
  ∀ object, value = some object → object.finite = true ∧ object.distinct

section

variable (clean : CleanValue value)
include clean

theorem cleanValue_readProperty {read : Option JsonValue}
    (reads : readProperty value name = some read) : CleanValue read := by
  obtain ⟨object, isObject, rfl⟩ := readProperty_some reads
  intro found isFound
  exact ⟨finite_field? (clean object isObject).1 isFound,
    Json.distinct_field? (clean object isObject).2 isFound⟩

theorem readProperty_column (name : String) :
    readProperty (value.map Json.column) name =
      (readProperty value name).map (Option.map Json.column) := by
  cases value with
  | none => rfl
  | some object =>
    obtain ⟨finite, distinct⟩ := clean object rfl
    have field := Json.field?_column distinct name
    cases object with
    | null => rfl
    | num number => cases number <;> first | rfl | cases finite
    | arr items => exact congrArg some field
    | obj fields => exact congrArg some field
    | _ => rfl

theorem displayField_column :
    Json.displayField (value.map Json.column) = Json.displayField value := by
  cases value with
  | none => rfl
  | some object => exact display_column object (clean object rfl).1

theorem copy_property_column (name : String) :
    Json.arrangeFields isOwnField (property name (value.map Json.column)) =
      Json.arrangeFields isOwnField (property name value) := by
  cases value with
  | none => rfl
  | some object =>
    obtain ⟨finite, distinct⟩ := clean object rfl
    rw [Json.arrangeFields_eq, Json.arrangeFields_eq]
    unfold property
    simp only [Option.map_some, Option.toList_some, List.map_cons, List.map_nil,
      List.filter_cons, List.filter_nil]
    split
    · rw [List.map_cons, List.map_cons, Json.arrange_column_of_finite _ finite distinct]
    · rfl

end

theorem arrangeFields_append (keep : String → Bool) (first second : List (String × JsonValue)) :
    Json.arrangeFields keep (first ++ second) =
      Json.arrangeFields keep first ++ Json.arrangeFields keep second := by
  simp only [Json.arrangeFields_eq, List.filter_append, List.map_append]

theorem copy_column (field : String × JsonValue) (name : String) {value : JsonValue}
    (finite : value.finite = true) (distinct : value.distinct) :
    Json.arrangeFields isOwnField [field, (name, value.column)] =
      Json.arrangeFields isOwnField [field, (name, value)] := by
  simp only [Json.arrangeFields, Json.arrange_column_of_finite isOwnField finite distinct]

theorem digest_congr
    (same : Json.arrangeFields isOwnField fields = Json.arrangeFields isOwnField others) :
    (some (Json.obj fields)).map (fun input => digest (canonicalStringify input)) =
      (some (Json.obj others)).map fun input => digest (canonicalStringify input) := by
  rw [Option.map_some, Option.map_some]
  unfold canonicalStringify sortKeysDeep
  rw [Json.arrange, Json.arrange, same]

theorem hash_column (payload : JsonValue) (previousHash : Option String)
    (finite : payload.finite = true) (distinct : payload.distinct) :
    computeComplianceHashHex digest payload.column previousHash =
      computeComplianceHashHex digest payload previousHash := by
  have cleanPayload : CleanValue (some payload) := by
    rintro object ⟨⟩
    exact ⟨finite, distinct⟩
  have asColumn : some payload.column = (some payload).map Json.column := rfl
  unfold computeComplianceHashHex buildComplianceHashInput
  rw [asColumn, readProperty_column cleanPayload, readProperty_column cleanPayload]
  cases readsMetadata : readProperty (some payload) "reportMetadata" with
  | none => rfl
  | some metadata =>
  cases readsIncident : readProperty (some payload) "incident" with
  | none => rfl
  | some incident =>
  have cleanMetadata := cleanValue_readProperty cleanPayload readsMetadata
  have cleanIncident := cleanValue_readProperty cleanPayload readsIncident
  dsimp only [Option.map_some, Option.bind_eq_bind, Option.bind_some]
  rw [readProperty_column cleanMetadata "reportType", readProperty_column cleanIncident,
    readProperty_column cleanMetadata "version", readProperty_column cleanMetadata "schemaVersion",
    readProperty_column cleanMetadata "generatedAt",
    readProperty_column cleanMetadata "sourceIncidentUpdatedAt"]
  cases readsType : readProperty metadata "reportType" with
  | none => rfl
  | some reportType =>
  cases readsId : readProperty incident "incidentId" with
  | none => rfl
  | some incidentId =>
  cases readsVersion : readProperty metadata "version" with
  | none => rfl
  | some version =>
  cases readsSchema : readProperty metadata "schemaVersion" with
  | none => rfl
  | some schemaVersion =>
  cases readsGenerated : readProperty metadata "generatedAt" with
  | none => rfl
  | some generatedAt =>
  cases readsUpdated : readProperty metadata "sourceIncidentUpdatedAt" with
  | none => rfl
  | some updatedAt =>
  have cleanType := cleanValue_readProperty cleanMetadata readsType
  have cleanId := cleanValue_readProperty cleanIncident readsId
  have cleanVersion := cleanValue_readProperty cleanMetadata readsVersion
  have cleanSchema := cleanValue_readProperty cleanMetadata readsSchema
  have cleanGenerated := cleanValue_readProperty cleanMetadata readsGenerated
  have cleanUpdated := cleanValue_readProperty cleanMetadata readsUpdated
  dsimp only [Option.map_some, Option.bind_some]
  rw [displayField_column cleanType, displayField_column cleanId, displayField_column cleanVersion]
  cases Json.displayField reportType with
  | none => rfl
  | some typeText =>
  cases Json.displayField incidentId with
  | none => rfl
  | some incidentText =>
  cases Json.displayField version with
  | none => rfl
  | some versionText =>
  refine digest_congr ?_
  repeat rw [arrangeFields_append]
  rw [copy_property_column cleanId, copy_property_column cleanType,
    copy_property_column cleanVersion, copy_property_column cleanSchema,
    copy_property_column cleanGenerated, copy_property_column cleanUpdated,
    copy_column _ _ finite distinct]

end Tamanor.Core
