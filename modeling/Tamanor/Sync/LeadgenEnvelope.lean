import Tamanor.Library.CanonicalJson
import Tamanor.Sync.MetaLeads

/-! The leadgen envelope of a webhook event (`parseMetaLeadgenChanges`): what the two nested
loops return on any JSON value, and where a null ends them with an exception. -/

set_option autoImplicit false

namespace Tamanor.Sync

open Library

def maxLeadgenChanges : Nat := 200

/-- Reading a property of null throws; other values without the property give undefined. -/
inductive LeadgenFailure where
  | propertyOfNull
deriving DecidableEq

def property (value : JsonValue) (name : String) : Except LeadgenFailure (Option JsonValue) :=
  match value with
  | .null => .error .propertyOfNull
  | value => .ok (value.field? name)

/-- `str` of a property, which must be a text. -/
def strProperty (value : JsonValue) (name : String) (max : Nat) : Option String :=
  match value.field? name with
  | some (.str text) => str (some text) max
  | _ => none

/-- `value === text`. -/
def isText (text : String) : Option JsonValue → Bool
  | some (.str found) => found == text
  | _ => false

/-- `!value || typeof value !== "object"` is false. -/
def isObject : JsonValue → Bool
  | .obj _ | .arr _ => true
  | _ => false

def readChange (entryPageId : Option String) (change : JsonValue) :
    Except LeadgenFailure (Option MetaLeadgenChange) := do
  let field ← property change "field"
  match change.field? "value" with
  | some value =>
    if !isText "leadgen" field || !isObject value then .ok none
    else
      match strProperty value "leadgen_id" 64, (strProperty value "page_id" 64).or entryPageId with
      | some leadgenId, some pageId =>
        .ok (some
          { pageId, leadgenId
            formId := strProperty value "form_id" 64
            adId := strProperty value "ad_id" 64
            createdTime := strProperty value "created_time" 64 })
      | _, _ => .ok none
  | none => .ok none

def readChanges (entryPageId : Option String) :
    List JsonValue → List MetaLeadgenChange → Except LeadgenFailure (List MetaLeadgenChange)
  | [], out => .ok out
  | change :: rest, out =>
    if maxLeadgenChanges ≤ out.length then .ok out
    else
      match readChange entryPageId change with
      | .error failure => .error failure
      | .ok read => readChanges entryPageId rest (out ++ read.toList)

def readEntries :
    List JsonValue → List MetaLeadgenChange → Except LeadgenFailure (List MetaLeadgenChange)
  | [], out => .ok out
  | entry :: rest, out =>
    if maxLeadgenChanges ≤ out.length then .ok out
    else
      match property entry "id" with
      | .error failure => .error failure
      | .ok _ =>
        match entry.field? "changes" with
        | some (.arr changes) =>
          match readChanges (strProperty entry "id" 64) changes out with
          | .error failure => .error failure
          | .ok out => readEntries rest out
        | _ => readEntries rest out

def pageEntries (payload : JsonValue) : List JsonValue :=
  match payload.field? "object", payload.field? "entry" with
  | some (.str "page"), some (.arr entries) => entries
  | _, _ => []

def parseMetaLeadgenChanges (payload : JsonValue) :
    Except LeadgenFailure (List MetaLeadgenChange) :=
  if !isObject payload then .ok [] else readEntries (pageEntries payload) []

/-! The changes of a payload in document order, each with the page of its entry. -/

inductive Visit where
  | null
  | change (entryPageId : Option String) (change : JsonValue)

def Visit.ofChange (entryPageId : Option String) : JsonValue → Visit
  | .null => .null
  | value => .change entryPageId value

def visitsOfEntry : JsonValue → List Visit
  | .null => [.null]
  | entry =>
    match entry.field? "changes" with
    | some (.arr changes) => changes.map (.ofChange (strProperty entry "id" 64))
    | _ => []

def visits (payload : JsonValue) : List Visit := (pageEntries payload).flatMap visitsOfEntry

/-- A change with the field of a lead whose value has the id of the lead, and a page id in its
value or else in its entry. -/
def leadOf : Visit → Option MetaLeadgenChange
  | .null => none
  | .change entryPageId change => do
    guard (isText "leadgen" (change.field? "field"))
    let value ← change.field? "value"
    let leadgenId ← strProperty value "leadgen_id" 64
    let pageId ← (strProperty value "page_id" 64).or entryPageId
    some
      { pageId, leadgenId
        formId := strProperty value "form_id" 64
        adId := strProperty value "ad_id" 64
        createdTime := strProperty value "created_time" 64 }

def leadgenChanges (payload : JsonValue) : List MetaLeadgenChange :=
  (visits payload).filterMap leadOf

def ParsesExactly (payload : JsonValue) : Prop :=
  parseMetaLeadgenChanges payload = .ok ((leadgenChanges payload).take maxLeadgenChanges)

/-- Every null among the entries or their changes comes after as many leads as are read. -/
def NullsComeLate (payload : JsonValue) : Prop :=
  ∀ before after, visits payload = before ++ .null :: after →
    maxLeadgenChanges ≤ (before.filterMap leadOf).length

/-! A bounded scan: the two loops visit one list. -/

/-- Take what the visits give until there are enough, or a null is met. -/
def scan : List Visit → List MetaLeadgenChange → Except LeadgenFailure (List MetaLeadgenChange)
  | [], out => .ok out
  | visit :: rest, out =>
    if maxLeadgenChanges ≤ out.length then .ok out
    else
      match visit with
      | .null => .error .propertyOfNull
      | .change page change => scan rest (out ++ (leadOf (.change page change)).toList)

theorem strProperty_eq_none {value : JsonValue} (name : String) (max : Nat)
    (noObject : isObject value = false) : strProperty value name max = none := by
  cases value <;> simp [strProperty, Json.field?, isObject] at noObject ⊢

theorem readChange_null (page : Option String) :
    readChange page .null = .error .propertyOfNull := rfl

theorem readChange_of_ne {change : JsonValue} (page : Option String) (present : change ≠ .null) :
    readChange page change = .ok (leadOf (.change page change)) := by
  have read : property change "field" = .ok (change.field? "field") := by
    cases change <;> first | rfl | exact absurd rfl present
  simp only [readChange, read, leadOf, bind, Except.bind]
  cases change.field? "value" with
  | none => cases isText "leadgen" (change.field? "field") <;> simp [guard, failure]
  | some value =>
    cases isText "leadgen" (change.field? "field") with
    | false => simp [guard, failure]
    | true =>
      cases object : isObject value with
      | false => simp [guard, strProperty_eq_none _ _ object]
      | true =>
        cases leadgenId : strProperty value "leadgen_id" 64 with
        | none => simp [guard, object, leadgenId]
        | some found =>
          cases pageId : (strProperty value "page_id" 64).or page <;>
            simp [guard, object, leadgenId, pageId]

theorem scan_full {visited : List Visit} {out : List MetaLeadgenChange}
    (full : maxLeadgenChanges ≤ out.length) : scan visited out = .ok out := by
  cases visited <;> simp [scan, full]

theorem scan_changes (page : Option String) (changes : List JsonValue) (rest : List Visit)
    (out : List MetaLeadgenChange) :
    scan (changes.map (.ofChange page) ++ rest) out =
      match readChanges page changes out with
      | .error failure => .error failure
      | .ok out => scan rest out := by
  induction changes generalizing out with
  | nil => rfl
  | cons change changes ih =>
    by_cases full : maxLeadgenChanges ≤ out.length
    · simp [readChanges, full, scan_full full]
    · by_cases absent : change = .null
      · simp [scan, readChanges, full, absent, Visit.ofChange, readChange_null]
      · have visit : Visit.ofChange page change = .change page change := by
          cases change <;> first | rfl | exact absurd rfl absent
        simp [scan, readChanges, full, visit, readChange_of_ne page absent, ih]

theorem readEntries_eq (entries : List JsonValue) (out : List MetaLeadgenChange) :
    readEntries entries out = scan (entries.flatMap visitsOfEntry) out := by
  induction entries generalizing out with
  | nil => rfl
  | cons entry entries ih =>
    by_cases full : maxLeadgenChanges ≤ out.length
    · simp [readEntries, full, scan_full full]
    · by_cases absent : entry = .null
      · simp [readEntries, full, absent, property, visitsOfEntry, scan]
      · have read : property entry "id" = .ok (entry.field? "id") := by
          cases entry <;> first | rfl | exact absurd rfl absent
        have visited : visitsOfEntry entry =
            match entry.field? "changes" with
            | some (.arr changes) => changes.map (.ofChange (strProperty entry "id" 64))
            | _ => [] := by
          cases entry <;> first | rfl | exact absurd rfl absent
        simp only [readEntries, full, if_false, read, List.flatMap_cons, visited]
        split
        next changes found =>
          rw [scan_changes]
          cases readChanges (strProperty entry "id" 64) changes out with
          | error failure => rfl
          | ok out => simp [ih]
        next => simp [ih]

theorem filterMap_cons_toList {α β : Type} (f : α → Option β) (x : α) (rest : List α) :
    (x :: rest).filterMap f = (f x).toList ++ rest.filterMap f := by
  cases found : f x <;> simp [found]

theorem scan_eq_ok_iff {visited : List Visit} {out result : List MetaLeadgenChange}
    (bound : out.length ≤ maxLeadgenChanges) :
    scan visited out = .ok result ↔
      (∀ before after, visited = before ++ .null :: after →
        maxLeadgenChanges ≤ out.length + (before.filterMap leadOf).length) ∧
      result = (out ++ visited.filterMap leadOf).take maxLeadgenChanges := by
  induction visited generalizing out with
  | nil => simp [scan, List.take_of_length_le bound, eq_comm]
  | cons visit visited ih =>
    by_cases full : maxLeadgenChanges ≤ out.length
    · have exact : out.length = maxLeadgenChanges := le_antisymm bound full
      have late : ∀ before after, visit :: visited = before ++ .null :: after →
          maxLeadgenChanges ≤ out.length + (before.filterMap leadOf).length :=
        fun _ _ _ => Nat.le_add_right_of_le full
      have kept : (out ++ (visit :: visited).filterMap leadOf).take maxLeadgenChanges = out := by
        simp [← exact]
      rw [scan_full full, kept]
      constructor
      · intro same
        cases same
        exact ⟨late, rfl⟩
      · rintro ⟨-, rfl⟩
        rfl
    · cases visit with
      | null =>
        simp only [scan, full, if_false]
        constructor
        · intro failed
          cases failed
        · rintro ⟨late, -⟩
          have := late [] visited rfl
          exact absurd (by simpa using this) full
      | change page change =>
        have room : (out ++ (leadOf (.change page change)).toList).length ≤ maxLeadgenChanges := by
          cases leadOf (.change page change) <;> simp <;> omega
        have later := ih room
        simp only [scan, full, if_false, later, filterMap_cons_toList leadOf (.change page change),
          List.append_assoc, List.length_append, and_congr_left_iff]
        rintro -
        constructor
        · intro late before after split
          cases before with
          | nil => cases split
          | cons first before =>
            obtain ⟨rfl, tail⟩ := List.cons.inj split
            have := late before after tail
            simp only [filterMap_cons_toList, List.length_append] at this ⊢
            omega
        · intro late before after split
          have := late (.change page change :: before) after (by simp [split])
          simp only [filterMap_cons_toList, List.length_append] at this ⊢
          omega

theorem parseMetaLeadgenChanges_eq (payload : JsonValue) :
    parseMetaLeadgenChanges payload = scan (visits payload) [] := by
  rw [parseMetaLeadgenChanges, readEntries_eq, visits]
  cases object : isObject payload with
  | true => rfl
  | false =>
    have none : pageEntries payload = [] := by
      cases payload <;> simp [isObject] at object <;> rfl
    simp [none, scan]

/-- The parser returns, and returns just the first leads of the document, if and only if no null
stands among the entries or their changes ahead of the last lead that is read. -/
theorem parsesExactly_iff (payload : JsonValue) : ParsesExactly payload ↔ NullsComeLate payload := by
  rw [ParsesExactly, parseMetaLeadgenChanges_eq, scan_eq_ok_iff (Nat.zero_le _)]
  simp [NullsComeLate, leadgenChanges]

def nullBesideLead : JsonValue :=
  .obj [("object", .str "page"), ("entry", .arr [
    .obj [("id", .str "page-1"), ("changes", .arr [
      .obj [("field", .str "leadgen"), ("value", .obj [("leadgen_id", .str "lead-1")])]])],
    .null])]

theorem not_parsesExactly_nullBesideLead :
    ¬ ParsesExactly nullBesideLead ∧
      leadgenChanges nullBesideLead = [⟨"page-1", "lead-1", none, none, none⟩] := by
  have thrown : parseMetaLeadgenChanges nullBesideLead = .error .propertyOfNull := rfl
  refine ⟨?_, rfl⟩
  intro exact
  rw [ParsesExactly, thrown] at exact
  cases exact

end Tamanor.Sync
