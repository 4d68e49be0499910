import Tamanor.Db.BusinessContactsRepo
import Tamanor.Library.Base64
import Tamanor.Library.Keyset
import Tamanor.Library.NumericLiteral

/-! Contact list, counts and export (`business-contacts-repo.ts`). Where-objects are
records of optional clauses; spreading one into another replaces the clauses it has. -/

set_option autoImplicit false

namespace Tamanor.Db

open Tamanor.Core Library

/-- How the database treats texts: the order of its ids, and whether a text contains a
part up to case. -/
structure TextRules where
  idOrder : KeyOrder String
  containsInsensitive : String → String → Bool

structure BusinessContactFilters where
  status : Option BusinessContactStatus
  sourcePlatform : Option BusinessContactSource
  search : Option String
  lifecycle : Option BusinessContactLifecycle
  needsReview : Bool
  reviewThresholdDays : Option ℚ

variable (filters : BusinessContactFilters)

def BusinessContactFilters.term? : Option String :=
  filters.search.filter (· ≠ "")

inductive LifecycleClause where
  | equals (state : BusinessContactLifecycle)
  | not (state : BusinessContactLifecycle)
  | notIn (states : List BusinessContactLifecycle)

def LifecycleClause.holds (state : BusinessContactLifecycle) : LifecycleClause → Bool
  | .equals wanted => state == wanted
  | .not unwanted => state != unwanted
  | .notIn hidden => !hidden.contains state

inductive SearchColumn where
  | fullName | email | company | phone

def SearchColumn.read (contact : BusinessContact) : SearchColumn → Option String
  | .fullName => contact.fullName
  | .email => contact.email
  | .company => contact.company
  | .phone => contact.phone

inductive ContactCondition where
  | contains (column : SearchColumn) (part : String)
  | receivedBefore (time : Int)
  | receivedAtIdBefore (time : Int) (id : String)

def ContactCondition.holds (rules : TextRules) (contact : BusinessContact) : ContactCondition → Bool
  | .contains column part => (column.read contact).any (rules.containsInsensitive · part)
  | .receivedBefore time => decide (contact.receivedAt < time)
  | .receivedAtIdBefore time id =>
    decide (contact.receivedAt = time) && rules.idOrder.precedes contact.id id

structure ContactWhere where
  status : Option BusinessContactStatus := none
  sourcePlatform : Option BusinessContactSource := none
  lifecycleState : Option LifecycleClause := none
  receivedAtLt : Option Int := none
  updatedAtLt : Option Int := none
  anyOf : Option (List ContactCondition) := none
  allOf : Option (List (List ContactCondition)) := none

namespace ContactWhere

/-- `{ ...earlier, ...later }`. -/
def spread (earlier later : ContactWhere) : ContactWhere where
  status := later.status <|> earlier.status
  sourcePlatform := later.sourcePlatform <|> earlier.sourcePlatform
  lifecycleState := later.lifecycleState <|> earlier.lifecycleState
  receivedAtLt := later.receivedAtLt <|> earlier.receivedAtLt
  updatedAtLt := later.updatedAtLt <|> earlier.updatedAtLt
  anyOf := later.anyOf <|> earlier.anyOf
  allOf := later.allOf <|> earlier.allOf

def holds (rules : TextRules) (contact : BusinessContact) (clauses : ContactWhere) : Bool :=
  clauses.status.all (contact.status == ·) &&
    clauses.sourcePlatform.all (contact.sourcePlatform == ·) &&
    clauses.lifecycleState.all (·.holds contact.lifecycleState) &&
    clauses.receivedAtLt.all (decide <| contact.receivedAt < ·) &&
    clauses.updatedAtLt.all (decide <| contact.updatedAt < ·) &&
    clauses.anyOf.all (·.any (·.holds rules contact)) &&
    clauses.allOf.all (·.all (·.any (·.holds rules contact)))

end ContactWhere

def lifecycleWhere : ContactWhere :=
  match filters.lifecycle with
  | some state => { lifecycleState := some (.equals state) }
  | none => { lifecycleState := some (.notIn defaultHiddenLifecycles) }

def reviewWhere (now : Int) : ContactWhere :=
  if filters.needsReview then
    let cutoff :=
      contactReviewCutoff (some (filters.reviewThresholdDays.getD contactReviewDefaultDays)) now
    { lifecycleState := some (.not .anonymized)
      receivedAtLt := some cutoff
      updatedAtLt := some cutoff }
  else {}

def searchWhere (term : String) : List ContactCondition :=
  [.contains .fullName term, .contains .email term, .contains .company term,
    .contains .phone term] ++
    match contactSearchPhoneDigits term.toList with
    | some digits => [.contains .phone (String.ofList digits)]
    | none => []

/-- The largest time value of a `Date`, before or after the epoch. -/
def maxTime : Int := 8640000000000000

/-- `new Date(number)`; a number out of range gives an invalid date. -/
def dateOf (number : ℚ) : Option Int :=
  let value := NumericLiteral.toDouble number
  if |value| ≤ maxTime then some (truncate value) else none

def isIdChar (char : Char) : Bool :=
  ('a' ≤ char && char ≤ 'z') || ('A' ≤ char && char ≤ 'Z') || ('0' ≤ char && char ≤ '9')

def IsAlphanumericId (id : String) : Prop := id.toList ≠ [] ∧ id.toList.all isIdChar = true

instance (id : String) : Decidable (IsAlphanumericId id) := inferInstanceAs (Decidable (_ ∧ _))

def encodeCursor (receivedAt : Int) (id : String) : String :=
  String.ofList (Base64.encode ((toString receivedAt).toList ++ ':' :: id.toList))

structure CursorKey where
  receivedAt : Option Int
  id : String

def decodeCursor (raw : Option String) : Option CursorKey :=
  match raw.filter (· ≠ "") with
  | none => none
  | some raw =>
    let (ms, rest) := NumericLiteral.cut (· == ':') (Base64.decode raw.toList)
    match NumericLiteral.number? ms, rest.map fun rest => (NumericLiteral.cut (· == ':') rest).1 with
    | some number, some id =>
      if IsAlphanumericId (String.ofList id) then some ⟨dateOf number, String.ofList id⟩ else none
    | _, _ => none

structure BusinessContactRow where
  id : String
  provider : BusinessProvider
  sourcePlatform : BusinessContactSource
  fullName : Option String
  email : Option String
  phone : Option String
  company : Option String
  messageSummary : Option String
  campaignName : Option String
  formName : Option String
  receivedAt : Int
  status : BusinessContactStatus
  assignedUserId : Option String
  consentValue : Option Bool
  createdAt : Int
  lifecycleState : BusinessContactLifecycle
  anonymizedAt : Option Int
  anonymizationReason : Option ContactAnonymizationReason
  latestActivityAt : Int

def laterActivity (updatedAt : Int) (latestNoteAt : Option Int) : Int :=
  match latestNoteAt with
  | some noteAt => if updatedAt < noteAt then noteAt else updatedAt
  | none => updatedAt

def mapContact (contact : BusinessContact) (latestNoteAt : Option Int) : BusinessContactRow where
  id := contact.id
  provider := contact.provider
  sourcePlatform := contact.sourcePlatform
  fullName := contact.fullName
  email := contact.email
  phone := contact.phone
  company := contact.company
  messageSummary := contact.messageSummary
  campaignName := contact.campaignName
  formName := contact.formName
  receivedAt := contact.receivedAt
  status := contact.status
  assignedUserId := contact.assignedUserId
  consentValue := contact.consentValue
  createdAt := contact.createdAt
  lifecycleState := contact.lifecycleState
  anonymizedAt := contact.anonymizedAt
  anonymizationReason := contact.anonymizationReason
  latestActivityAt := laterActivity contact.updatedAt latestNoteAt

structure ContactExportSource where
  lifecycleState : BusinessContactLifecycle
  fullName : Option String
  email : Option String
  phone : Option String
  company : Option String
  sourcePlatform : BusinessContactSource
  campaignName : Option String
  formName : Option String
  receivedAt : Int
  status : BusinessContactStatus
  assignedTo : Option String
  latestActivityAt : Int

structure ContactExportResult where
  limited : Bool
  rows : List ContactExportSource

structure BusinessContactCounts where
  total : Nat
  byStatus : BusinessContactStatus → Nat

structure Membership where
  userId : String
  email : Option String

/-- The contacts of a tenant at one time. Ids are unique and alphanumeric, and every time
is one that a `Date` can hold. -/
structure ContactTable where
  contacts : List BusinessContact
  notes : List BusinessContactNote
  memberships : List Membership
  distinct : (contacts.map (·.id)).Nodup
  alphanumeric : ∀ contact ∈ contacts, IsAlphanumericId contact.id
  dated : ∀ contact ∈ contacts, |contact.receivedAt| ≤ maxTime

namespace ContactTable

variable (table : ContactTable)

def latestNoteAt (contactId : String) : Option Int :=
  ((table.notes.filter (·.contactId == contactId)).map (·.createdAt)).max?

def row (contact : BusinessContact) : BusinessContactRow :=
  mapContact contact (table.latestNoteAt contact.id)

def memberEmail (userId : String) : Option String :=
  (table.memberships.reverse.find? (·.userId == userId)).bind (·.email)

def exportRow (contact : BusinessContact) : ContactExportSource where
  lifecycleState := contact.lifecycleState
  fullName := contact.fullName
  email := contact.email
  phone := contact.phone
  company := contact.company
  sourcePlatform := contact.sourcePlatform
  campaignName := contact.campaignName
  formName := contact.formName
  receivedAt := contact.receivedAt
  status := contact.status
  assignedTo := (contact.assignedUserId.filter (· ≠ "")).bind fun userId => table.memberEmail userId
  latestActivityAt := laterActivity contact.updatedAt (table.latestNoteAt contact.id)

end ContactTable

def sortKey (contact : BusinessContact) : Int × String := (contact.receivedAt, contact.id)

/-- `orderBy: [{ receivedAt: "desc" }, { id: "desc" }]`. -/
def TextRules.listOrder (rules : TextRules) : KeyOrder (Int × String) := .descending rules.idOrder

def ContactTable.findMany (table : ContactTable) (rules : TextRules) (clauses : ContactWhere) :
    List BusinessContact :=
  Keyset.sorted rules.listOrder sortKey (table.contacts.filter fun contact =>
    clauses.holds rules contact)

def pageSize : Nat := 20

def contactExportMaxRows : Int := 10000

def listWhere (key : Option (Int × String)) (now : Int) : ContactWhere :=
  let searched := (filters.term?.map searchWhere).toList
  let after := key.toList.map fun (time, id) =>
    [ContactCondition.receivedBefore time, .receivedAtIdBefore time id]
  let allOf := searched ++ after
  ((({ status := filters.status, sourcePlatform := filters.sourcePlatform } : ContactWhere).spread
    (lifecycleWhere filters)).spread (reviewWhere filters now)).spread
    { allOf := if allOf = [] then none else some allOf }

inductive ListFailure where
  | invalidDate

def listBusinessContacts (rules : TextRules) (table : ContactTable) (now : Int)
    (filters : BusinessContactFilters) (cursor : Option String) :
    Except ListFailure (Paging.Page BusinessContactRow) := do
  let key ← match decodeCursor cursor with
    | none => .ok none
    | some ⟨none, _⟩ => .error .invalidDate
    | some ⟨some time, id⟩ => .ok (some (time, id))
  let rows := (table.findMany rules (listWhere filters key now)).take (pageSize + 1)
  let page := rows.take pageSize
  let last := if pageSize < rows.length then page.getLast? else none
  .ok
    { items := page.map table.row
      nextCursor := last.map fun contact => encodeCursor contact.receivedAt contact.id }

def countsWhere (now : Int) : ContactWhere :=
  ((({ sourcePlatform := filters.sourcePlatform } : ContactWhere).spread
    (lifecycleWhere filters)).spread (reviewWhere filters now)).spread
    { anyOf := filters.term?.map searchWhere }

/-- `groupBy` with a count of each group. -/
def groupCounts (statuses : List BusinessContactStatus) : List (BusinessContactStatus × Nat) :=
  statuses.dedup.map fun status => (status, statuses.count status)

def businessContactCounts (rules : TextRules) (table : ContactTable) (now : Int)
    (filters : BusinessContactFilters) : BusinessContactCounts :=
  let grouped := groupCounts
    ((table.contacts.filter fun contact => (countsWhere filters now).holds rules contact).map
      (·.status))
  { total := (grouped.map (·.2)).sum
    byStatus := fun status => (grouped.lookup status).getD 0 }

def exportWhere (now : Int) : ContactWhere :=
  ((({ status := filters.status, sourcePlatform := filters.sourcePlatform } : ContactWhere).spread
    (lifecycleWhere filters)).spread (reviewWhere filters now)).spread
    { allOf := filters.term?.map fun term => [searchWhere term] }

def exportBusinessContacts (rules : TextRules) (table : ContactTable) (now : Int)
    (filters : BusinessContactFilters) (limit : Int) : ContactExportResult :=
  let taken := (max 1 (min limit contactExportMaxRows)).toNat
  let rows := (table.findMany rules (exportWhere filters now)).take (taken + 1)
  let limited := decide (taken < rows.length)
  { limited := limited
    rows := (if limited then rows.take taken else rows).map table.exportRow }

end Tamanor.Db
