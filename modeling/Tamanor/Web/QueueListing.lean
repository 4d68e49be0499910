import Tamanor.Db.ContactListingProperties
import Tamanor.Web.ActionQueue

/-! The keyset list of the mobile action queue (`mobile-queue-deps.ts`), and which texts its
cursor and that of the contact list (`business-contacts-repo.ts`) accept. Both decoders read
whatever `Number` reads, so they accept texts that no listing has written, and some of these
are no dates. -/

set_option autoImplicit false

namespace Tamanor.Web

open Tamanor.Core Db Library

def queuePageSize : Nat := 25

def encodeQueueCursor (createdAt : Int) (id : String) : String :=
  String.ofList (Base64.encode ((toString createdAt).toList ++ '.' :: id.toList))

def decodeQueueCursor (raw : Option String) : Option CursorKey :=
  match raw.filter (· ≠ "") with
  | none => none
  | some raw =>
    match NumericLiteral.cut (· == '.') (Base64.decode raw.toList) with
    | (_, none) => none
    | (ms, some id) =>
      if ms = [] then none
      else
        match NumericLiteral.number? ms with
        | some number => if id = [] then none else some ⟨dateOf number, String.ofList id⟩
        | none => none

structure QueueRow extends QueueItem where
  createdAt : Int

/-- The queue at one time. Ids are not empty, and every time is one that a `Date` can hold. -/
structure QueueTable where
  rows : List QueueRow
  named : ∀ row ∈ rows, row.id ≠ ""
  dated : ∀ row ∈ rows, |row.createdAt| ≤ maxTime

/-- The tenant, the brands with real data if the mode is real, the states of the tab. -/
structure QueueQuery where
  tenantId : String
  brandIds : Option (List String)
  states : Option (List Ai.QueueState)

def QueueQuery.holds (query : QueueQuery) (row : QueueRow) : Bool :=
  row.tenantId == query.tenantId && query.brandIds.all (·.contains row.brandId) &&
    query.states.all (·.contains row.queueState)

/-- `createdAt <= at AND (createdAt < at OR id < id)`. -/
def queueKeyset (rules : TextRules) (key : Int × String) (row : QueueRow) : Bool :=
  decide (row.createdAt ≤ key.1) &&
    (decide (row.createdAt < key.1) || rules.idOrder.precedes row.id key.2)

structure QueuePage where
  rows : List QueueRow
  nextCursor : Option String
  hasMore : Bool

def listQueue (rules : TextRules) (table : QueueTable) (query : QueueQuery)
    (cursor : Option String) : Except ListFailure QueuePage := do
  let key ← match decodeQueueCursor cursor with
    | none => .ok none
    | some ⟨none, _⟩ => .error .invalidDate
    | some ⟨some time, id⟩ => .ok (some (time, id))
  let found := Keyset.sorted rules.listOrder (fun row => (row.createdAt, row.id))
    (table.rows.filter fun row => query.holds row && key.all (queueKeyset rules · row))
  let rows := found.take (queuePageSize + 1)
  let hasMore := decide (queuePageSize < rows.length)
  let page := if hasMore then rows.take queuePageSize else rows
  .ok
    { rows := page
      nextCursor :=
        if hasMore then page.getLast?.map fun row => encodeQueueCursor row.createdAt row.id
        else none
      hasMore := hasMore }

def cursorsOf (encode : Int → String → String) : Set String :=
  {raw | ∃ time id, |time| ≤ maxTime ∧ raw = encode time id}

/-- A text that is no cursor is taken for none, and the list of every table answers. -/
structure CursorStrict {σ ρ : Type} (encode : Int → String → String)
    (decode : Option String → Option CursorKey)
    (list : σ → Option String → Except ListFailure ρ) (raw : String) : Prop where
  ignored : raw ∉ cursorsOf encode → decode (some raw) = none
  answered : raw ∉ cursorsOf encode → ∀ tables, list tables (some raw) ≠ .error .invalidDate

/-- A number, a colon and an alphanumeric id stand behind the text; another colon ends the id. -/
def ContactCursorReads (raw : String) (number : ℚ) (id : String) : Prop :=
  ∃ ms rest, Base64.decode raw.toList = ms ++ ':' :: (id.toList ++ rest) ∧
    (∀ char ∈ ms, (char == ':') = false) ∧ (rest = [] ∨ ∃ tail, rest = ':' :: tail) ∧
    NumericLiteral.number? ms = some number ∧ IsAlphanumericId id

/-- A number that is not blank, a point and an id stand behind the text. -/
def QueueCursorReads (raw : String) (number : ℚ) (id : String) : Prop :=
  ∃ ms, Base64.decode raw.toList = ms ++ '.' :: id.toList ∧
    (∀ char ∈ ms, (char == '.') = false) ∧ ms ≠ [] ∧
    NumericLiteral.number? ms = some number ∧ id ≠ ""

variable {raw id : String} {rules : TextRules}

theorem filter_given (nonempty : raw ≠ "") :
    (some raw).filter (fun text => decide (text ≠ "")) = some raw := by
  simp [Option.filter_some, nonempty]

theorem filter_empty : (some "").filter (fun text => decide (text ≠ "")) = none := rfl

theorem decode_empty : Base64.decode "".toList = [] := by
  simp [Base64.decode, Base64.lowBytes, Text.codeUnits, Base64.octets, Base64.utf8Text]

theorem ne_empty_of_decoded {char : Char} {before after : Text}
    (decoded : Base64.decode raw.toList = before ++ char :: after) : raw ≠ "" := by
  rintro rfl
  rw [decode_empty] at decoded
  simp at decoded

theorem decodeCursor_eq_some_iff {key : CursorKey} :
    decodeCursor (some raw) = some key ↔
      ∃ number id, ContactCursorReads raw number id ∧ key = ⟨dateOf number, id⟩ := by
  constructor
  · intro accepted
    by_cases empty : raw = ""
    · rw [empty, decodeCursor, filter_empty] at accepted
      cases accepted
    rw [decodeCursor, filter_given empty] at accepted
    dsimp only at accepted
    split at accepted
    · next number id read found =>
      split at accepted
      · next alphanumeric =>
        cases parts : NumericLiteral.cut (· == ':') (Base64.decode raw.toList) with
        | mk ms after =>
          rw [parts] at read found
          cases after with
          | none => cases found
          | some after =>
            obtain rfl := Option.some.inj found
            obtain ⟨separator, colon, decoded⟩ := NumericLiteral.of_cut_eq parts
            obtain rfl := eq_of_beq colon
            have clean := NumericLiteral.clean_cut (· == ':') (Base64.decode raw.toList)
            rw [parts] at clean
            obtain ⟨rest, split, ends⟩ := NumericLiteral.cut_front (· == ':') after
            refine ⟨number, _, ⟨ms, rest, ?_, clean, ?_, read, alphanumeric⟩,
              (Option.some.inj accepted).symm⟩
            · rw [decoded, String.toList_ofList, ← split]
            · rcases ends with none | ⟨other, tail, rfl, colon⟩
              · exact .inl none
              · exact .inr ⟨tail, by rw [eq_of_beq colon]⟩
      · cases accepted
    · cases accepted
  · rintro ⟨number, id, ⟨ms, rest, decoded, clean, ends, read, alphanumeric⟩, rfl⟩
    have named : ∀ char ∈ id.toList, (char == ':') = false := fun char member =>
      ne_colon_of_isIdChar (List.all_eq_true.mp alphanumeric.2 char member)
    have front : (NumericLiteral.cut (· == ':') (id.toList ++ rest)).1 = id.toList := by
      rcases ends with rfl | ⟨tail, rfl⟩
      · rw [List.append_nil, NumericLiteral.cut_of_clean named]
      · rw [NumericLiteral.cut_append _ named (beq_self_eq_true ':')]
    have parts := NumericLiteral.cut_append (id.toList ++ rest) clean (beq_self_eq_true ':')
    rw [decodeCursor, filter_given (ne_empty_of_decoded decoded)]
    simp only [decoded, parts, read, Option.map_some, front, String.ofList_toList, alphanumeric,
      if_true]

theorem decodeQueueCursor_eq_some_iff {key : CursorKey} :
    decodeQueueCursor (some raw) = some key ↔
      ∃ number id, QueueCursorReads raw number id ∧ key = ⟨dateOf number, id⟩ := by
  constructor
  · intro accepted
    by_cases empty : raw = ""
    · rw [empty, decodeQueueCursor, filter_empty] at accepted
      cases accepted
    rw [decodeQueueCursor, filter_given empty] at accepted
    dsimp only at accepted
    split at accepted
    · cases accepted
    · next ms id parts =>
      split at accepted
      · cases accepted
      next nonempty =>
      split at accepted
      · next number read =>
        split at accepted
        · cases accepted
        next named =>
        obtain ⟨separator, point, decoded⟩ := NumericLiteral.of_cut_eq parts
        obtain rfl := eq_of_beq point
        have clean := NumericLiteral.clean_cut (· == '.') (Base64.decode raw.toList)
        rw [parts] at clean
        refine ⟨number, String.ofList id, ⟨ms, ?_, clean, nonempty, read, ?_⟩,
          (Option.some.inj accepted).symm⟩
        · rw [decoded, String.toList_ofList]
        · intro nil
          exact named (by simpa using congrArg String.toList nil)
      · cases accepted
  · rintro ⟨number, id, ⟨ms, decoded, clean, nonempty, read, named⟩, rfl⟩
    have parts := NumericLiteral.cut_append id.toList clean (beq_self_eq_true '.')
    have shown : id.toList ≠ [] := fun nil => named (String.toList_inj.mp (nil.trans rfl))
    rw [decodeQueueCursor, filter_given (ne_empty_of_decoded decoded)]
    simp only [decoded, parts, nonempty, read, shown, if_false, String.ofList_toList]

theorem ne_point_of_printed {char : Char} (printed : char.isDigit = true ∨ char = '-') :
    (char == '.') = false := by
  rcases printed with digit | rfl
  · exact NumericLiteral.beq_of_isDigit digit rfl
  · rfl

theorem decodeQueueCursor_encodeQueueCursor {createdAt : Int} (dated : |createdAt| ≤ maxTime)
    (named : id ≠ "") :
    decodeQueueCursor (some (encodeQueueCursor createdAt id)) = some ⟨some createdAt, id⟩ := by
  have decoded : Base64.decode (encodeQueueCursor createdAt id).toList =
      (toString createdAt).toList ++ '.' :: id.toList := by
    simp [encodeQueueCursor]
  refine decodeQueueCursor_eq_some_iff.mpr ⟨createdAt, id, ⟨_, decoded, ?_,
    NumericLiteral.toString_ne_nil createdAt,
    NumericLiteral.number?_toString (isFinite_of_dated dated), named⟩, ?_⟩
  · exact fun char member => ne_point_of_printed (NumericLiteral.mem_toString member)
  · rw [dateOf_intCast dated]

theorem listBusinessContacts_ignored {table : ContactTable} {now : Int}
    {filters : BusinessContactFilters} (ignored : decodeCursor (some raw) = none) :
    listBusinessContacts rules table now filters (some raw) ≠ .error .invalidDate := by
  have noKey : decodeCursor (some raw) =
      (none : Option (Int × String)).map fun key => ⟨some key.1, key.2⟩ := ignored
  rw [listBusinessContacts_eq noKey]
  simp

theorem listBusinessContacts_invalid {table : ContactTable} {now : Int}
    {filters : BusinessContactFilters} (decoded : decodeCursor (some raw) = some ⟨none, id⟩) :
    listBusinessContacts rules table now filters (some raw) = .error .invalidDate := by
  rw [listBusinessContacts, decoded]
  rfl

theorem listQueue_ignored {table : QueueTable} {query : QueueQuery}
    (ignored : decodeQueueCursor (some raw) = none) :
    listQueue rules table query (some raw) ≠ .error .invalidDate := by
  rw [listQueue, ignored]
  intro failed
  cases failed

theorem listQueue_invalid {table : QueueTable} {query : QueueQuery}
    (decoded : decodeQueueCursor (some raw) = some ⟨none, id⟩) :
    listQueue rules table query (some raw) = .error .invalidDate := by
  rw [listQueue, decoded]
  rfl

theorem cursorStrict_iff {σ ρ : Type} {encode : Int → String → String}
    {decode : Option String → Option CursorKey} {list : σ → Option String → Except ListFailure ρ}
    {reads : String → ℚ → String → Prop}
    (accepts : ∀ key, decode (some raw) = some key ↔
      ∃ number id, reads raw number id ∧ key = ⟨dateOf number, id⟩)
    (answers : decode (some raw) = none → ∀ tables, list tables (some raw) ≠ .error .invalidDate) :
    CursorStrict encode decode list raw ↔
      raw ∈ cursorsOf encode ∨ ¬ ∃ number id, reads raw number id := by
  constructor
  · intro strict
    by_cases written : raw ∈ cursorsOf encode
    · exact .inl written
    refine .inr ?_
    rintro ⟨number, id, read⟩
    have accepted := (accepts _).mpr ⟨number, id, read, rfl⟩
    rw [strict.ignored written] at accepted
    cases accepted
  · rintro (written | unread)
    · exact ⟨fun other => absurd written other, fun other => absurd written other⟩
    have ignored : decode (some raw) = none := by
      cases decoded : decode (some raw) with
      | none => rfl
      | some key =>
        obtain ⟨number, id, read, -⟩ := (accepts key).mp decoded
        exact absurd ⟨number, id, read⟩ unread
    exact ⟨fun _ => ignored, fun _ => answers ignored⟩

/-- What the contact list is asked for, and of which tables. -/
abbrev ContactList := TextRules × ContactTable × Int × BusinessContactFilters

def contactList (asked : ContactList) : Option String →
    Except ListFailure (Paging.Page BusinessContactRow) :=
  listBusinessContacts asked.1 asked.2.1 asked.2.2.1 asked.2.2.2

def queueList (asked : TextRules × QueueTable × QueueQuery) :
    Option String → Except ListFailure QueuePage :=
  listQueue asked.1 asked.2.1 asked.2.2

/-- The cursors of the rows of both lists are read back, and both codecs are strict on exactly
the texts that are cursors or behind which no number, separator and id stand. -/
theorem cursors_strict_iff (table : ContactTable) (queue : QueueTable) (raw : String) :
    (∀ contact ∈ table.contacts,
      decodeCursor (some (encodeCursor contact.receivedAt contact.id)) =
        some ⟨some contact.receivedAt, contact.id⟩) ∧
      (∀ row ∈ queue.rows, decodeQueueCursor (some (encodeQueueCursor row.createdAt row.id)) =
        some ⟨some row.createdAt, row.id⟩) ∧
      (CursorStrict encodeCursor decodeCursor contactList raw ↔
        raw ∈ cursorsOf encodeCursor ∨ ¬ ∃ number id, ContactCursorReads raw number id) ∧
      (CursorStrict encodeQueueCursor decodeQueueCursor queueList raw ↔
        raw ∈ cursorsOf encodeQueueCursor ∨ ¬ ∃ number id, QueueCursorReads raw number id) := by
  refine ⟨fun contact listed => ?_, fun row listed => ?_, ?_, ?_⟩
  · exact decodeCursor_encodeCursor (table.dated contact listed) (table.alphanumeric contact listed)
  · exact decodeQueueCursor_encodeQueueCursor (queue.dated row listed) (queue.named row listed)
  · exact cursorStrict_iff (fun _ => decodeCursor_eq_some_iff)
      fun ignored _ => listBusinessContacts_ignored ignored
  · exact cursorStrict_iff (fun _ => decodeQueueCursor_eq_some_iff)
      fun ignored _ => listQueue_ignored ignored

/-- `1e300` before a separator, as base64url. -/
def farCursor (separator : Char) : String :=
  String.ofList (Base64.encode ("1e300".toList ++ separator :: "abc".toList))

theorem farCursor_not_written {encode : Int → String → String} {separator : Char}
    (encodes : ∀ time id, encode time id =
      String.ofList (Base64.encode ((toString time).toList ++ separator :: id.toList)))
    (clean : ∀ char, char.isDigit = true ∨ char = '-' → (char == separator) = false)
    (other : ∀ char ∈ "1e300".toList, (char == separator) = false) :
    farCursor separator ∉ cursorsOf encode := by
  rintro ⟨time, id, -, same⟩
  have texts := congrArg (Base64.decode ∘ String.toList) same
  simp only [farCursor, encodes, Function.comp_apply, String.toList_ofList,
    Base64.decode_encode] at texts
  have parts := congrArg (fun text => (NumericLiteral.cut (· == separator) text).1) texts
  have printed : ∀ char ∈ (toString time).toList, (char == separator) = false :=
    fun char member => clean char (NumericLiteral.mem_toString member)
  simp only [NumericLiteral.cut_append _ other (beq_self_eq_true separator),
    NumericLiteral.cut_append _ printed (beq_self_eq_true separator)] at parts
  have letter : 'e' ∈ (toString time).toList := parts ▸ by decide
  exact absurd (NumericLiteral.mem_toString letter) (by decide)

theorem far_clean {separator : Char}
    (clean : ("1e300".toList.all fun char => (char == separator) == false) = true) :
    ∀ char ∈ "1e300".toList, (char == separator) = false :=
  fun char member => eq_of_beq (List.all_eq_true.1 clean char member)

theorem number?_far : NumericLiteral.number? "1e300".toList = some (10 ^ 300) := by
  decide +kernel

theorem dateOf_far : dateOf (10 ^ 300) = none := by
  decide +kernel

/-- Both lists fail, of tables without a row already, for a text that no listing has written. -/
theorem not_cursors_strict :
    ¬ (∀ raw, CursorStrict encodeCursor decodeCursor contactList raw) ∧
      ¬ ∀ raw, CursorStrict encodeQueueCursor decodeQueueCursor queueList raw := by
  have rules : TextRules := ⟨.natural, fun _ _ => false⟩
  constructor
  · intro strict
    have unwritten : farCursor ':' ∉ cursorsOf encodeCursor :=
      farCursor_not_written (fun _ _ => rfl) (fun _ => ne_colon_of_printed)
        (far_clean (by decide))
    have decoded : decodeCursor (some (farCursor ':')) = some ⟨none, "abc"⟩ :=
      decodeCursor_eq_some_iff.mpr ⟨10 ^ 300, "abc", ⟨"1e300".toList, [], by simp [farCursor],
        far_clean (by decide), .inl rfl, number?_far, by decide⟩, by rw [dateOf_far]⟩
    exact (strict _).answered unwritten
      (rules, ⟨[], [], [], by simp, by simp, by simp⟩, 0, ⟨none, none, none, none, false, none⟩)
      (listBusinessContacts_invalid decoded)
  · intro strict
    have unwritten : farCursor '.' ∉ cursorsOf encodeQueueCursor :=
      farCursor_not_written (fun _ _ => rfl) (fun _ => ne_point_of_printed)
        (far_clean (by decide))
    have decoded : decodeQueueCursor (some (farCursor '.')) = some ⟨none, "abc"⟩ :=
      decodeQueueCursor_eq_some_iff.mpr ⟨10 ^ 300, "abc", ⟨"1e300".toList, by simp [farCursor],
        far_clean (by decide), by decide, number?_far, by decide⟩, by rw [dateOf_far]⟩
    exact (strict _).answered unwritten
      (rules, ⟨[], by simp, by simp⟩, ⟨"tenant", none, none⟩) (listQueue_invalid decoded)

end Tamanor.Web
