import Mathlib.Data.String.Basic
import Tamanor.Db.ContactListing

/-! Contact list, counts and export select the same contacts, unless the review filter is
set: it takes the place of the lifecycle filter, and it does not see notes. -/

set_option autoImplicit false

namespace Tamanor.Db

open Tamanor.Core Library

namespace BusinessContactFilters

def statusKeeps (filters : BusinessContactFilters) (contact : BusinessContact) : Bool :=
  filters.status.all (contact.status == ·)

def sourceKeeps (filters : BusinessContactFilters) (contact : BusinessContact) : Bool :=
  filters.sourcePlatform.all (contact.sourcePlatform == ·)

def lifecycleKeeps (filters : BusinessContactFilters) (contact : BusinessContact) : Bool :=
  contact.lifecycleState == filters.lifecycle.getD .active

def searchKeeps (rules : TextRules) (filters : BusinessContactFilters)
    (contact : BusinessContact) : Bool :=
  filters.term?.all fun term => (searchWhere term).any (·.holds rules contact)

def reviewKeeps (table : ContactTable) (now : Int) (filters : BusinessContactFilters)
    (contact : BusinessContact) : Bool :=
  !filters.needsReview ||
    contactNeedsPrivacyReview contact.receivedAt (some (table.row contact).latestActivityAt)
      contact.lifecycleState filters.reviewThresholdDays now

def keeps (rules : TextRules) (table : ContactTable) (now : Int)
    (filters : BusinessContactFilters) (contact : BusinessContact) : Bool :=
  filters.statusKeeps contact && filters.sourceKeeps contact && filters.lifecycleKeeps contact &&
    filters.searchKeeps rules contact && filters.reviewKeeps table now contact

def withoutStatus (filters : BusinessContactFilters) : BusinessContactFilters :=
  { filters with status := none }

def cutoff (filters : BusinessContactFilters) (now : Int) : Int :=
  contactReviewCutoff filters.reviewThresholdDays now

def stateKeeps (now : Int) (filters : BusinessContactFilters) (contact : BusinessContact) : Bool :=
  if filters.needsReview then
    contact.lifecycleState != .anonymized &&
      decide (contact.receivedAt < filters.cutoff now) &&
      decide (contact.updatedAt < filters.cutoff now)
  else filters.lifecycleKeeps contact

def queryKeeps (rules : TextRules) (now : Int) (filters : BusinessContactFilters)
    (contact : BusinessContact) : Bool :=
  filters.statusKeeps contact && filters.sourceKeeps contact && filters.stateKeeps now contact &&
    filters.searchKeeps rules contact

end BusinessContactFilters

structure Listed (rules : TextRules) (table : ContactTable) (now : Int)
    (filters : BusinessContactFilters) (listed : List BusinessContact) : Prop where
  selects : listed.Perm (table.contacts.filter (filters.keeps rules table now))
  ordered : Keyset.Ascending rules.listOrder sortKey listed

/-- List, export and counts agree for a filter: the pages from the first one on are the
selected contacts, an export is a prefix of them, and the counts are those of the contacts
that are selected without the status. -/
structure ListingAgrees (rules : TextRules) (table : ContactTable) (now : Int)
    (filters : BusinessContactFilters) : Prop where
  lists : ∃ listed, Listed rules table now filters listed ∧
    (∃ pages, Paging.Lists (listBusinessContacts rules table now filters) none pages none ∧
      pages.flatten = listed.map table.row) ∧
    ∀ limit, (exportBusinessContacts rules table now filters limit).rows <+:
      listed.map table.exportRow
  counts : ∃ listed, Listed rules table now filters.withoutStatus listed ∧
    ∀ status, (businessContactCounts rules table now filters.withoutStatus).byStatus status =
      listed.countP (·.status == status)

/-- The review filter is not set, or every contact that its query would take passes the
lifecycle filter and has no note from the cutoff on. -/
def ReviewQueryExact (rules : TextRules) (table : ContactTable) (now : Int)
    (filters : BusinessContactFilters) : Prop :=
  filters.needsReview = true → ∀ contact ∈ table.contacts,
    filters.sourceKeeps contact = true → filters.searchKeeps rules contact = true →
    contact.lifecycleState ≠ .anonymized → contact.receivedAt < filters.cutoff now →
    contact.updatedAt < filters.cutoff now →
    filters.lifecycleKeeps contact = true ∧
      ∀ note ∈ table.notes, note.contactId = contact.id → note.createdAt < filters.cutoff now

variable {rules : TextRules} {table : ContactTable} {now : Int} {filters : BusinessContactFilters}
  {contact : BusinessContact}

theorem lifecycleWhere_holds (filters : BusinessContactFilters) (contact : BusinessContact) :
    (lifecycleWhere filters).lifecycleState.all (·.holds contact.lifecycleState) =
      filters.lifecycleKeeps contact := by
  unfold lifecycleWhere BusinessContactFilters.lifecycleKeeps
  cases filters.lifecycle with
  | some state => rfl
  | none => cases contact.lifecycleState <;> rfl

theorem contactReviewCutoff_getD (days : Option ℚ) (now : Int) :
    contactReviewCutoff (some (days.getD contactReviewDefaultDays)) now =
      contactReviewCutoff days now := by
  cases days with
  | some days => rfl
  | none =>
    have default : normalizeReviewThresholdDays (some (contactReviewDefaultDays : ℚ)) =
        contactReviewDefaultDays := by decide +kernel
    simp only [Option.getD_none, contactReviewCutoff, default]
    rfl

theorem spread_holds (status : Option BusinessContactStatus)
    (sourcePlatform : Option BusinessContactSource) (anyOf : Option (List ContactCondition))
    (allOf : Option (List (List ContactCondition))) (filters : BusinessContactFilters) (now : Int)
    (contact : BusinessContact) :
    (((({ status := status, sourcePlatform := sourcePlatform } : ContactWhere).spread
      (lifecycleWhere filters)).spread (reviewWhere filters now)).spread
      { anyOf := anyOf, allOf := allOf }).holds rules contact =
      (status.all (contact.status == ·) && sourcePlatform.all (contact.sourcePlatform == ·) &&
        filters.stateKeeps now contact && anyOf.all (·.any (·.holds rules contact)) &&
        allOf.all (·.all (·.any (·.holds rules contact)))) := by
  unfold BusinessContactFilters.stateKeeps
  cases review : filters.needsReview with
  | true =>
    have clauses : (((({ status := status, sourcePlatform := sourcePlatform } : ContactWhere).spread
        (lifecycleWhere filters)).spread (reviewWhere filters now)).spread
        { anyOf := anyOf, allOf := allOf }) =
        { status := status, sourcePlatform := sourcePlatform
          lifecycleState := some (.not .anonymized)
          receivedAtLt := some (filters.cutoff now), updatedAtLt := some (filters.cutoff now)
          anyOf := anyOf, allOf := allOf } := by
      rw [reviewWhere, if_pos review, contactReviewCutoff_getD]
      cases chosen : filters.lifecycle <;>
        simp [lifecycleWhere, chosen, ContactWhere.spread, BusinessContactFilters.cutoff]
    rw [clauses, if_pos rfl]
    simp only [ContactWhere.holds, Option.all_some, LifecycleClause.holds, Bool.and_assoc]
  | false =>
    have clauses : (((({ status := status, sourcePlatform := sourcePlatform } : ContactWhere).spread
        (lifecycleWhere filters)).spread (reviewWhere filters now)).spread
        { anyOf := anyOf, allOf := allOf }) =
        { status := status, sourcePlatform := sourcePlatform
          lifecycleState := (lifecycleWhere filters).lifecycleState
          anyOf := anyOf, allOf := allOf } := by
      cases chosen : filters.lifecycle <;>
        simp [reviewWhere, review, lifecycleWhere, chosen, ContactWhere.spread]
    rw [clauses, if_neg Bool.false_ne_true, ← lifecycleWhere_holds]
    simp only [ContactWhere.holds, Option.all_none, Bool.and_true]

theorem all_map_searchWhere (rules : TextRules) (filters : BusinessContactFilters)
    (contact : BusinessContact) :
    (filters.term?.map searchWhere).all (·.any (·.holds rules contact)) =
      filters.searchKeeps rules contact := by
  unfold BusinessContactFilters.searchKeeps
  cases filters.term? <;> rfl

theorem exportWhere_holds (filters : BusinessContactFilters) (now : Int)
    (contact : BusinessContact) :
    (exportWhere filters now).holds rules contact = filters.queryKeeps rules now contact := by
  rw [exportWhere, spread_holds, BusinessContactFilters.queryKeeps, ← all_map_searchWhere]
  cases filters.term? <;>
    simp [BusinessContactFilters.statusKeeps, BusinessContactFilters.sourceKeeps]

theorem countsWhere_holds (filters : BusinessContactFilters) (now : Int)
    (contact : BusinessContact) :
    (countsWhere filters now).holds rules contact =
      filters.withoutStatus.queryKeeps rules now contact := by
  have searched := all_map_searchWhere rules filters contact
  rw [countsWhere, spread_holds, searched]
  simp only [Option.all_none, Bool.true_and, Bool.and_true]
  rfl

def isAfter (rules : TextRules) (key : Option (Int × String)) (contact : BusinessContact) : Bool :=
  key.all fun key => rules.listOrder.precedes key (sortKey contact)

theorem listWhere_holds (filters : BusinessContactFilters) (key : Option (Int × String))
    (now : Int) (contact : BusinessContact) :
    (listWhere filters key now).holds rules contact =
      (filters.queryKeeps rules now contact && isAfter rules key contact) := by
  have searched := all_map_searchWhere rules filters contact
  rw [listWhere, spread_holds, BusinessContactFilters.queryKeeps, ← searched]
  have after (time : Int) (id : String) :
      ([ContactCondition.receivedBefore time, .receivedAtIdBefore time id].any
        (·.holds rules contact)) = isAfter rules (some (time, id)) contact := by
    simp [ContactCondition.holds, isAfter, TextRules.listOrder, KeyOrder.descending, sortKey]
  cases filters.term? with
  | none =>
    cases key with
    | none => simp [isAfter, BusinessContactFilters.statusKeeps, BusinessContactFilters.sourceKeeps]
    | some key =>
      simp [← after, BusinessContactFilters.statusKeeps, BusinessContactFilters.sourceKeeps]
  | some term =>
    cases key with
    | none => simp [isAfter, BusinessContactFilters.statusKeeps, BusinessContactFilters.sourceKeeps]
    | some key =>
      simp [← after, BusinessContactFilters.statusKeeps, BusinessContactFilters.sourceKeeps,
        Bool.and_assoc]

theorem encodeCursor_ne_empty (receivedAt : Int) (id : String) : encodeCursor receivedAt id ≠ "" := by
  intro empty
  have chars : Base64.encode ((toString receivedAt).toList ++ ':' :: id.toList) = [] := by
    simpa [encodeCursor] using congrArg String.toList empty
  exact Base64.encode_ne_nil (by simp) chars

theorem ne_colon_of_printed {char : Char} (printed : char.isDigit = true ∨ char = '-') :
    (char == ':') = false := by
  rcases printed with digit | rfl
  · exact NumericLiteral.beq_of_isDigit digit rfl
  · rfl

theorem ne_colon_of_isIdChar {char : Char} (allowed : isIdChar char = true) :
    (char == ':') = false := by
  rw [beq_eq_false_iff_ne]
  rintro rfl
  cases allowed

theorem isFinite_of_dated {time : Int} (dated : |time| ≤ maxTime) :
    NumericLiteral.isFinite (time : ℚ) = true := by
  have range : |(time : ℚ)| ≤ (maxTime : ℚ) := by exact_mod_cast dated
  have limit : (maxTime : ℚ) < 2 ^ 1024 - 2 ^ 970 := by decide +kernel
  exact decide_eq_true (lt_of_le_of_lt range limit)

theorem dateOf_intCast {time : Int} (dated : |time| ≤ maxTime) : dateOf time = some time := by
  have range : |(time : ℚ)| ≤ (maxTime : ℚ) := by exact_mod_cast dated
  have kept : NumericLiteral.toDouble time = time :=
    NumericLiteral.toDouble_intCast (lt_of_le_of_lt dated (by decide))
  simp [dateOf, kept, range, truncate]

theorem decodeCursor_encodeCursor {receivedAt : Int} {id : String} (dated : |receivedAt| ≤ maxTime)
    (alphanumeric : IsAlphanumericId id) :
    decodeCursor (some (encodeCursor receivedAt id)) = some ⟨some receivedAt, id⟩ := by
  have printed : ∀ char ∈ (toString receivedAt).toList, (char == ':') = false :=
    fun char member => ne_colon_of_printed (NumericLiteral.mem_toString member)
  have named : ∀ char ∈ id.toList, (char == ':') = false := fun char member =>
    ne_colon_of_isIdChar (List.all_eq_true.mp alphanumeric.2 char member)
  have given : (some (encodeCursor receivedAt id)).filter (· ≠ "") =
      some (encodeCursor receivedAt id) := by
    simp [Option.filter_some, encodeCursor_ne_empty]
  have decoded : Base64.decode (encodeCursor receivedAt id).toList =
      (toString receivedAt).toList ++ ':' :: id.toList := by
    simp [encodeCursor]
  have parts := NumericLiteral.cut_append id.toList printed (beq_self_eq_true ':')
  simp only [decodeCursor, given, decoded, parts,
    NumericLiteral.number?_toString (isFinite_of_dated dated), Option.map_some,
    NumericLiteral.cut_of_clean named, String.ofList_toList, alphanumeric, if_true,
    dateOf_intCast dated]

def queried (rules : TextRules) (table : ContactTable) (now : Int)
    (filters : BusinessContactFilters) : List BusinessContact :=
  Keyset.sorted rules.listOrder sortKey (table.contacts.filter (filters.queryKeeps rules now))

def cursorOf (key : Int × String) : String := encodeCursor key.1 key.2

theorem nodup_sortKeys (table : ContactTable) : (table.contacts.map sortKey).Nodup := by
  refine List.Nodup.of_map Prod.snd ?_
  rw [List.map_map]
  exact table.distinct

theorem mem_contacts_of_queried (member : contact ∈ queried rules table now filters) :
    contact ∈ table.contacts :=
  (List.mem_filter.mp ((Keyset.perm_sorted _).mem_iff.mp member)).1

theorem ascending_queried :
    Keyset.Ascending rules.listOrder sortKey (queried rules table now filters) :=
  Keyset.ascending_sorted (Keyset.nodup_filter_keys (nodup_sortKeys table) _)

theorem findMany_list (key : Option (Int × String)) :
    table.findMany rules (listWhere filters key now) =
      (queried rules table now filters).filter (isAfter rules key) := by
  have both : (table.contacts.filter fun contact =>
      (listWhere filters key now).holds rules contact) =
      (table.contacts.filter (filters.queryKeeps rules now)).filter (isAfter rules key) := by
    rw [List.filter_filter]
    refine List.filter_congr fun contact _ => ?_
    rw [listWhere_holds, Bool.and_comm]
  rw [ContactTable.findMany, both, queried,
    Keyset.sorted_filter (Keyset.nodup_filter_keys (nodup_sortKeys table) _)]

theorem findMany_export :
    table.findMany rules (exportWhere filters now) = queried rules table now filters := by
  simp only [ContactTable.findMany, exportWhere_holds]
  rfl

theorem listBusinessContacts_eq {cursor : Option String} {key : Option (Int × String)}
    (decoded : decodeCursor cursor = key.map fun key => ⟨some key.1, key.2⟩) :
    listBusinessContacts rules table now filters cursor =
      .ok (Keyset.page sortKey pageSize table.row cursorOf
        ((queried rules table now filters).filter (isAfter rules key))) := by
  have taken (found : List BusinessContact) :
      (found.take (pageSize + 1)).take pageSize = found.take pageSize := by
    rw [List.take_take, min_eq_left (Nat.le_succ _)]
  have more (found : List BusinessContact) :
      pageSize < (found.take (pageSize + 1)).length ↔ pageSize < found.length := by
    rw [List.length_take]
    omega
  have served (found : List BusinessContact) :
      (if pageSize < found.length then (found.take pageSize).getLast? else none).map
          (fun contact => encodeCursor contact.receivedAt contact.id) =
        (Keyset.page sortKey pageSize table.row cursorOf found).nextCursor := by
    simp only [Keyset.page]
    split <;> rfl
  cases key with
  | none =>
    rw [Option.map_none] at decoded
    simp only [listBusinessContacts, decoded, findMany_list, taken, more, served]
    rfl
  | some key =>
    rw [Option.map_some] at decoded
    simp only [listBusinessContacts, decoded, findMany_list, taken, more, served]
    rfl

theorem lists_queried :
    ∃ pages, Paging.Lists (listBusinessContacts rules table now filters) none pages none ∧
      pages.flatten = (queried rules table now filters).map table.row := by
  have first : listBusinessContacts rules table now filters none =
      .ok (Keyset.page sortKey pageSize table.row cursorOf (queried rules table now filters)) := by
    have undecoded : decodeCursor none =
        (none : Option (Int × String)).map fun key => ⟨some key.1, key.2⟩ := rfl
    rw [listBusinessContacts_eq undecoded]
    congr 2
    exact List.filter_eq_self.mpr fun _ _ => rfl
  refine Keyset.lists_all ascending_queried (by decide) (fun contact _ => encodeCursor_ne_empty _ _)
    first fun contact member => ?_
  have listed := mem_contacts_of_queried member
  have decoded : decodeCursor (some (cursorOf (sortKey contact))) =
      (some (sortKey contact)).map fun key => ⟨some key.1, key.2⟩ :=
    decodeCursor_encodeCursor (table.dated contact listed) (table.alphanumeric contact listed)
  exact listBusinessContacts_eq decoded

theorem exportBusinessContacts_rows (limit : Int) :
    (exportBusinessContacts rules table now filters limit).rows =
      ((queried rules table now filters).take (max 1 (min limit contactExportMaxRows)).toNat).map
        table.exportRow := by
  simp only [exportBusinessContacts, findMany_export, decide_eq_true_eq]
  split
  next limited => rw [List.take_take, min_eq_left (Nat.le_succ _)]
  next whole =>
    rw [List.length_take] at whole
    rw [List.take_of_length_le (by omega), List.take_of_length_le (by omega)]

theorem lookup_groupCounts (statuses : List BusinessContactStatus)
    (status : BusinessContactStatus) :
    ((groupCounts statuses).lookup status).getD 0 = statuses.count status := by
  have look (groups : List BusinessContactStatus) :
      (groups.map fun status => (status, statuses.count status)).lookup status =
        if status ∈ groups then some (statuses.count status) else none := by
    induction groups with
    | nil => rfl
    | cons group groups ih =>
      rw [List.map_cons, List.lookup_cons]
      by_cases same : status = group
      · simp [same]
      · simp [same, ih, beq_eq_false_iff_ne.mpr same]
  rw [groupCounts, look]
  simp only [List.mem_dedup]
  split
  next => rfl
  next absent => rw [Option.getD_none, List.count_eq_zero_of_not_mem absent]

theorem businessContactCounts_byStatus (status : BusinessContactStatus) :
    (businessContactCounts rules table now filters).byStatus status =
      (table.contacts.filter (filters.withoutStatus.queryKeeps rules now)).countP
        (·.status == status) := by
  simp only [businessContactCounts, lookup_groupCounts, countsWhere_holds, List.count,
    List.countP_map]
  rfl

/-! The queries against what the filter asks for. -/

theorem laterActivity_lt_iff {updatedAt bound : Int} (notes : List Int) :
    laterActivity updatedAt notes.max? < bound ↔
      updatedAt < bound ∧ ∀ note ∈ notes, note < bound := by
  unfold laterActivity
  cases newest : notes.max? with
  | none => simp [List.max?_eq_none_iff.mp newest]
  | some note =>
    obtain ⟨member, largest⟩ := List.max?_eq_some_iff.mp newest
    dsimp only
    split
    next later =>
      constructor
      · intro below
        exact ⟨by omega, fun other otherMember => lt_of_le_of_lt (largest other otherMember) below⟩
      · rintro ⟨-, below⟩
        exact below note member
    next earlier =>
      constructor
      · intro below
        refine ⟨below, fun other otherMember => ?_⟩
        have := largest other otherMember
        omega
      · rintro ⟨below, -⟩
        exact below

theorem latestActivityAt_lt_iff {bound : Int} :
    (table.row contact).latestActivityAt < bound ↔
      contact.updatedAt < bound ∧
        ∀ note ∈ table.notes, note.contactId = contact.id → note.createdAt < bound := by
  rw [show (table.row contact).latestActivityAt =
    laterActivity contact.updatedAt (table.latestNoteAt contact.id) from rfl,
    ContactTable.latestNoteAt, laterActivity_lt_iff]
  simp only [List.forall_mem_map, List.mem_filter, beq_iff_eq, and_imp]

/-- What the query for a set review filter asks for, apart from the status. -/
def ReviewQueryTakes (rules : TextRules) (now : Int) (filters : BusinessContactFilters)
    (contact : BusinessContact) : Prop :=
  filters.sourceKeeps contact = true ∧ filters.searchKeeps rules contact = true ∧
    contact.lifecycleState ≠ .anonymized ∧ contact.receivedAt < filters.cutoff now ∧
    contact.updatedAt < filters.cutoff now

section

variable (review : filters.needsReview = true)
include review

theorem reviewKeeps_iff :
    filters.reviewKeeps table now contact = true ↔
      contact.lifecycleState ≠ .anonymized ∧ contact.receivedAt < filters.cutoff now ∧
        contact.updatedAt < filters.cutoff now ∧
        ∀ note ∈ table.notes, note.contactId = contact.id →
          note.createdAt < filters.cutoff now := by
  rw [BusinessContactFilters.reviewKeeps, review, Bool.not_true, Bool.false_or,
    contactNeedsPrivacyReview_iff, latestActivityAt_lt_iff]
  rfl

theorem queryKeeps_iff :
    filters.queryKeeps rules now contact = true ↔
      filters.statusKeeps contact = true ∧ ReviewQueryTakes rules now filters contact := by
  simp only [BusinessContactFilters.queryKeeps, BusinessContactFilters.stateKeeps, review, if_true,
    Bool.and_eq_true, decide_eq_true_eq, bne_iff_ne, ReviewQueryTakes]
  tauto

theorem keeps_iff :
    filters.keeps rules table now contact = true ↔
      filters.queryKeeps rules now contact = true ∧ filters.lifecycleKeeps contact = true ∧
        ∀ note ∈ table.notes, note.contactId = contact.id →
          note.createdAt < filters.cutoff now := by
  rw [queryKeeps_iff review]
  simp only [BusinessContactFilters.keeps, Bool.and_eq_true, reviewKeeps_iff review,
    ReviewQueryTakes]
  tauto

end

theorem keeps_eq_queryKeeps (unset : filters.needsReview = false) :
    filters.keeps rules table now = filters.queryKeeps rules now := by
  funext contact
  simp [BusinessContactFilters.keeps, BusinessContactFilters.queryKeeps,
    BusinessContactFilters.stateKeeps, BusinessContactFilters.reviewKeeps, unset]

theorem filter_keeps (exactly : ReviewQueryExact rules table now filters) :
    table.contacts.filter (filters.keeps rules table now) =
      table.contacts.filter (filters.queryKeeps rules now) := by
  cases review : filters.needsReview with
  | false => rw [keeps_eq_queryKeeps review]
  | true =>
    refine List.filter_congr fun contact member => Bool.eq_iff_iff.mpr ?_
    rw [keeps_iff review]
    constructor
    · exact And.left
    · intro queried
      obtain ⟨-, source, searched, identified, received, updated⟩ :=
        (queryKeeps_iff review).mp queried
      exact ⟨queried, exactly review contact member source searched identified received updated⟩

theorem listed_queried (exactly : ReviewQueryExact rules table now filters) :
    Listed rules table now filters (queried rules table now filters) where
  selects := by
    rw [filter_keeps exactly]
    exact Keyset.perm_sorted _
  ordered := ascending_queried

/-- A filter that selects no fewer rows of a list than another one, which it implies,
selects the same ones. -/
theorem eq_of_countP_eq {α : Type} {rows : List α} {narrow wide : α → Bool}
    (implies : ∀ row ∈ rows, narrow row = true → wide row = true)
    (same : rows.countP wide = rows.countP narrow) :
    ∀ row ∈ rows, wide row = true → narrow row = true := by
  induction rows with
  | nil => simp
  | cons head rows ih =>
    have fewer : rows.countP narrow ≤ rows.countP wide :=
      List.countP_mono_left fun row member => implies row (List.mem_cons_of_mem _ member)
    have here := implies head List.mem_cons_self
    rw [List.countP_cons, List.countP_cons] at same
    have rest : rows.countP wide = rows.countP narrow := by
      split at same <;> split at same <;> first | omega | simp_all
    have atHead : wide head = true → narrow head = true := by
      intro taken
      by_contra left
      rw [if_pos taken, if_neg left] at same
      omega
    intro row member
    rcases List.mem_cons.mp member with rfl | later
    · exact atHead
    · exact ih (fun row member => implies row (List.mem_cons_of_mem _ member)) rest row later

theorem reviewQueryExact_of_counts {listed : List BusinessContact}
    (selected : Listed rules table now filters.withoutStatus listed)
    (counted : ∀ status,
      (businessContactCounts rules table now filters.withoutStatus).byStatus status =
        listed.countP (·.status == status)) :
    ReviewQueryExact rules table now filters := by
  intro review contact member source searched identified received updated
  have reviewed : filters.withoutStatus.needsReview = true := review
  have same := counted contact.status
  rw [businessContactCounts_byStatus, selected.selects.countP_eq, List.countP_filter,
    List.countP_filter] at same
  have wide : (contact.status == contact.status &&
      filters.withoutStatus.queryKeeps rules now contact) = true := by
    rw [beq_self_eq_true, Bool.true_and]
    exact (queryKeeps_iff reviewed).mpr ⟨rfl, source, searched, identified, received, updated⟩
  have narrow := eq_of_countP_eq (fun row _ kept => by
    rw [Bool.and_eq_true] at kept ⊢
    exact ⟨kept.1, ((keeps_iff reviewed).mp kept.2).1⟩) same contact member wide
  rw [Bool.and_eq_true] at narrow
  exact ((keeps_iff reviewed).mp narrow.2).2

/-- List, counts and export agree for a filter exactly if it does not ask for a review or
its review query is exact. -/
theorem listingAgrees_iff_reviewQueryExact (rules : TextRules) (table : ContactTable) (now : Int)
    (filters : BusinessContactFilters) :
    ListingAgrees rules table now filters ↔ ReviewQueryExact rules table now filters := by
  constructor
  · intro agrees
    obtain ⟨listed, selected, counted⟩ := agrees.counts
    exact reviewQueryExact_of_counts selected counted
  · intro exactly
    have exactly' : ReviewQueryExact rules table now filters.withoutStatus := exactly
    refine ⟨⟨_, listed_queried exactly, lists_queried, fun limit => ?_⟩,
      ⟨_, listed_queried exactly', fun status => ?_⟩⟩
    · rw [exportBusinessContacts_rows]
      exact (List.take_prefix _ _).map _
    · rw [businessContactCounts_byStatus]
      exact ((Keyset.perm_sorted _).countP_eq _).symm

/-! An archived contact that is due for a review. -/

/-- Ids in the order of their characters, and a search without folding of cases. -/
def plainTextRules : TextRules where
  idOrder :=
    { precedes := fun first second => decide (first < second)
      irrefl := fun _ => decide_eq_false (lt_irrefl _)
      trans := fun before after =>
        decide_eq_true (lt_trans (of_decide_eq_true before) (of_decide_eq_true after))
      total := fun different =>
        (lt_or_gt_of_ne different).imp (fun less => decide_eq_true less) fun less =>
          decide_eq_true less }
  containsInsensitive text part := Text.includes text.toList part.toList

def archivedContact : BusinessContact where
  id := "c1"
  connectionId := none
  provider := .metaPlatforms
  sourcePlatform := .facebook
  externalLeadId := none
  dedupeKey := "k"
  fullName := some "Ada"
  email := none
  phone := none
  company := none
  messageSummary := none
  campaignId := none
  campaignName := none
  adId := none
  adName := none
  formId := none
  formName := none
  receivedAt := 0
  status := .new
  lifecycleState := .archived
  anonymizedAt := none
  anonymizationReason := none
  assignedUserId := none
  consentValue := none
  consentReference := none
  consentVersion := none
  createdAt := 0
  updatedAt := 0

def archivedTable : ContactTable where
  contacts := [archivedContact]
  notes := []
  memberships := []
  distinct := by decide
  alphanumeric := by decide
  dated := by decide

def reviewFilter : BusinessContactFilters where
  status := none
  sourcePlatform := none
  search := none
  lifecycle := none
  needsReview := true
  reviewThresholdDays := none

/-- The default list is of active contacts, and the review filter puts an archived one
into it. -/
theorem not_listingAgrees_of_archived :
    ¬ListingAgrees plainTextRules archivedTable 100000000000 reviewFilter := by
  intro agrees
  obtain ⟨listed, selected, counted⟩ := agrees.counts
  have exactly := reviewQueryExact_of_counts selected counted
  have kept := exactly rfl archivedContact List.mem_cons_self rfl rfl (by decide)
    (by decide +kernel) (by decide +kernel)
  exact absurd kept.1 (by decide)

end Tamanor.Db
