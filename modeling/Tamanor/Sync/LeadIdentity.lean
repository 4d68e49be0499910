import Tamanor.Library.NumericLiteral
import Tamanor.Sync.MetaLeadsProperties

/-! When two leads are told apart by their dedupe seeds (`businessContactDedupeSeed`), and so by
the contacts that `ingestBusinessContact` creates. -/

set_option autoImplicit false

namespace Tamanor.Sync

open Tamanor.Core Db Library

/-- Both have a lead id and it is the same one, or neither has one and form and content agree. -/
def SameLead (first second : BusinessContactInput) : Prop :=
  first.provider = second.provider ∧ first.sourcePlatform = second.sourcePlatform ∧
    (trimmed first.externalLeadId ≠ "" ∧ trimmed second.externalLeadId ≠ "" ∧
        trimmed first.externalLeadId = trimmed second.externalLeadId ∨
      trimmed first.externalLeadId = "" ∧ trimmed second.externalLeadId = "" ∧
        trimmed first.formId = trimmed second.formId ∧
        trimmed first.contentFingerprint = trimmed second.contentFingerprint)

variable (lead : BusinessContactInput)

def compositeIdentity : String :=
  "noid:" ++ trimmed lead.formId ++ ":" ++ trimmed lead.contentFingerprint

/-- A lead whose id is the text that stands for another one without an id. -/
def Imitates (lead other : BusinessContactInput) : Prop :=
  trimmed other.externalLeadId = "" ∧ trimmed lead.externalLeadId = compositeIdentity other

/-- Two leads without ids, where the form id of one goes on with a colon into what begins the
content of the other. -/
def ShiftsColon (lead other : BusinessContactInput) : Prop :=
  trimmed lead.externalLeadId = "" ∧ trimmed other.externalLeadId = "" ∧
    ∃ shifted : String, trimmed other.formId = trimmed lead.formId ++ ":" ++ shifted ∧
      trimmed lead.contentFingerprint = shifted ++ ":" ++ trimmed other.contentFingerprint

def ToldApart (first second : BusinessContactInput) : Prop :=
  first.provider = second.provider → first.sourcePlatform = second.sourcePlatform →
    ¬ Imitates first second ∧ ¬ Imitates second first ∧
      ¬ ShiftsColon first second ∧ ¬ ShiftsColon second first

theorem businessProvider_value_injective : Function.Injective BusinessProvider.value := by
  intro first second same
  cases first <;> cases second <;> first | rfl | exact absurd same (by decide)

theorem businessContactSource_value_injective : Function.Injective BusinessContactSource.value := by
  intro first second same
  cases first <;> cases second <;> first | rfl | exact absurd same (by decide)

theorem bar_inj {left right left' right' : String} (clean : '|' ∉ left.toList)
    (clean' : '|' ∉ left'.toList) (same : left ++ "|" ++ right = left' ++ "|" ++ right') :
    left = left' ∧ right = right' := by
  have lists := congrArg String.toList same
  have bar : "|".toList = ['|'] := rfl
  simp only [String.toList_append, List.append_assoc, bar, List.singleton_append] at lists
  have cut (text rest : Text) (noBar : '|' ∉ text) :
      NumericLiteral.cut (· == '|') (text ++ '|' :: rest) = (text, some rest) :=
    NumericLiteral.cut_append rest
      (fun char member => by simpa using fun (isBar : char = '|') => noBar (isBar ▸ member)) rfl
  have cuts := congrArg (NumericLiteral.cut (· == '|')) lists
  rw [cut _ _ clean, cut _ _ clean'] at cuts
  simpa [String.toList_inj] using cuts

def seedIdentity : String :=
  if trimmed lead.externalLeadId = "" then compositeIdentity lead
  else trimmed lead.externalLeadId

theorem dedupeSeed_eq_iff (first second : BusinessContactInput) :
    first.dedupeSeed = second.dedupeSeed ↔
      first.provider = second.provider ∧ first.sourcePlatform = second.sourcePlatform ∧
        seedIdentity first = seedIdentity second := by
  have provider (value : BusinessProvider) : '|' ∉ value.value.toList := by
    cases value <;> decide
  have source (value : BusinessContactSource) : '|' ∉ value.value.toList := by
    cases value <;> decide
  have shape (lead : BusinessContactInput) : lead.dedupeSeed =
      lead.provider.value ++ "|" ++ (lead.sourcePlatform.value ++ "|" ++ seedIdentity lead) := by
    simp only [BusinessContactInput.dedupeSeed, businessContactDedupeSeed, seedIdentity,
      compositeIdentity, String.append_assoc]
  rw [shape, shape]
  constructor
  · intro same
    obtain ⟨providers, rest⟩ := bar_inj (provider _) (provider _) same
    obtain ⟨sources, identities⟩ := bar_inj (source _) (source _) rest
    exact ⟨businessProvider_value_injective providers,
      businessContactSource_value_injective sources, identities⟩
  · rintro ⟨providers, sources, identities⟩
    rw [providers, sources, identities]

theorem append_separator_eq_iff {separator : Char} {left right left' right' : Text} :
    left ++ separator :: right = left' ++ separator :: right' ↔
      left = left' ∧ right = right' ∨
        (∃ shifted, left' = left ++ separator :: shifted ∧ right = shifted ++ separator :: right') ∨
        ∃ shifted, left = left' ++ separator :: shifted ∧
          right' = shifted ++ separator :: right := by
  constructor
  · intro same
    rcases List.append_eq_append_iff.mp same with ⟨middle, rfl, rest⟩ | ⟨middle, rfl, rest⟩
    · cases middle with
      | nil => exact .inl ⟨by simp, (List.cons.inj rest).2⟩
      | cons first shifted =>
        obtain ⟨rfl, tail⟩ := List.cons.inj rest
        exact .inr (.inl ⟨shifted, rfl, tail⟩)
    · cases middle with
      | nil => exact .inl ⟨by simp, (List.cons.inj rest).2.symm⟩
      | cons first shifted =>
        obtain ⟨rfl, tail⟩ := List.cons.inj rest
        exact .inr (.inr ⟨shifted, rfl, tail⟩)
  · rintro (⟨rfl, rfl⟩ | ⟨shifted, rfl, rfl⟩ | ⟨shifted, rfl, rfl⟩) <;> simp

theorem toList_colon (left right : String) :
    (left ++ ":" ++ right).toList = left.toList ++ ':' :: right.toList := by
  simp [String.toList_append]

theorem exists_colon_iff {whole start rest tail : String} :
    (∃ shifted : Text, whole.toList = start.toList ++ ':' :: shifted ∧
        rest.toList = shifted ++ ':' :: tail.toList) ↔
      ∃ shifted : String, whole = start ++ ":" ++ shifted ∧ rest = shifted ++ ":" ++ tail := by
  constructor
  · rintro ⟨shifted, front, back⟩
    exact ⟨String.ofList shifted, String.toList_inj.mp (by simpa using front),
      String.toList_inj.mp (by simpa using back)⟩
  · rintro ⟨shifted, rfl, rfl⟩
    exact ⟨shifted.toList, toList_colon _ _, toList_colon _ _⟩

theorem colon_eq_iff {form content form' content' : String} :
    form ++ ":" ++ content = form' ++ ":" ++ content' ↔
      form = form' ∧ content = content' ∨
        (∃ shifted, form' = form ++ ":" ++ shifted ∧ content = shifted ++ ":" ++ content') ∨
        ∃ shifted, form = form' ++ ":" ++ shifted ∧ content' = shifted ++ ":" ++ content := by
  rw [← String.toList_inj, toList_colon, toList_colon, append_separator_eq_iff, exists_colon_iff,
    exists_colon_iff, String.toList_inj, String.toList_inj]

theorem form_ne_of_shift {form form' shifted : String} (shift : form' = form ++ ":" ++ shifted) :
    form ≠ form' := by
  intro same
  have lengths := congrArg (fun text => text.toList.length) (same.trans shift)
  simp at lengths

theorem compositeIdentity_eq_iff {first second : BusinessContactInput} :
    compositeIdentity first = compositeIdentity second ↔
      trimmed first.formId ++ ":" ++ trimmed first.contentFingerprint =
        trimmed second.formId ++ ":" ++ trimmed second.contentFingerprint := by
  simp [compositeIdentity, String.append_assoc, String.append_right_inj]

theorem compositeIdentity_ne_empty : compositeIdentity lead ≠ "" := by
  intro empty
  have lengths := congrArg (fun text => text.toList.length) empty
  simp [compositeIdentity] at lengths

theorem dedupeSeed_exact_iff (first second : BusinessContactInput) :
    (first.dedupeSeed = second.dedupeSeed ↔ SameLead first second) ↔ ToldApart first second := by
  rw [dedupeSeed_eq_iff]
  by_cases providers : first.provider = second.provider
  · by_cases sources : first.sourcePlatform = second.sourcePlatform
    · by_cases missing : trimmed first.externalLeadId = "" <;>
        by_cases otherMissing : trimmed second.externalLeadId = ""
      · -- Neither has an id.
        simp only [seedIdentity, missing, otherMissing, if_true, compositeIdentity_eq_iff,
          colon_eq_iff, SameLead, ToldApart, Imitates, ShiftsColon, providers, sources]
        have shifts (lead other : BusinessContactInput)
            (shift : ∃ shifted, trimmed other.formId = trimmed lead.formId ++ ":" ++ shifted ∧
              trimmed lead.contentFingerprint =
                shifted ++ ":" ++ trimmed other.contentFingerprint) :
            trimmed lead.formId ≠ trimmed other.formId := by
          obtain ⟨shifted, front, -⟩ := shift
          exact form_ne_of_shift front
        have left := shifts first second
        have right := shifts second first
        have empty := compositeIdentity_ne_empty first
        have otherEmpty := compositeIdentity_ne_empty second
        simp only [true_and, ne_eq, not_true_eq_false, false_and, false_or, forall_const,
          empty.symm, otherEmpty.symm, not_false_eq_true]
        constructor
        · intro exact
          exact ⟨fun shift => left shift (exact.mp (.inr (.inl shift))).1,
            fun shift => right shift (exact.mp (.inr (.inr shift))).1.symm⟩
        · rintro ⟨noShift, noOther⟩
          simp [noShift, noOther]
      · simp [seedIdentity, missing, otherMissing, SameLead, ToldApart, Imitates, ShiftsColon,
          providers, sources]
        exact not_congr eq_comm
      · simp [seedIdentity, missing, otherMissing, SameLead, ToldApart, Imitates, ShiftsColon,
          providers, sources]
      · simp [seedIdentity, missing, otherMissing, SameLead, ToldApart, Imitates, ShiftsColon,
          providers, sources]
    · simp [SameLead, ToldApart, sources]
  · simp [SameLead, ToldApart, providers]

/-! Merging: the second of two leads finds the contact of the first one. -/

variable {runtime : LeadRuntime} {account : MetaLeadAccount} {store : LeadStore}

/-- `second` is ingested right after `first`, and nothing fails. -/
def merges (runtime : LeadRuntime) (account : MetaLeadAccount) (store : LeadStore)
    (calls : (MetaLeadgenChange × LeadOutcomes) × (MetaLeadgenChange × LeadOutcomes))
    (first second : BusinessContactInput) : Bool :=
  let stored := (store.ingestBusinessContact runtime account calls.1.1 calls.1.2 first).1
  match (stored.ingestBusinessContact runtime account calls.2.1 calls.2.2 second).2 with
  | .ok .duplicate => true
  | _ => false

def LeadOutcomes.stores (outcomes : LeadOutcomes) : Prop :=
  outcomes.contact = .ok () ∧ outcomes.record = .ok ()

theorem ingestBusinessContact_stores (runtime : LeadRuntime) (account : MetaLeadAccount)
    (store : LeadStore) (change : MetaLeadgenChange) {outcomes : LeadOutcomes}
    (stores : outcomes.stores) (input : BusinessContactInput) :
    (store.ingestBusinessContact runtime account change outcomes input).1.contacts =
        store.contacts.insert (contactKey runtime account.tenantId input)
          (input.contact runtime.sha256 outcomes.newId outcomes.now) ∧
      (store.ingestBusinessContact runtime account change outcomes input).2 =
        .ok (if (store.contacts.find? (contactKey runtime account.tenantId input)).isNone then
          .ingested else .duplicate) := by
  obtain ⟨contact, record⟩ := stores
  simp [LeadStore.ingestBusinessContact, contact, record, Except.map]

theorem merges_iff {calls : (MetaLeadgenChange × LeadOutcomes) × (MetaLeadgenChange × LeadOutcomes)}
    {first second : BusinessContactInput} (stores : calls.1.2.stores) (otherStores : calls.2.2.stores)
    (fresh : store.contacts.find? (contactKey runtime account.tenantId second) = none) :
    merges runtime account store calls first second = true ↔
      runtime.sha256 first.dedupeSeed = runtime.sha256 second.dedupeSeed := by
  have keys : contactKey runtime account.tenantId second = contactKey runtime account.tenantId first ↔
      runtime.sha256 first.dedupeSeed = runtime.sha256 second.dedupeSeed := by
    simp [contactKey, eq_comm]
  obtain ⟨inserted, -⟩ := ingestBusinessContact_stores runtime account store calls.1.1 stores first
  have answered := (ingestBusinessContact_stores runtime account
    (store.ingestBusinessContact runtime account calls.1.1 calls.1.2 first).1 calls.2.1
    otherStores second).2
  rw [inserted] at answered
  rw [merges, answered, ← keys]
  cases taken : store.contacts.find? (contactKey runtime account.tenantId first) with
  | some found =>
    have different : contactKey runtime account.tenantId second ≠
        contactKey runtime account.tenantId first := by
      intro same
      rw [same, taken] at fresh
      cases fresh
    simp [Table.insert_taken taken, fresh, different]
  | none =>
    by_cases same : contactKey runtime account.tenantId second =
        contactKey runtime account.tenantId first <;>
      simp [Table.find?_insert _ taken, fresh, same]

/-- Seeds, and with a digest that tells the two seeds apart also contacts, are the same just for
the same leads, if and only if the one lead neither imitates the other nor shifts its colon. -/
theorem leadIdentity_exact_iff (runtime : LeadRuntime) (account : MetaLeadAccount)
    (store : LeadStore)
    (calls : (MetaLeadgenChange × LeadOutcomes) × (MetaLeadgenChange × LeadOutcomes))
    (first second : BusinessContactInput)
    (collisionFree : runtime.sha256 first.dedupeSeed = runtime.sha256 second.dedupeSeed →
      first.dedupeSeed = second.dedupeSeed)
    (stores : calls.1.2.stores) (otherStores : calls.2.2.stores)
    (fresh : store.contacts.find? (contactKey runtime account.tenantId second) = none) :
    ((first.dedupeSeed = second.dedupeSeed ↔ SameLead first second) ∧
        (merges runtime account store calls first second = true ↔ SameLead first second)) ↔
      ToldApart first second := by
  have digest : runtime.sha256 first.dedupeSeed = runtime.sha256 second.dedupeSeed ↔
      first.dedupeSeed = second.dedupeSeed := ⟨collisionFree, congrArg _⟩
  rw [merges_iff stores otherStores fresh, digest, dedupeSeed_exact_iff, and_self]

def plainLead (externalLeadId formId contentFingerprint : Option String) :
    BusinessContactInput where
  provider := .metaPlatforms
  sourcePlatform := .facebook
  connectionId := none
  externalLeadId := externalLeadId
  contentFingerprint := contentFingerprint
  fullName := none
  email := none
  phone := none
  company := none
  messageSummary := none
  campaignId := none
  campaignName := none
  adId := none
  adName := none
  formId := formId
  formName := none
  receivedAt := 0
  consentValue := none
  consentReference := none
  consentVersion := none

/-- The digests of the seeds of two leads with the ids `lead-1` and `lead-2`. -/
def twoLeadsRuntime : LeadRuntime where
  sha256 text :=
    if text = "meta|facebook|lead-1" then
      "e5ec021169cb7bc48b84e7875d09f2abc4b69edf1e14b50d0a42b84f1024f25f"
    else "a8b71c00155de6fe3e3c46365f6d1d7d1bf7f20286878ae87198de139c6dc017"
  toLowerCase := id
  parseDate _ := none

def storedOutcomes (newId : String) : LeadOutcomes where
  token := .ok (some "token")
  lead := .error .other
  connection := .ok none
  contact := .ok ()
  record := .ok ()
  handlerRecord := .ok ()
  newId := newId
  now := 0

theorem leadIdentity_exact_lead1 :
    ((plainLead (some "lead-1") none none).dedupeSeed =
          (plainLead (some "lead-2") none none).dedupeSeed ↔
        SameLead (plainLead (some "lead-1") none none) (plainLead (some "lead-2") none none)) ∧
      (merges twoLeadsRuntime ⟨"account", "tenant", "page"⟩ ⟨.empty, []⟩
          ((⟨"page", "lead-1", none, none, none⟩, storedOutcomes "c1"),
            (⟨"page", "lead-2", none, none, none⟩, storedOutcomes "c2"))
          (plainLead (some "lead-1") none none) (plainLead (some "lead-2") none none) = true ↔
        SameLead (plainLead (some "lead-1") none none) (plainLead (some "lead-2") none none)) := by
  refine (leadIdentity_exact_iff _ _ _ _ _ _ ?_ ⟨rfl, rfl⟩ ⟨rfl, rfl⟩ rfl).mpr ?_
  · intro same
    exact absurd same (by decide +kernel)
  · intro _ _
    refine ⟨?_, ?_, ?_, ?_⟩
    · rintro ⟨missing, -⟩
      exact absurd missing (by decide +kernel)
    · rintro ⟨missing, -⟩
      exact absurd missing (by decide +kernel)
    · rintro ⟨missing, -⟩
      exact absurd missing (by decide +kernel)
    · rintro ⟨missing, -⟩
      exact absurd missing (by decide +kernel)

/-- A colon in a form id: two leads with different forms have one seed. -/
theorem not_leadIdentity_of_colon :
    (plainLead none (some "form:1") (some "print")).dedupeSeed =
        (plainLead none (some "form") (some "1:print")).dedupeSeed ∧
      ¬ SameLead (plainLead none (some "form:1") (some "print"))
        (plainLead none (some "form") (some "1:print")) := by
  refine ⟨by decide +kernel, ?_⟩
  rintro ⟨-, -, ⟨present, -⟩ | ⟨-, -, forms, -⟩⟩
  · exact absurd (show trimmed none = "" by decide +kernel) present
  · exact absurd forms (by decide +kernel)

end Tamanor.Sync
