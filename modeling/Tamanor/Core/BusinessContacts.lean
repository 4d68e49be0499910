import Mathlib.Data.Rat.Floor
import Tamanor.Library.Text

/-! Business contacts (`core/src/business-contacts.ts`): statuses, the privacy lifecycle,
notes, search terms and the retention review. -/

set_option autoImplicit false

namespace Tamanor.Core

open Library

inductive BusinessProvider where
  | metaPlatforms | google | tikTok | linkedIn
deriving DecidableEq

def BusinessProvider.value : BusinessProvider → String
  | .metaPlatforms => "meta"
  | .google => "google"
  | .tikTok => "tiktok"
  | .linkedIn => "linkedin"

inductive BusinessContactSource where
  | facebook | instagram | googleAds | youTube | tikTok | linkedIn | webForm
deriving DecidableEq

def BusinessContactSource.value : BusinessContactSource → String
  | .facebook => "facebook"
  | .instagram => "instagram"
  | .googleAds => "google_ads"
  | .youTube => "youtube"
  | .tikTok => "tiktok"
  | .linkedIn => "linkedin"
  | .webForm => "web_form"

inductive BusinessContactStatus where
  | new | contacted | handled | customer | rejected
deriving DecidableEq

inductive BusinessContactLifecycle where
  | active | spam | archived | anonymized
deriving DecidableEq

def contactTransitions : BusinessContactStatus → List BusinessContactStatus
  | .new => [.contacted, .handled, .customer, .rejected]
  | .contacted => [.new, .handled, .customer, .rejected]
  | .handled => [.contacted, .customer, .rejected, .new]
  | .customer => [.handled, .rejected, .contacted]
  | .rejected => [.new, .contacted]

def canTransitionContactStatus (source target : BusinessContactStatus) : Bool :=
  source == target || (contactTransitions source).contains target

def lifecycleTransitions : BusinessContactLifecycle → List BusinessContactLifecycle
  | .active => [.spam, .archived, .anonymized]
  | .spam => [.active, .anonymized]
  | .archived => [.active, .anonymized]
  | .anonymized => []

def canTransitionContactLifecycle (source target : BusinessContactLifecycle) : Bool :=
  source == target || (lifecycleTransitions source).contains target

def defaultHiddenLifecycles : List BusinessContactLifecycle := [.spam, .archived, .anonymized]

inductive ContactAnonymizationReason where
  | userRequest | retentionPolicy | testData | duplicateRecord | otherInternal

/-- The first characters of a text that fit into a number of UTF-16 code units. -/
def sliceUnits : Nat → Text → Text
  | _, [] => []
  | limit, char :: rest =>
    let width := (Text.codeUnits [char]).length
    if width ≤ limit then char :: sliceUnits (limit - width) rest else []

def clamp (value : Option String) (limit : Nat) : Option String :=
  match value with
  | none => none
  | some value =>
    let trimmed := Text.trim value.toList
    if trimmed = [] then none else some (String.ofList (sliceUnits limit trimmed))

/-- `input?.trim()`, with the empty text for a missing one. -/
def trimmed (value : Option String) : String :=
  String.ofList (Text.trim ((value.getD "").toList))

def businessContactDedupeSeed (provider : BusinessProvider) (source : BusinessContactSource)
    (externalLeadId formId contentFingerprint : Option String) : String :=
  let lead := trimmed externalLeadId
  let identity :=
    if lead = "" then "noid:" ++ trimmed formId ++ ":" ++ trimmed contentFingerprint else lead
  provider.value ++ "|" ++ source.value ++ "|" ++ identity

inductive ContactNoteValidation where
  | ok (body : String)
  | empty | tooLong

def contactNoteMaxLength : Nat := 2000

/-- `replace(/\r\n/g, "\n")`. -/
def normalizeNewlines : Text → Text
  | '\r' :: '\n' :: rest => '\n' :: normalizeNewlines rest
  | char :: rest => char :: normalizeNewlines rest
  | [] => []

/-- The control characters other than tab, newline and carriage return. -/
def isStrippedControl (char : Char) : Bool :=
  char.toNat ≤ 0x08 || char.toNat == 0x0B || char.toNat == 0x0C ||
    (0x0E ≤ char.toNat && char.toNat ≤ 0x1F) || char.toNat == 0x7F

def validateContactNoteBody (raw : String) : ContactNoteValidation :=
  let cleaned := Text.trim ((normalizeNewlines raw.toList).filter fun char => !isStrippedControl char)
  if cleaned = [] then .empty
  else if contactNoteMaxLength < (Text.codeUnits cleaned).length then .tooLong
  else .ok (String.ofList cleaned)

def isAsciiDigit (char : Char) : Bool := '0' ≤ char && char ≤ '9'

/-- The digits of a term that is shaped like a phone number: `/^[+\d][\d\s().+-]*$/`. -/
def contactSearchPhoneDigits (term : Text) : Option Text :=
  match term with
  | [] => none
  | first :: rest =>
    if (first == '+' || isAsciiDigit first) &&
        rest.all (fun char =>
          isAsciiDigit char || Text.isSpace char || ['(', ')', '.', '+', '-'].contains char) then
      let digits := term.filter isAsciiDigit
      if 3 ≤ digits.length then some digits else none
    else none

/-! The retention review. A threshold is a number or, where it is missing or not finite, none. -/

def contactReviewMinDays : Int := 30

def contactReviewMaxDays : Int := 3650

def contactReviewDefaultDays : Int := 730

/-- `Math.trunc`. -/
def truncate (number : ℚ) : Int := if 0 ≤ number then ⌊number⌋ else ⌈number⌉

def normalizeReviewThresholdDays : Option ℚ → Int
  | none => contactReviewDefaultDays
  | some days => min contactReviewMaxDays (max contactReviewMinDays (truncate days))

def contactNeedsPrivacyReview (receivedAt : Int) (latestActivityAt : Option Int)
    (lifecycle : BusinessContactLifecycle) (thresholdDays : Option ℚ) (now : Int) : Bool :=
  if lifecycle = .anonymized then false
  else
    let days := normalizeReviewThresholdDays thresholdDays
    let latest :=
      match latestActivityAt with
      | some activity => if receivedAt < activity then activity else receivedAt
      | none => receivedAt
    decide (days * 24 * 60 * 60 * 1000 < now - latest)

def contactReviewCutoff (thresholdDays : Option ℚ) (now : Int) : Int :=
  now - normalizeReviewThresholdDays thresholdDays * 24 * 60 * 60 * 1000

/-- The predicate and the cutoff agree: a contact needs a review if both its dates lie
before the cutoff and it is not anonymized. -/
theorem contactNeedsPrivacyReview_iff {receivedAt activity : Int}
    {lifecycle : BusinessContactLifecycle} {thresholdDays : Option ℚ} {now : Int} :
    contactNeedsPrivacyReview receivedAt (some activity) lifecycle thresholdDays now = true ↔
      lifecycle ≠ .anonymized ∧ receivedAt < contactReviewCutoff thresholdDays now ∧
        activity < contactReviewCutoff thresholdDays now := by
  unfold contactNeedsPrivacyReview contactReviewCutoff
  split
  next anonymized => simp [anonymized]
  next identified =>
    dsimp only
    rw [decide_eq_true_iff]
    split <;> constructor
    · intro late
      exact ⟨identified, by omega, by omega⟩
    · rintro ⟨-, received, active⟩
      omega
    · intro late
      exact ⟨identified, by omega, by omega⟩
    · rintro ⟨-, received, active⟩
      omega

end Tamanor.Core
