import Tamanor.Core.Reputation
import Tamanor.Library.OrderedSet
import Tamanor.Library.Text
import Mathlib.Algebra.Order.Ring.Rat

/-! Evidence spans and the verdict on one category claim (`evidence.ts`). A span
is the stretch of the normalized text that justifies a claim; an accusation
without a validated span is never confirmed. -/

set_option autoImplicit false

namespace Tamanor.Ai

open Tamanor.Core Library Library.Text

structure EvidenceSpan where
  category : String
  term : Text
  start : Nat
  stop : Nat
  text : Text

def evidenceRequiredCategories : List String := [
  "profanity", "hate_speech", "racism", "harassment", "personal_attack",
  "threat", "violence", "terrorism_extremism", "sexual_vulgarity", "scam", "phishing"]

def categoryConfidenceThreshold : List (String × ℚ) := [
  ("profanity", 0.8), ("hate_speech", 0.85), ("racism", 0.85), ("harassment", 0.8),
  ("personal_attack", 0.8), ("threat", 0.85), ("violence", 0.85), ("terrorism_extremism", 0.9),
  ("sexual_vulgarity", 0.85), ("scam", 0.8), ("phishing", 0.8)]

def defaultCategoryThreshold : ℚ := 0.7

def categoryThreshold (category : String) : ℚ :=
  (categoryConfidenceThreshold.lookup category).getD defaultCategoryThreshold

def isLowerAlphanumeric (char : Char) : Bool :=
  ('a' ≤ char && char ≤ 'z') || ('0' ≤ char && char ≤ '9')

/-- `/[a-z0-9*]/`; a missing character is no word character. -/
def isWordChar : Option Char → Bool
  | none => false
  | some char => isLowerAlphanumeric char || char == '*'

def termSuffixes : List Text := [
  "", "s", "es", "y", "ies", "ed", "d", "ing", "er", "ers", "ty",
  "a", "u", "e", "o", "i", "om", "ou", "ov", "ami", "och", "mi", "ach",
  "at", "al", "ala", "ali", "am", "as", "em", "eme", "ete", "aj", "ajte",
  "en", "et", "st", "t", "te", "n", "ne", "ny", "na", "no", "nu", "ka", "ko", "ku"].map
    String.toList

def stemSuffixes : List Text := [
  "", "a", "u", "e", "o", "y", "i", "om", "ou", "ov", "ami", "och", "mi",
  "at", "al", "ala", "ali", "am", "as", "em", "eme", "ete", "aj", "ajte",
  "ovina", "ovinu", "ovine", "ka", "ko", "ku", "ne", "ny", "na", "no", "nut"].map
    String.toList

def safeWords : List Text :=
  ["fickle", "fickles", "scampi", "picnic", "picnics"].map String.toList

/-- A `*` of the text stands for any one character of the term. -/
def maskedPrefix : Text → Text → Bool
  | _, [] => true
  | [], _ :: _ => false
  | char :: text, wanted :: term => (char == wanted || char == '*') && maskedPrefix text term

def tokenMatchesAt (hay term : Text) (index : Nat) : Bool := maskedPrefix (hay.drop index) term

/-- The character before `index`, or nothing at the start of the text. -/
def charBefore (text : Text) : Nat → Option Char
  | 0 => none
  | index + 1 => text[index]?

/-- One iteration of the search loop of `findTermSpans`. -/
def termSpanAt (normalized term : Text) (category : String) (stem : Bool) (index : Nat) :
    Option EvidenceSpan :=
  if !tokenMatchesAt normalized term index then none
  else if isWordChar (charBefore normalized index) then none
  else if term.contains ' ' then
    if isWordChar normalized[index + term.length]? then none
    else some {
      category, term
      start := index
      stop := index + term.length
      text := slice normalized index (index + term.length) }
  else
    let token := (normalized.drop index).takeWhile fun char => isWordChar (some char)
    if !(if stem then stemSuffixes else termSuffixes).contains (token.drop term.length) then none
    else if safeWords.contains token then none
    else some { category, term, start := index, stop := index + token.length, text := token }

def findTermSpans (normalized term : Text) (category : String) (stem : Bool) : List EvidenceSpan :=
  if term.isEmpty || normalized.isEmpty then []
  else (List.range (normalized.length + 1 - term.length)).filterMap
    (termSpanAt normalized term category stem)

def validateEvidenceSpan (normalized : Text) : Option EvidenceSpan → Bool
  | none => false
  | some span =>
    span.stop ≤ normalized.length && span.start < span.stop && !span.text.isEmpty &&
      span.category != "" && slice normalized span.start span.stop == span.text

def validEvidenceForCategory (normalized : Text) (spans : List EvidenceSpan) (category : String) :
    List EvidenceSpan :=
  spans.filter fun span =>
    span.category == category && validateEvidenceSpan normalized (some span)

inductive ScamDimension where
  | cta | urgency | offer | verificationPrompt | credentialRequest | paymentRequest
  | impersonation | prizeClaim | suspiciousLink | investmentPromise
deriving DecidableEq

def harmBearingDimensions : List ScamDimension := [
  .credentialRequest, .paymentRequest, .impersonation, .prizeClaim, .suspiciousLink,
  .investmentPromise]

def scamContextLexicon : List (ScamDimension × List String) := [
  (.cta, [
    "click here", "click the link", "open the link", "follow the link", "tap here", "klikni",
    "kliknite", "klikni sem", "kliknite sem", "otvorte odkaz", "otvor odkaz", "hier klicken",
    "klicken sie hier", "link oeffnen", "kliknij", "kliknij tutaj"]),
  (.urgency, [
    "urgent", "urgently", "immediately", "act now", "right now", "last chance", "expires today",
    "only today", "hurry", "urgentne", "ihned", "okamzite", "posledna sanca", "len dnes",
    "dringend", "sofort", "letzte chance", "nur heute"]),
  (.offer, [
    "special offer", "our offer", "discount", "promo", "sale", "deal", "ponuka", "ponuku",
    "zlava", "akcia", "angebot", "rabatt"]),
  (.verificationPrompt, [
    "verify", "verification", "confirm", "overit", "overte", "bestatigen", "verifizieren"]),
  (.credentialRequest, [
    "password", "passwords", "login details", "login credentials", "credentials",
    "username and password", "one time code", "verification code", "security code", "pin code",
    "otp", "heslo", "hesla", "prihlasovacie udaje", "prihlasovacie meno", "overovaci kod",
    "bezpecnostny kod", "passwort", "zugangsdaten", "anmeldedaten", "sicherheitscode"]),
  (.paymentRequest, [
    "wire transfer", "bank details", "bank account number", "card number", "credit card number",
    "send money", "send payment", "advance payment", "processing fee", "shipping fee", "iban",
    "prevod penazi", "cislo karty", "cislo uctu", "bankove udaje", "poslite peniaze",
    "zaplatte poplatok", "ueberweisung", "kontonummer", "kreditkartennummer", "gebuehr bezahlen"]),
  (.impersonation, [
    "official support", "official support team", "customer service team", "bank support",
    "we are the bank", "security department", "account security team", "oficialna podpora",
    "bankova podpora", "zakaznicka podpora banky", "offizieller support", "sicherheitsabteilung"]),
  (.prizeClaim, [
    "you won", "you have won", "winner", "free iphone", "claim prize", "claim your reward",
    "vyhraj", "vyhrajte", "vyhrali ste", "vyhra", "sutaz", "vyhrajes", "iphone zadarmo",
    "gewinne", "gewinnen sie", "kostenloses iphone", "wygraj", "darmowy iphone", "nyerj",
    "ingyen iphone"]),
  (.suspiciousLink, [
    "bit ly", "tinyurl", "goo gl", "shortened link", "short link", "t me", "wa me"]),
  (.investmentPromise, [
    "invest now", "investment opportunity", "crypto investment", "trading signals",
    "roi guaranteed", "investujte", "investicna prilezitost", "krypto investicia",
    "investieren sie jetzt"])]

inductive ScamContextReason where
  | accusatoryTerm | multiDimensionWithHarm | insufficientContext | noSignal
deriving DecidableEq

structure ScamContextAssessment where
  dimensions : List ScamDimension
  harmDimensions : List ScamDimension
  spans : List EvidenceSpan
  confirms : Bool
  reason : ScamContextReason

def assessScamContext (normalized : Text) (accusatoryHit : Bool) : ScamContextAssessment :=
  let hits := scamContextLexicon.flatMap fun (dimension, terms) =>
    terms.map fun term => (dimension, findTermSpans normalized term.toList "scam" false)
  let fired := hits.filter fun hit => !hit.2.isEmpty
  let dimensions := (OrderedSet.ofList (fired.map Prod.fst)).toList
  let harmDimensions := dimensions.filter fun dimension => harmBearingDimensions.contains dimension
  let spans := fired.flatMap Prod.snd
  if accusatoryHit then
    { dimensions, harmDimensions, spans, confirms := true, reason := .accusatoryTerm }
  else if 2 ≤ dimensions.length ∧ 1 ≤ harmDimensions.length then
    { dimensions, harmDimensions, spans, confirms := true, reason := .multiDimensionWithHarm }
  else
    { dimensions, harmDimensions, spans, confirms := false
      reason := if dimensions.length = 0 then .noSignal else .insufficientContext }

inductive CategoryVerdict where
  | confirmed | reviewRequired | rejected
deriving DecidableEq

def CategoryVerdict.value : CategoryVerdict → String
  | .confirmed => "confirmed"
  | .reviewRequired => "review_required"
  | .rejected => "rejected"

structure CategoryDecisionInput where
  category : String
  validEvidenceCount : Nat
  rulesAgree : Bool
  aiClaimed : Bool
  confidence : ℚ
  parserOk : Bool

structure CategoryDecision where
  category : String
  verdict : CategoryVerdict
  reason : String

def decideCategory (input : CategoryDecisionInput) : CategoryDecision :=
  let category := input.category
  if !evidenceRequiredCategories.contains category then
    { category, verdict := .confirmed, reason := "not_evidence_gated" }
  else if !input.parserOk && !input.rulesAgree then
    { category, verdict := .reviewRequired, reason := "provider_output_ambiguous" }
  else if input.validEvidenceCount = 0 then
    if input.aiClaimed && !input.rulesAgree then
      { category, verdict := .reviewRequired, reason := "ai_claim_without_evidence" }
    else { category, verdict := .rejected, reason := "no_valid_evidence_span" }
  else if input.confidence < categoryThreshold category then
    { category, verdict := .reviewRequired, reason := "below_category_threshold" }
  else { category, verdict := .confirmed, reason := "evidence_validated" }

structure SeverityOutcome where
  level : String
  capped : Bool
  reason : String

def confirmedAccusation (decisions : List CategoryDecision) : Bool :=
  decisions.any fun decision =>
    decision.verdict == .confirmed && evidenceRequiredCategories.contains decision.category

def severityForVerdicts (baseLevel proposedLevel : String) (decisions : List CategoryDecision) :
    SeverityOutcome :=
  if rank proposedLevel ≤ rank baseLevel then
    { level := baseLevel, capped := false, reason := "no_escalation_proposed" }
  else if confirmedAccusation decisions then
    { level := proposedLevel, capped := false, reason := "confirmed_harm" }
  else { level := baseLevel, capped := true, reason := "escalation_without_confirmed_evidence" }

@[simp] theorem decideCategory_category (input : CategoryDecisionInput) :
    (decideCategory input).category = input.category := by
  unfold decideCategory
  dsimp only
  split_ifs <;> rfl

/-- A confirmed accusation has a validated span and a confidence that is not
below the threshold of its category. -/
theorem decideCategory_confirmed {input : CategoryDecisionInput}
    (required : input.category ∈ evidenceRequiredCategories)
    (confirmed : (decideCategory input).verdict = .confirmed) :
    0 < input.validEvidenceCount ∧ categoryThreshold input.category ≤ input.confidence := by
  unfold decideCategory at confirmed
  have gated : evidenceRequiredCategories.contains input.category = true := by
    simpa using required
  simp only [gated, Bool.not_true, Bool.false_eq_true, if_false] at confirmed
  split_ifs at confirmed with ambiguous none claimed below
  exact ⟨Nat.pos_of_ne_zero none, not_lt.mp below⟩

theorem decideCategory_of_not_required {input : CategoryDecisionInput}
    (notRequired : input.category ∉ evidenceRequiredCategories) :
    (decideCategory input).verdict = .confirmed := by
  have open_ : evidenceRequiredCategories.contains input.category = false := by
    simpa using notRequired
  unfold decideCategory
  simp only [open_, Bool.not_false, if_true]

theorem severityForVerdicts_floor (baseLevel proposedLevel : String)
    (decisions : List CategoryDecision) :
    rank baseLevel ≤ rank (severityForVerdicts baseLevel proposedLevel decisions).level := by
  unfold severityForVerdicts
  split_ifs with noEscalation confirmed
  · exact Nat.le_refl _
  · exact Nat.le_of_lt (Nat.lt_of_not_le noEscalation)
  · exact Nat.le_refl _

theorem severityForVerdicts_raised {baseLevel proposedLevel : String}
    {decisions : List CategoryDecision}
    (raised : rank baseLevel < rank (severityForVerdicts baseLevel proposedLevel decisions).level) :
    confirmedAccusation decisions = true := by
  unfold severityForVerdicts at raised
  split_ifs at raised with noEscalation confirmed
  · exact absurd raised (Nat.lt_irrefl _)
  · exact confirmed
  · exact absurd raised (Nat.lt_irrefl _)

end Tamanor.Ai
