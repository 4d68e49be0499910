import Tamanor.Ai.RiskClassifier

/-! Auto-Protect (`auto-protect.ts`): the harmful category of a classified item and
the shadow decision of the brand's policy on it. -/

set_option autoImplicit false

namespace Tamanor.Ai

open Tamanor.Core Library Library.Text

inductive AutoProtectCategory where
  | profanity | personalAttack | hateSpeech | racism | scam | phishing | spam | threat | violence
  | terrorismExtremism | sexualVulgarity | competitorPromo | coordinatedAttack
  | brandImpersonation | crisisKeyword | normalCriticism
deriving DecidableEq

def AutoProtectCategory.value : AutoProtectCategory → String
  | .profanity => "profanity"
  | .personalAttack => "personal_attack"
  | .hateSpeech => "hate_speech"
  | .racism => "racism"
  | .scam => "scam"
  | .phishing => "phishing"
  | .spam => "spam"
  | .threat => "threat"
  | .violence => "violence"
  | .terrorismExtremism => "terrorism_extremism"
  | .sexualVulgarity => "sexual_vulgarity"
  | .competitorPromo => "competitor_promo"
  | .coordinatedAttack => "coordinated_attack"
  | .brandImpersonation => "brand_impersonation"
  | .crisisKeyword => "crisis_keyword"
  | .normalCriticism => "normal_criticism"

inductive AutoProtectDecisionValue where
  | noAction | monitor | requiresApproval | wouldAutoHide | blockedBySafety
deriving DecidableEq

def AutoProtectDecisionValue.value : AutoProtectDecisionValue → String
  | .noAction => "no_action"
  | .monitor => "monitor"
  | .requiresApproval => "requires_approval"
  | .wouldAutoHide => "would_auto_hide"
  | .blockedBySafety => "blocked_by_safety"

structure AutoProtectPolicy where
  category : String
  mode : String
  minConfidence : ℚ
  isActive : Bool

structure AutoProtectInput where
  text : Text
  riskLevel : String
  categories : List String
  riskSignals : List String
  matchedTerms : List Text
  sentiment : String
  confidence : ℚ
  requiresReview : Bool

structure AutoProtectResult where
  decision : AutoProtectDecisionValue
  matchedCategory : AutoProtectCategory
  policyMode : String
  confidence : ℚ
  reason : String
  safetyBlocked : Bool

def shadowEligible : List AutoProtectCategory := [
  .hateSpeech, .racism, .terrorismExtremism, .phishing, .scam, .threat, .violence, .spam,
  .profanity, .personalAttack, .sexualVulgarity, .coordinatedAttack, .brandImpersonation,
  .crisisKeyword, .competitorPromo]

def termLexicon : List (AutoProtectCategory × List String) := [
  (.terrorismExtremism, ["bomb", "jihad", "heil hitler", "terror attack", "behead"]),
  (.racism, ["go back to your country", "your race", "subhuman", "racial slur"]),
  (.violence, [
    "i will kill you", "kill you", "beat you up", "i will hurt", "stab you", "shoot you",
    "zabijem ta", "zbijem ta"]),
  (.phishing, [
    "verify your account", "confirm your password", "reset your password", "send your password",
    "click here to claim"]),
  (.sexualVulgarity, ["send nudes", "porn", "explicit sexual"]),
  (.brandImpersonation, [
    "official account", "i am the ceo", "real owner", "verified official",
    "this page impersonates"]),
  (.crisisKeyword, [
    "class action lawsuit", "data breach", "health inspection", "product recall",
    "regulatory complaint"])]

def promoMarkers : List String := [
  "dm me", "message me", "pm me", "join us", "come to us", "check my page", "follow me",
  "subscribe", "we are cheaper", "piste dm", "piste mi", "podte ku", "kupte u mna",
  "napiste mi", "pisem vam dm", "schreib mir", "schreibt mir", "napisz do mnie"]

def signalMap : List (String × AutoProtectCategory) := [
  ("hate_speech", .hateSpeech), ("legal_threat", .threat), ("scam", .scam),
  ("harassment", .personalAttack), ("brand_attack", .coordinatedAttack),
  ("crisis", .crisisKeyword), ("spam", .spam), ("profanity", .profanity)]

def priority : List AutoProtectCategory := [
  .terrorismExtremism, .racism, .hateSpeech, .threat, .violence, .phishing, .scam,
  .sexualVulgarity, .brandImpersonation, .coordinatedAttack, .personalAttack, .crisisKeyword,
  .spam, .profanity, .competitorPromo, .normalCriticism]

def pickHigher (left right : AutoProtectCategory) : AutoProtectCategory :=
  if priority.idxOf left ≤ priority.idxOf right then left else right

def anyTerm (norm : Text) (category : AutoProtectCategory) (terms : List String) : Bool :=
  terms.any fun term => !(findTermSpans norm term.toList category.value false).isEmpty

def matchAutoProtectCategory (database : CharacterDatabase) (text : Text)
    (signals : List String) : AutoProtectCategory :=
  let norm := normalize database text
  let byTerms := termLexicon.foldl (fun category (other, terms) =>
    if anyTerm norm other terms then pickHigher category other else category) .normalCriticism
  let bySignals := signalMap.foldl (fun category (signal, other) =>
    if signals.contains signal then pickHigher category other else category) byTerms
  if anyTerm norm .competitorPromo promoMarkers then pickHigher bySignals .competitorPromo
  else if signals.contains "competitor" then pickHigher bySignals .normalCriticism
  else bySignals

def unionSignals (riskSignals categories : List String) : List String :=
  (OrderedSet.ofList (riskSignals ++ categories)).toList

def evaluateAutoProtect (database : CharacterDatabase) (input : AutoProtectInput)
    (policies : List AutoProtectPolicy) : AutoProtectResult :=
  let matchedCategory := matchAutoProtectCategory database input.text
    (unionSignals input.riskSignals input.categories)
  let confidence := input.confidence
  let decide (decision : AutoProtectDecisionValue) (policyMode reason : String)
      (safetyBlocked : Bool) : AutoProtectResult :=
    { decision, matchedCategory, policyMode, confidence, reason, safetyBlocked }
  if input.requiresReview then
    decide .requiresApproval "none"
      "Classification is unconfirmed (no validated evidence) — human review, no automatic action."
      true
  else
    match policies.find? fun policy =>
        policy.category == matchedCategory.value && policy.isActive with
    | none => decide .monitor "none" "No active policy — monitor only." false
    | some policy =>
      if policy.mode = "monitor" then
        let positive := input.sentiment == "positive" && input.riskLevel == "none"
        decide (if positive then .noAction else .monitor) policy.mode "Monitor policy." false
      else if policy.mode = "approval" then
        decide .requiresApproval policy.mode "Approval policy — routed to human review." false
      else if matchedCategory = .normalCriticism then
        decide .blockedBySafety policy.mode "Normal criticism is never auto-hidden." true
      else if !shadowEligible.contains matchedCategory then
        decide .requiresApproval policy.mode "Category not shadow-eligible — human review." true
      else if confidence < policy.minConfidence then
        decide .requiresApproval policy.mode
          ("Confidence " ++ toFixed2 confidence ++ " < " ++ toFixed2 policy.minConfidence ++
            " — downgraded to review.") false
      else
        decide .wouldAutoHide policy.mode
          ("Shadow mode: would auto-hide (confidence " ++ toFixed2 confidence ++ " ≥ " ++
            toFixed2 policy.minConfidence ++ "). No platform action performed.") false

end Tamanor.Ai
