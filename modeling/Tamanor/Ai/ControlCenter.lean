import Tamanor.Ai.AutoProtect

/-! The Control Center (`control-center.ts`): what may be done about an item within
the policies of its brand. The decision executes nothing; an autonomous one is
a candidate for the execution layer. -/

set_option autoImplicit false

namespace Tamanor.Ai

open Tamanor.Core Library Library.Text

inductive ControlCategory where
  | spam | scam | phishing | profanity | personalAttack | hateSpeech | racism | threat | violence
  | terrorismExtremism | sexualVulgarity | competitorPromo | coordinatedAttack
  | brandImpersonation | crisisKeyword | normalCriticism | customerQuestion | refundComplaint
  | legalComplaint | safetyClaim | positiveFeedback
deriving DecidableEq

def ControlCategory.value : ControlCategory → String
  | .spam => "spam"
  | .scam => "scam"
  | .phishing => "phishing"
  | .profanity => "profanity"
  | .personalAttack => "personal_attack"
  | .hateSpeech => "hate_speech"
  | .racism => "racism"
  | .threat => "threat"
  | .violence => "violence"
  | .terrorismExtremism => "terrorism_extremism"
  | .sexualVulgarity => "sexual_vulgarity"
  | .competitorPromo => "competitor_promo"
  | .coordinatedAttack => "coordinated_attack"
  | .brandImpersonation => "brand_impersonation"
  | .crisisKeyword => "crisis_keyword"
  | .normalCriticism => "normal_criticism"
  | .customerQuestion => "customer_question"
  | .refundComplaint => "refund_complaint"
  | .legalComplaint => "legal_complaint"
  | .safetyClaim => "safety_claim"
  | .positiveFeedback => "positive_feedback"

def ControlCategory.ofAutoProtect : AutoProtectCategory → ControlCategory
  | .profanity => .profanity
  | .personalAttack => .personalAttack
  | .hateSpeech => .hateSpeech
  | .racism => .racism
  | .scam => .scam
  | .phishing => .phishing
  | .spam => .spam
  | .threat => .threat
  | .violence => .violence
  | .terrorismExtremism => .terrorismExtremism
  | .sexualVulgarity => .sexualVulgarity
  | .competitorPromo => .competitorPromo
  | .coordinatedAttack => .coordinatedAttack
  | .brandImpersonation => .brandImpersonation
  | .crisisKeyword => .crisisKeyword
  | .normalCriticism => .normalCriticism

inductive ControlAction where
  | notify | createInboxItem | suggestReply | requestApproval | hideComment | report | escalate
  | assignToUser | createIncident | noAction

inductive QueueState where
  | suggested | approvalRequired | approved | rejected | blockedBySafety | dryRun | executed
  | failed | rollbackNeeded | monitor | noAction
deriving DecidableEq

def neverAutonomous : List ControlCategory := [
  .normalCriticism, .refundComplaint, .legalComplaint, .safetyClaim, .customerQuestion,
  .positiveFeedback]

def autonomousEligible : List ControlCategory := [
  .spam, .scam, .phishing, .profanity, .personalAttack, .hateSpeech, .racism, .threat, .violence,
  .terrorismExtremism, .sexualVulgarity, .brandImpersonation]

def incidentCategories : List ControlCategory := [
  .crisisKeyword, .coordinatedAttack, .threat, .legalComplaint, .safetyClaim,
  .brandImpersonation, .terrorismExtremism]

def minAutonomousConfidence : ℚ := 0.8

def intentLexicon : List (ControlCategory × List String) := [
  (.legalComplaint, [
    "my lawyer", "lawsuit", "sue you", "legal action", "pravnik", "zalujem", "anwalt",
    "gdpr complaint"]),
  (.safetyClaim, [
    "injury", "got hurt", "unsafe", "dangerous", "got sick", "food poisoning", "zranenie",
    "ublizilo", "nebezpecne"]),
  (.refundComplaint, [
    "refund", "money back", "chargeback", "vratenie penazi", "vratte mi peniaze",
    "ruckerstattung", "reklamacia"])]

structure ControlInput where
  text : Text
  riskSignals : List String
  categories : List String
  sentiment : String
  riskLevel : String
  confidence : ℚ

/-- `/\?\s*$/.test(text)`. -/
def endsWithQuestion (text : Text) : Bool := (trimEnd text).getLast? == some '?'

variable (database : CharacterDatabase)

def matchControlCategory (input : ControlInput) : ControlCategory :=
  let harmful := matchAutoProtectCategory database input.text
    (unionSignals input.riskSignals input.categories)
  if harmful ≠ .normalCriticism then .ofAutoProtect harmful
  else
    let norm := normalize database input.text
    match intentLexicon.find? fun entry =>
        entry.2.any fun term => containsFuzzy norm term.toList with
    | some entry => entry.1
    | none =>
      if input.sentiment == "positive" && input.riskLevel == "none" then .positiveFeedback
      else if endsWithQuestion input.text && input.riskLevel == "none" then .customerQuestion
      else .normalCriticism

structure ControlPolicyLite where
  category : String
  mode : String
  minConfidence : ℚ
  isActive : Bool

structure ControlDecision where
  matchedCategory : ControlCategory
  mode : String
  proposedAction : ControlAction
  queueState : QueueState
  confidence : ℚ
  reason : String
  safetyBlocked : Bool
  wouldExecute : Bool
  raisesIncident : Bool

def activePolicy (policies : List ControlPolicyLite) (category : ControlCategory) :
    Option ControlPolicyLite :=
  policies.find? fun policy => policy.category == category.value && policy.isActive

def evaluateControl (input : ControlInput) (policies : List ControlPolicyLite) : ControlDecision :=
  let matchedCategory := matchControlCategory database input
  let base : ControlDecision :=
    { matchedCategory
      mode := "none"
      proposedAction := .createInboxItem
      queueState := .monitor
      confidence := input.confidence
      reason := "No active policy — monitor only."
      safetyBlocked := false
      wouldExecute := false
      raisesIncident := incidentCategories.contains matchedCategory }
  match activePolicy policies matchedCategory with
  | none => base
  | some policy =>
    let base := { base with mode := policy.mode }
    if policy.mode = "monitor" then { base with reason := "Monitor policy." }
    else if policy.mode = "assist" then
      { base with
        proposedAction := .suggestReply
        queueState := .suggested
        reason := "Assist policy — reply suggested for review." }
    else if policy.mode = "approval" then
      if autonomousEligible.contains matchedCategory && !neverAutonomous.contains matchedCategory then
        { base with
          proposedAction := .hideComment
          queueState := .approvalRequired
          reason := "Approval policy — a human approves the hide." }
      else
        { base with
          proposedAction := .requestApproval
          queueState := .approvalRequired
          reason := "Approval policy — routed to a human." }
    else if neverAutonomous.contains matchedCategory then
      { base with
        proposedAction := .requestApproval
        queueState := .blockedBySafety
        safetyBlocked := true
        reason := "Safety floor: this category is never auto-hidden." }
    else if !autonomousEligible.contains matchedCategory then
      { base with
        proposedAction := .requestApproval
        queueState := .approvalRequired
        reason := "Category not eligible for autonomous action — human review." }
    else if input.confidence < max minAutonomousConfidence policy.minConfidence then
      { base with
        proposedAction := .requestApproval
        queueState := .approvalRequired
        reason := "Confidence " ++ toFixed2 input.confidence ++
          " below autonomous threshold — downgraded to approval." }
    else
      { base with
        proposedAction := .hideComment
        queueState := .dryRun
        wouldExecute := true
        reason := "Autonomous candidate — would hide (gated: shadow/dry-run until live env enabled). No live action by default." }

@[simp] theorem evaluateControl_matchedCategory (input : ControlInput)
    (policies : List ControlPolicyLite) :
    (evaluateControl database input policies).matchedCategory =
      matchControlCategory database input := by
  unfold evaluateControl
  dsimp only
  split
  · dsimp only
  · split_ifs <;> dsimp only

/-- A policy under which an item of this category may be executed without a human. -/
structure AutonomousCandidate (policy : ControlPolicyLite) (category : ControlCategory)
    (confidence : ℚ) : Prop where
  mode : policy.mode ≠ "monitor" ∧ policy.mode ≠ "assist" ∧ policy.mode ≠ "approval"
  notNever : category ∉ neverAutonomous
  eligible : category ∈ autonomousEligible
  confident : max minAutonomousConfidence policy.minConfidence ≤ confidence

theorem evaluateControl_wouldExecute_iff {database : CharacterDatabase} {input : ControlInput}
    {policies : List ControlPolicyLite} :
    (evaluateControl database input policies).wouldExecute = true ↔
      ∃ policy, activePolicy policies (matchControlCategory database input) = some policy ∧
        AutonomousCandidate policy (matchControlCategory database input) input.confidence := by
  unfold evaluateControl
  dsimp only
  cases found : activePolicy policies (matchControlCategory database input) with
  | none => simp
  | some policy =>
    dsimp only
    constructor
    · intro executes
      refine ⟨policy, rfl, ?_⟩
      split_ifs at executes with monitor assist approval hide never ineligible below
      exact ⟨⟨monitor, assist, approval⟩, by simpa using never, by simpa using ineligible,
        not_lt.mp below⟩
    · rintro ⟨_, same, ⟨⟨monitor, assist, approval⟩, never, eligible, confident⟩⟩
      cases same
      simp [monitor, assist, approval, never, eligible, not_lt.mpr confident]

end Tamanor.Ai
