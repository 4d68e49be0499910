import Mathlib.Data.List.Basic

/-! The vocabulary of a risk assessment: levels, categories, sentiments and the
categories of brand rules. Stored rows and provider answers carry these values
as strings, so each enumeration comes with the string it is stored as. -/

set_option autoImplicit false

namespace Tamanor.Core

inductive RiskLevel where
  | none | low | medium | high | critical
deriving DecidableEq

def RiskLevel.value : RiskLevel → String
  | .none => "none"
  | .low => "low"
  | .medium => "medium"
  | .high => "high"
  | .critical => "critical"

inductive RiskCategory where
  | spam | scam | hateSpeech | harassment | profanity | misinformation | brandAttack
  | complaint | legalThreat | selfHarm | positive | neutral
deriving DecidableEq

def RiskCategory.value : RiskCategory → String
  | .spam => "spam"
  | .scam => "scam"
  | .hateSpeech => "hate_speech"
  | .harassment => "harassment"
  | .profanity => "profanity"
  | .misinformation => "misinformation"
  | .brandAttack => "brand_attack"
  | .complaint => "complaint"
  | .legalThreat => "legal_threat"
  | .selfHarm => "self_harm"
  | .positive => "positive"
  | .neutral => "neutral"

inductive Sentiment where
  | negative | neutral | positive
deriving DecidableEq

def Sentiment.value : Sentiment → String
  | .negative => "negative"
  | .neutral => "neutral"
  | .positive => "positive"

inductive RuleCategory where
  | blockedWords | competitorMentions | crisisKeywords | customPhrases
deriving DecidableEq

inductive Platform where
  | facebookPage | instagramBusiness | youTube | linkedInCompany | tikTok | googleBusiness
deriving DecidableEq

def Platform.value : Platform → String
  | .facebookPage => "facebook_page"
  | .instagramBusiness => "instagram_business"
  | .youTube => "youtube"
  | .linkedInCompany => "linkedin_company"
  | .tikTok => "tiktok"
  | .googleBusiness => "google_business"

def riskOrder : List String := ["none", "low", "medium", "high", "critical"]

/-- `Math.max(0, RISK_ORDER.indexOf(level))`: an unknown level ranks as `none`. -/
def rank (level : String) : Nat :=
  match riskOrder.idxOf? level with
  | some index => index
  | none => 0

/-- `RISK_ORDER[Math.max(0, Math.min(RISK_ORDER.length - 1, rank))]`. -/
def levelFromRank (rank : Nat) : String :=
  riskOrder.getD (min (riskOrder.length - 1) rank) "none"

theorem rank_cases (level : String) :
    level = "low" ∧ rank level = 1 ∨ level = "medium" ∧ rank level = 2 ∨
      level = "high" ∧ rank level = 3 ∨ level = "critical" ∧ rank level = 4 ∨
      (level ≠ "high" ∧ level ≠ "critical") ∧ rank level = 0 := by
  unfold rank riskOrder
  by_cases none : level = "none"
  · subst level; decide
  by_cases low : level = "low"
  · subst level; decide
  by_cases medium : level = "medium"
  · subst level; decide
  by_cases high : level = "high"
  · subst level; decide
  by_cases critical : level = "critical"
  · subst level; decide
  have unknown : List.idxOf? level ["none", "low", "medium", "high", "critical"] = Option.none := by
    simp [List.idxOf?_eq_none_iff, none, low, medium, high, critical]
  simp [unknown, high, critical]

/-- Only the two upper levels rank at least as high as `high`. -/
theorem rank_high_le_iff {level : String} :
    rank "high" ≤ rank level ↔ level = "high" ∨ level = "critical" := by
  have high : rank "high" = 3 := by decide
  rcases rank_cases level with ⟨rfl, _⟩ | ⟨rfl, _⟩ | ⟨rfl, _⟩ | ⟨rfl, _⟩ | ⟨⟨notHigh, notCritical⟩, zero⟩
  · decide
  · decide
  · decide
  · decide
  · simp [high, zero, notHigh, notCritical]

end Tamanor.Core
