import Tamanor.Ai.ControlCenter

/-! Production Safe Mode (`production-safety.ts`): kill switches, the customer-voice
floor and the limits of an autonomous hide. -/

set_option autoImplicit false

namespace Tamanor.Sync

open Ai

/-- `NEVER_AUTONOMOUS.has(category)` for a category that arrives as a string. -/
def isNeverAutonomous (category : String) : Bool :=
  (neverAutonomous.map ControlCategory.value).contains category

def isAutonomousEligible (category : String) : Bool :=
  (autonomousEligible.map ControlCategory.value).contains category

inductive Trigger where
  | approval | autonomous
deriving DecidableEq

def liveSafetyAutonomousEligible : List String := [
  "scam", "phishing", "spam", "hate_speech", "racism", "terrorism_extremism",
  "personal_attack", "profanity", "threat", "brand_impersonation"]

def crisisCategories : List String := ["crisis_keyword", "coordinated_attack", "brand_impersonation"]

structure BrandSafetySettings where
  liveModeEnabled : Bool
  autonomousHideEnabled : Bool
  approvalRequiredAboveDailyLimit : Bool
  dailyAutoHideLimit : Int
  hourlyAutoHideLimit : Int
  perCategoryDailyLimit : Int
  maxConsecutiveWithoutReview : Int
  minConfidenceForAutoHide : ℚ
  requireDryRunBeforeFirstLive : Bool
  requireHumanApprovalForNewCategory : Bool
  rollbackRequiredBeforeAutonomy : Bool
  crisisLockEnabled : Bool
  approvedAutoHideCategories : List String

def defaultSafetySettings : BrandSafetySettings where
  liveModeEnabled := false
  autonomousHideEnabled := false
  approvalRequiredAboveDailyLimit := true
  dailyAutoHideLimit := 10
  hourlyAutoHideLimit := 3
  perCategoryDailyLimit := 5
  maxConsecutiveWithoutReview := 5
  minConfidenceForAutoHide := 0.85
  requireDryRunBeforeFirstLive := true
  requireHumanApprovalForNewCategory := true
  rollbackRequiredBeforeAutonomy := true
  crisisLockEnabled := true
  approvedAutoHideCategories := []

structure SafetyCounts where
  dayCount : Int
  hourCount : Int
  categoryDayCount : Int
  consecutiveWithoutReview : Int

structure SafetyFlags where
  productionSafeMode : Bool
  globalKillSwitch : Bool

structure ProductionSafetyContext where
  flags : SafetyFlags
  brandKillSwitch : Bool
  accountKillSwitch : Bool
  settings : BrandSafetySettings
  counts : SafetyCounts
  categoryApprovedBefore : Bool
  rollbackAvailable : Bool

inductive SafetyOutcome where
  | allow | downgrade | blocked
deriving DecidableEq

structure SafetyEvaluation where
  outcome : SafetyOutcome
  reason : String
  auditEvent : String

def safetyBlock (reason auditEvent : String) : SafetyEvaluation :=
  { outcome := .blocked, reason, auditEvent }

def safetyDowngrade (reason auditEvent : String) : SafetyEvaluation :=
  { outcome := .downgrade, reason, auditEvent }

def autonomousDowngrade (category : String) (confidence : ℚ) (riskLevel : String)
    (safety : ProductionSafetyContext) : Option SafetyEvaluation :=
  let settings := safety.settings
  let counts := safety.counts
  if !settings.liveModeEnabled then
    some (safetyDowngrade "live_mode_disabled" "autonomous_hide.blocked")
  else if !settings.autonomousHideEnabled then
    some (safetyDowngrade "autonomous_disabled" "autonomous_hide.blocked")
  else if !liveSafetyAutonomousEligible.contains category then
    some (safetyDowngrade "category_not_eligible" "autonomous_hide.blocked")
  else if category == "threat" && riskLevel != "high" && riskLevel != "critical" then
    some (safetyDowngrade "threat_requires_high" "autonomous_hide.blocked")
  else if settings.crisisLockEnabled && crisisCategories.contains category then
    some (safetyDowngrade "crisis_lock" "autonomous_hide.blocked")
  else if confidence < settings.minConfidenceForAutoHide then
    some (safetyDowngrade "below_min_confidence" "autonomous_hide.blocked")
  else if settings.requireHumanApprovalForNewCategory && !safety.categoryApprovedBefore then
    some (safetyDowngrade "new_category_requires_approval" "autonomous_hide.blocked")
  else if settings.rollbackRequiredBeforeAutonomy && !safety.rollbackAvailable then
    some (safetyDowngrade "rollback_required" "autonomous_hide.blocked")
  else if settings.hourlyAutoHideLimit ≤ counts.hourCount then
    some (safetyDowngrade "hourly_limit" "rate_limit.triggered")
  else if settings.dailyAutoHideLimit ≤ counts.dayCount then
    some (safetyDowngrade "daily_limit" "rate_limit.triggered")
  else if settings.perCategoryDailyLimit ≤ counts.categoryDayCount then
    some (safetyDowngrade "category_daily_limit" "rate_limit.triggered")
  else if settings.maxConsecutiveWithoutReview ≤ counts.consecutiveWithoutReview then
    some (safetyDowngrade "consecutive_review_needed" "rate_limit.triggered")
  else none

def evaluateProductionSafety (trigger : Trigger) (category : String) (confidence : ℚ)
    (riskLevel : String) (safety : ProductionSafetyContext) : SafetyEvaluation :=
  if safety.flags.globalKillSwitch then safetyBlock "global_kill_switch" "kill_switch.blocked"
  else if safety.brandKillSwitch then safetyBlock "brand_kill_switch" "kill_switch.blocked"
  else if safety.accountKillSwitch then safetyBlock "account_kill_switch" "kill_switch.blocked"
  else if isNeverAutonomous category then safetyBlock "safety_never_live" "safety_floor.blocked"
  else
    let allowed : SafetyEvaluation :=
      { outcome := .allow, reason := "safety_ok", auditEvent := "autonomous_hide.allowed" }
    match trigger with
    | .approval => allowed
    | .autonomous => (autonomousDowngrade category confidence riskLevel safety).getD allowed

end Tamanor.Sync
