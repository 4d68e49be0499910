import Tamanor.Core.Billing

/-! What a plan entitles to (`entitlements.ts`), and what is left of it when the access
of the tenant is restricted. A limit of `none` is no limit. -/

set_option autoImplicit false

namespace Tamanor.Core

structure PlanEntitlements where
  plan : BillingPlanId
  maxBrands : Option Nat
  maxConnectedAccounts : Option Nat
  maxFacebookPages : Option Nat
  maxInstagramAccounts : Option Nat
  maxFacebookPerBrand : Option Nat
  maxInstagramPerBrand : Option Nat
  maxGoogleBusinessPerBrand : Option Nat
  maxYouTubePerBrand : Option Nat
  maxTeamMembers : Option Nat
  monthlyProcessedItems : Option Nat
  monthlyAiActions : Option Nat
  reputationAnalytics : Bool
  riskProfiles : Bool
  incidents : Bool
  controlCenter : Bool
  advancedRules : Bool
  auditLog : Bool
  securitySuite : Bool
  cyberbullyingProtection : Bool
  businessConnectedPlatforms : Bool
  prioritySupport : Bool
  multiWorkspace : Bool
  agencyClientManagement : Bool
  exports : Bool
  providerSync : Bool
  moderationExecution : Bool
  paidAi : Bool
  billingAccess : Bool
  deletionAccess : Bool
  dataRetentionDays : Option Nat

/-- The plans differ in their limits, in one group of capabilities that starts with
`growth`, in the support and in the export. -/
def planBase (plan : BillingPlanId) (brands accounts pages perBrand team items actions : Option Nat)
    (advanced prioritySupport exported : Bool) (retention : Option Nat) : PlanEntitlements where
  plan := plan
  maxBrands := brands
  maxConnectedAccounts := accounts
  maxFacebookPages := pages
  maxInstagramAccounts := pages
  maxFacebookPerBrand := perBrand
  maxInstagramPerBrand := perBrand
  maxGoogleBusinessPerBrand := perBrand
  maxYouTubePerBrand := perBrand
  maxTeamMembers := team
  monthlyProcessedItems := items
  monthlyAiActions := actions
  reputationAnalytics := advanced
  riskProfiles := advanced
  incidents := advanced
  controlCenter := advanced
  advancedRules := advanced
  auditLog := true
  securitySuite := advanced
  cyberbullyingProtection := advanced
  businessConnectedPlatforms := advanced
  prioritySupport := prioritySupport
  multiWorkspace := false
  agencyClientManagement := false
  exports := exported
  providerSync := true
  moderationExecution := true
  paidAi := true
  billingAccess := true
  deletionAccess := true
  dataRetentionDays := retention

def BillingPlanId.entitlements : BillingPlanId → PlanEntitlements
  | .freeTrial =>
    planBase .freeTrial (some 1) (some 1) (some 1) (some 1) (some 2) (some 500) (some 10)
      false false false (some 30)
  | .starter =>
    planBase .starter (some 1) (some 4) (some 1) (some 1) (some 3) (some 4000) (some 200)
      false false true (some 90)
  | .growth =>
    planBase .growth (some 3) (some 12) (some 3) (some 1) (some 8) (some 13000) (some 1000)
      true false true (some 180)
  | .agency =>
    planBase .agency (some 10) (some 40) (some 10) (some 1) (some 25) (some 25000) (some 5000)
      true true true (some 365)
  | .enterprise =>
    planBase .enterprise none none none none none none none true true true none

def minimalEntitlements : PlanEntitlements :=
  { BillingPlanId.freeTrial.entitlements with
    maxBrands := some 1
    maxConnectedAccounts := some 0
    maxFacebookPages := some 0
    maxInstagramAccounts := some 0
    maxFacebookPerBrand := some 0
    maxInstagramPerBrand := some 0
    maxGoogleBusinessPerBrand := some 0
    maxYouTubePerBrand := some 0
    monthlyProcessedItems := some 0
    monthlyAiActions := some 0
    providerSync := false
    moderationExecution := false
    paidAi := false }

def internalEntitlements : PlanEntitlements := BillingPlanId.enterprise.entitlements

def planEntitlements (plan : Option String) : PlanEntitlements :=
  match billingPlans.find? fun known => plan == some known.value with
  | some known => known.entitlements
  | none => minimalEntitlements

def PlanEntitlements.locked (base : PlanEntitlements) : PlanEntitlements :=
  { base with
    maxConnectedAccounts := some 0
    maxFacebookPages := some 0
    maxInstagramAccounts := some 0
    maxBrands := some 0
    maxFacebookPerBrand := some 0
    maxInstagramPerBrand := some 0
    maxGoogleBusinessPerBrand := some 0
    maxYouTubePerBrand := some 0
    monthlyAiActions := some 0
    providerSync := false
    moderationExecution := false
    paidAi := false
    billingAccess := true
    deletionAccess := true }

def resolveEntitlements (plan accessState : Option String) (deletingTenant internalAccess : Bool) :
    PlanEntitlements :=
  let base := planEntitlements plan
  if deletingTenant then base.locked
  else if internalAccess then internalEntitlements
  else if accessState = some "suspended" ∨ accessState = some "restricted" then base.locked
  else base

def PlanEntitlements.allowsOperations (entitlements : PlanEntitlements) : Bool :=
  entitlements.providerSync && entitlements.moderationExecution && entitlements.paidAi

theorem BillingPlanId.entitlements_allowsOperations (plan : BillingPlanId) :
    plan.entitlements.allowsOperations = true := by
  cases plan <;> rfl

theorem PlanEntitlements.locked_allowsOperations (base : PlanEntitlements) :
    base.locked.allowsOperations = false := rfl

theorem planEntitlements_value (plan : BillingPlanId) :
    planEntitlements (some plan.value) = plan.entitlements := by
  cases plan <;> rfl

theorem resolveEntitlements_allowsOperations (plan : BillingPlanId) (access : AccessState) :
    (resolveEntitlements (some plan.value) (some access.value) false false).allowsOperations =
      accessAllowsOperations access.value := by
  unfold resolveEntitlements
  rw [planEntitlements_value]
  cases access with
  | fullAccess => exact plan.entitlements_allowsOperations
  | gracePeriod => exact plan.entitlements_allowsOperations
  | restricted => exact plan.entitlements.locked_allowsOperations
  | suspended => exact plan.entitlements.locked_allowsOperations

end Tamanor.Core
