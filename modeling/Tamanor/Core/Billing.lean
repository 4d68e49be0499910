import Tamanor.Core.AutoHideDecision
import Tamanor.Library.Text

/-! Billing state and application access (`billing.ts`, `family-billing.ts`). Statuses
arrive as text; one that is not known grants the least. Dates are in milliseconds. -/

set_option autoImplicit false

namespace Tamanor.Core

open Library

inductive BillingPlanId where
  | freeTrial | starter | growth | agency | enterprise
deriving DecidableEq

def BillingPlanId.value : BillingPlanId → String
  | .freeTrial => "free_trial"
  | .starter => "starter"
  | .growth => "growth"
  | .agency => "agency"
  | .enterprise => "enterprise"

def BillingPlanId.name : BillingPlanId → String
  | .freeTrial => "Free Trial"
  | .starter => "Starter"
  | .growth => "Growth"
  | .agency => "Business"
  | .enterprise => "Enterprise / Custom"

def billingPlans : List BillingPlanId := [.freeTrial, .starter, .growth, .agency, .enterprise]

inductive BillingInterval where
  | monthly | yearly
deriving DecidableEq

def readBillingInterval (value : Option String) : Option BillingInterval :=
  if value = some "monthly" then some .monthly
  else if value = some "yearly" then some .yearly
  else none

inductive BillingStatus where
  | trialing | active | pastDue | unpaid | canceled | incomplete | incompleteExpired | paused
  | noSubscription
deriving DecidableEq

def BillingStatus.value : BillingStatus → String
  | .trialing => "trialing"
  | .active => "active"
  | .pastDue => "past_due"
  | .unpaid => "unpaid"
  | .canceled => "canceled"
  | .incomplete => "incomplete"
  | .incompleteExpired => "incomplete_expired"
  | .paused => "paused"
  | .noSubscription => "no_subscription"

def billingStatuses : List BillingStatus :=
  [.trialing, .active, .pastDue, .unpaid, .canceled, .incomplete, .incompleteExpired, .paused,
    .noSubscription]

/-- The case of a `switch` on a status that is taken; none is the default. -/
def readStatus (status : Option String) : Option BillingStatus :=
  billingStatuses.find? fun known => status == some known.value

inductive AccessState where
  | fullAccess | gracePeriod | restricted | suspended
deriving DecidableEq

def AccessState.value : AccessState → String
  | .fullAccess => "full_access"
  | .gracePeriod => "grace_period"
  | .restricted => "restricted"
  | .suspended => "suspended"

structure AccessInput where
  status : Option String
  trialEndsAt : Option Int
  currentPeriodEnd : Option Int
  cancelAtPeriodEnd : Option Bool
  graceDays : Option Int
  now : Int

def defaultGraceDays : Int := 7

def dayMs : Int := 24 * 60 * 60 * 1000

def isAhead (date : Option Int) (now : Int) : Bool :=
  match date with
  | none => false
  | some time => decide (now < time)

/-- The grace after a failed payment, counted from the paid-through date. -/
def withinGrace (periodEnd : Option Int) (graceMs now : Int) : Bool :=
  match periodEnd with
  | none => false
  | some time => decide (now ≤ time + graceMs)

def resolveAccessState (input : AccessInput) : AccessState :=
  let graceMs := input.graceDays.getD defaultGraceDays * dayMs
  match readStatus input.status with
  | some .active => .fullAccess
  | some .trialing => if isAhead input.trialEndsAt input.now then .fullAccess else .restricted
  | some .pastDue =>
    if withinGrace input.currentPeriodEnd graceMs input.now then .gracePeriod else .restricted
  | some .canceled =>
    if isAhead input.currentPeriodEnd input.now then .fullAccess else .restricted
  | some .noSubscription =>
    if isAhead input.trialEndsAt input.now then .fullAccess else .restricted
  | some .unpaid | some .incomplete | some .incompleteExpired | some .paused => .restricted
  | none => .restricted

structure EffectiveAccessInput extends AccessInput where
  persistedAccessState : Option String
  internalAccess : Bool

def resolveEffectiveAccessState (input : EffectiveAccessInput) : AccessState :=
  if input.internalAccess then .fullAccess
  else if input.persistedAccessState = some "suspended" then .suspended
  else if input.status = some "unpaid" ∨ input.status = some "paused" then .suspended
  else resolveAccessState input.toAccessInput

inductive TenantLifecycleState where
  | activeTrial | trialExpired | activePaid | pastDue | canceled | suspended
deriving DecidableEq

def resolveTenantLifecycle (input : EffectiveAccessInput) : TenantLifecycleState :=
  let trialActive := isAhead input.trialEndsAt input.now
  let periodActive := isAhead input.currentPeriodEnd input.now
  if input.internalAccess then .activePaid
  else if input.persistedAccessState = some "suspended" then .suspended
  else
    match readStatus input.status with
    | some .active => .activePaid
    | some .trialing | some .noSubscription => if trialActive then .activeTrial else .trialExpired
    | some .pastDue | some .incomplete => .pastDue
    | some .unpaid | some .paused => .suspended
    | some .canceled => if periodActive then .activePaid else .canceled
    | some .incompleteExpired => if trialActive then .activeTrial else .trialExpired
    | none => if trialActive then .activeTrial else .trialExpired

def trialDaysRemaining (trialEndsAt : Option Int) (now : Int) : Option Int :=
  trialEndsAt.map fun time =>
    let ms := time - now
    if ms ≤ 0 then 0 else (ms + (dayMs - 1)) / dayMs

inductive BusinessBillingSource where
  | internal | subscription | trial | tenant | none

structure BusinessBillingSubscriptionInput where
  plan : Option String
  status : Option String
  billingInterval : Option String
  currentPeriodEnd : Option Int
  cancelAtPeriodEnd : Bool

structure BusinessBillingInput where
  tenantPlan : Option String
  billingStatus : Option String
  persistedAccessState : Option String
  internalAccess : Bool
  trialEndsAt : Option Int
  subscription : Option BusinessBillingSubscriptionInput
  now : Int

structure BusinessBillingPresentation where
  effectivePlanId : BillingPlanId
  effectivePlanName : String
  effectiveAccessState : AccessState
  lifecycle : TenantLifecycleState
  subscriptionStatus : String
  billingInterval : Option BillingInterval
  currentPeriodEnd : Option Int
  cancelAtPeriodEnd : Bool
  trialEndsAt : Option Int
  trialDaysRemaining : Option Int
  isPaid : Bool
  isTrial : Bool
  isInternalUnlimited : Bool
  holdsCurrentSubscription : Bool
  source : BusinessBillingSource

/-- A plan that a business pays for. Only ASCII letters have the letters of the three
names as their lower case. -/
def normalizeBusinessPaidPlan (plan : Option String) : Option BillingPlanId :=
  plan.bind fun text =>
    let name := String.ofList ((Text.trim text.toList).map Char.toLower)
    if name = "starter" then some .starter
    else if name = "growth" then some .growth
    else if name = "agency" then some .agency
    else none

namespace BusinessBillingInput

def subscriptionStatus (input : BusinessBillingInput) : String :=
  (input.subscription.bind BusinessBillingSubscriptionInput.status <|> input.billingStatus).getD
    "no_subscription"

def lifecycleInput (input : BusinessBillingInput) : EffectiveAccessInput where
  status := some input.subscriptionStatus
  trialEndsAt := input.trialEndsAt
  currentPeriodEnd := input.subscription.bind BusinessBillingSubscriptionInput.currentPeriodEnd
  cancelAtPeriodEnd := input.subscription.map BusinessBillingSubscriptionInput.cancelAtPeriodEnd
  graceDays := none
  now := input.now
  persistedAccessState := input.persistedAccessState
  internalAccess := input.internalAccess

def present (input : BusinessBillingInput) (planId : BillingPlanId)
    (isPaid isTrial isInternalUnlimited holdsCurrentSubscription : Bool)
    (source : BusinessBillingSource) : BusinessBillingPresentation where
  effectivePlanId := planId
  effectivePlanName := planId.name
  effectiveAccessState := resolveEffectiveAccessState input.lifecycleInput
  lifecycle := resolveTenantLifecycle input.lifecycleInput
  subscriptionStatus := input.subscriptionStatus
  billingInterval := readBillingInterval
    (input.subscription.bind BusinessBillingSubscriptionInput.billingInterval)
  currentPeriodEnd := input.subscription.bind BusinessBillingSubscriptionInput.currentPeriodEnd
  cancelAtPeriodEnd :=
    (input.subscription.map BusinessBillingSubscriptionInput.cancelAtPeriodEnd).getD false
  trialEndsAt := input.trialEndsAt
  trialDaysRemaining := trialDaysRemaining input.trialEndsAt input.now
  isPaid := isPaid
  isTrial := isTrial
  isInternalUnlimited := isInternalUnlimited
  holdsCurrentSubscription := holdsCurrentSubscription
  source := source

end BusinessBillingInput

def resolveBusinessBillingPresentation (input : BusinessBillingInput) :
    BusinessBillingPresentation :=
  let lifecycle := resolveTenantLifecycle input.lifecycleInput
  let subPaid := normalizeBusinessPaidPlan
    (input.subscription.bind BusinessBillingSubscriptionInput.plan)
  let tenantPaid := normalizeBusinessPaidPlan input.tenantPlan
  let hasLiveSub := input.subscription.isSome && input.subscriptionStatus != "no_subscription"
  -- A live subscription that maps to no plan never falls back to the plan of the tenant.
  let fallback :=
    if lifecycle = .activeTrial then input.present .freeTrial false true false false .trial
    else
      match lifecycle, subPaid with
      | .canceled, some plan => input.present plan false false false false .subscription
      | _, _ =>
        if hasLiveSub then input.present .freeTrial false false false false .none
        else
          input.present (tenantPaid.getD .freeTrial) false false false false
            (if tenantPaid.isSome then .tenant else .none)
  if input.internalAccess then
    input.present ((subPaid <|> tenantPaid).getD .agency) false false true false .internal
  else
    match lifecycle, subPaid with
    | .activePaid, some plan => input.present plan true false false true .subscription
    | .pastDue, some plan | .suspended, some plan =>
      input.present plan false false false true .subscription
    | _, _ => fallback

def resolveEffectiveBusinessPlan (input : BusinessBillingInput) : BillingPlanId :=
  (resolveBusinessBillingPresentation input).effectivePlanId

inductive CheckoutGuardReason where
  | subscriptionActive | paymentUpdateNeeded | completePayment
deriving DecidableEq

inductive CheckoutGuardDecision where
  | allowed
  | blocked (reason : CheckoutGuardReason)

structure CheckoutGuardSubscription where
  status : Option String
  currentPeriodEnd : Option Int

def evaluateCheckoutGuard (sub : Option CheckoutGuardSubscription) (now : Int) :
    CheckoutGuardDecision :=
  match sub with
  | none => .allowed
  | some sub =>
    if sub.status = none ∨ sub.status = some "" then .allowed
    else
      match readStatus sub.status with
      | some .noSubscription => .allowed
      | some .active | some .trialing | some .paused => .blocked .subscriptionActive
      | some .pastDue | some .unpaid => .blocked .paymentUpdateNeeded
      | some .incomplete => .blocked .completePayment
      | some .incompleteExpired => .allowed
      | some .canceled =>
        if isAhead sub.currentPeriodEnd now then .blocked .subscriptionActive else .allowed
      | none => .blocked .subscriptionActive

def familyPlanIds : List String := ["family_free", "family_basic", "family_plus", "family_premium"]

/-- The names that every object has, and that `in` therefore finds in a catalogue. -/
def objectPrototypeKeys : List String :=
  ["constructor", "__defineGetter__", "__defineSetter__", "hasOwnProperty", "__lookupGetter__",
    "__lookupSetter__", "isPrototypeOf", "propertyIsEnumerable", "toString", "valueOf", "__proto__",
    "toLocaleString"]

def isFamilyPlanId (plan : String) : Bool :=
  familyPlanIds.contains plan || objectPrototypeKeys.contains plan

def familyBillingEnabled (flag : Option String) : Bool :=
  match flag with
  | none => false
  | some text =>
    let value := String.ofList ((Text.trim text.toList).map Char.toLower)
    value == "1" || value == "true"

structure FamilyBillingResolution where
  plan : String
  accessState : AccessState

/-- A family is never restricted: without a subscription that grants access it is on the
free plan. -/
def resolveFamilyBillingState (paidPlan : String) (input : AccessInput) : FamilyBillingResolution :=
  let access := resolveAccessState { input with graceDays := none }
  if access = .fullAccess ∨ access = .gracePeriod then ⟨paidPlan, access⟩
  else ⟨"family_free", .fullAccess⟩

end Tamanor.Core
