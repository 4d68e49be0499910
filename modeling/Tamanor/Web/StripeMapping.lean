import Tamanor.Core.StripePrices
import Tamanor.Db.BillingRepo

/-! What a Stripe subscription is mapped to (`stripe-mapping.ts`), in the order in which the
webhook tries the two catalogues. -/

set_option autoImplicit false

namespace Tamanor.Web

open Tamanor.Core Tamanor.Db

structure SubscriptionItem where
  priceId : Option String
  currentPeriodStart : Option Int
  currentPeriodEnd : Option Int

structure StripeSubscription where
  id : String
  items : List SubscriptionItem
  customer : Option String
  status : String
  cancelAtPeriodEnd : Bool
  canceledAt : Option Int
  trialEnd : Option Int

def toDate (time : Option Int) : Option Int :=
  (time.filter (0 < ·)).map (· * 1000)

structure SubscriptionPeriod where
  start : Option Int
  stop : Option Int

def subscriptionPeriod (sub : StripeSubscription) : SubscriptionPeriod where
  start := toDate (sub.items.filterMap fun item => item.currentPeriodStart.filter (0 < ·)).min?
  stop := toDate (sub.items.filterMap fun item => item.currentPeriodEnd.filter (0 < ·)).max?

def StripeSubscription.priceId (sub : StripeSubscription) : Option String :=
  sub.items.head?.bind SubscriptionItem.priceId

def StripeSubscription.customerId (sub : StripeSubscription) : Option String :=
  sub.customer.filter (· ≠ "")

/-- Both normalizations; they differ in the catalogue that knows the price. -/
def normalizeWith (planFor : String → Option (String × BillingInterval)) (sub : StripeSubscription)
    (latestInvoiceStatus : Option String) : Option StripeSubStateInput := do
  let priceId ← sub.priceId.filter (· ≠ "")
  let mapped ← planFor priceId
  let customerId ← sub.customerId
  let period := subscriptionPeriod sub
  return {
    stripeCustomerId := customerId
    stripeSubscriptionId := some sub.id
    stripePriceId := some priceId
    plan := mapped.1
    billingInterval := some mapped.2.value
    status := sub.status
    currentPeriodStart := period.start
    currentPeriodEnd := period.stop
    cancelAtPeriodEnd := some sub.cancelAtPeriodEnd
    canceledAt := toDate sub.canceledAt
    trialEndsAt := toDate sub.trialEnd
    latestInvoiceStatus := latestInvoiceStatus }

def normalizeSubscription (env : ProcessEnv) (sub : StripeSubscription)
    (latestInvoiceStatus : Option String) : Option StripeSubStateInput :=
  normalizeWith
    (fun priceId => (planForStripePriceId priceId env).map fun mapped => (mapped.1.value, mapped.2))
    sub latestInvoiceStatus

def familyNormalizeSubscription (env : ProcessEnv) (sub : StripeSubscription)
    (latestInvoiceStatus : Option String) : Option StripeSubStateInput :=
  normalizeWith
    (fun priceId =>
      (familyPlanForStripePriceId priceId env).map fun mapped => (mapped.1.value, mapped.2))
    sub latestInvoiceStatus

/-- The webhook's order: Business first, then Family where its billing is on. -/
def subscriptionInput (env : ProcessEnv) (sub : StripeSubscription)
    (latestInvoiceStatus : Option String) : Option StripeSubStateInput :=
  match normalizeSubscription env sub latestInvoiceStatus with
  | some input => some input
  | none =>
    if familyBillingEnabled (env "FAMILY_BILLING_ENABLED") then
      familyNormalizeSubscription env sub latestInvoiceStatus
    else none

def MapsTo (env : ProcessEnv) (priceId : String) (granted : Option (String × BillingInterval)) :
    Prop :=
  ∀ sub latestInvoiceStatus, sub.priceId = some priceId → sub.customerId.isSome = true →
    (subscriptionInput env sub latestInvoiceStatus).map
        (fun input => (input.plan, input.billingInterval)) =
      granted.map fun plan => (plan.1, some plan.2.value)

def BusinessPrice (env : ProcessEnv) (priceId : String) : Prop :=
  ∃ plan interval, resolveStripePriceId plan interval env = some priceId

def FamilyPrice (env : ProcessEnv) (priceId : String) : Prop :=
  ∃ plan interval, resolveFamilyStripePriceId plan interval env = some priceId

def BusinessGrantedBack (env : ProcessEnv) (requireLive : Bool) : Prop :=
  ∀ plan interval key, stripePriceKeyFor plan interval = some key →
    stripePriceAvailability env requireLive key = true →
    ∃ priceId, resolveStripePriceId plan interval env = some priceId ∧
      MapsTo env priceId (some (plan.value, interval))

def FamilyGrantedBack (env : ProcessEnv) : Prop :=
  ∀ key, (familyStripePriceAvailability env).available key = true →
    ∃ priceId, key.priceId env = some priceId ∧
      MapsTo env priceId (some (key.plan.value, key.interval))

def OthersUnmapped (env : ProcessEnv) : Prop :=
  ∀ priceId, ¬BusinessPrice env priceId → ¬FamilyPrice env priceId → MapsTo env priceId none

/-- What the two reverse maps make of a price, in the order of the webhook. -/
def grantOf (env : ProcessEnv) (priceId : String) : Option (String × BillingInterval) :=
  ((planForStripePriceId priceId env).map fun mapped => (mapped.1.value, mapped.2)).or
    (if familyBillingEnabled (env "FAMILY_BILLING_ENABLED") then
      (familyPlanForStripePriceId priceId env).map fun mapped => (mapped.1.value, mapped.2)
    else none)

variable {env : ProcessEnv} {sub : StripeSubscription} {latestInvoiceStatus : Option String}
  {priceId : String}

theorem map_normalizeWith {planFor : String → Option (String × BillingInterval)}
    (priced : sub.priceId = some priceId) (nonempty : priceId ≠ "")
    (customer : sub.customerId.isSome = true) :
    (normalizeWith planFor sub latestInvoiceStatus).map
        (fun input => (input.plan, input.billingInterval)) =
      (planFor priceId).map fun plan => (plan.1, some plan.2.value) := by
  obtain ⟨customerId, known⟩ := Option.isSome_iff_exists.mp customer
  have given : (some priceId).filter (· ≠ "") = some priceId := by simp [nonempty]
  unfold normalizeWith
  rw [priced, known, given]
  cases planned : planFor priceId with
  | none => simp [planned]
  | some mapped => simp [planned]

theorem subscriptionInput_eq_or :
    subscriptionInput env sub latestInvoiceStatus =
      (normalizeSubscription env sub latestInvoiceStatus).or
        (if familyBillingEnabled (env "FAMILY_BILLING_ENABLED") then
          familyNormalizeSubscription env sub latestInvoiceStatus
        else none) := by
  unfold subscriptionInput
  cases normalizeSubscription env sub latestInvoiceStatus with
  | some input => rfl
  | none => rfl

theorem mapsTo_grantOf (nonempty : priceId ≠ "") : MapsTo env priceId (grantOf env priceId) := by
  intro sub latestInvoiceStatus priced customer
  rw [subscriptionInput_eq_or, grantOf, Option.map_or, Option.map_or]
  congr 1
  · exact map_normalizeWith priced nonempty customer
  · cases familyBillingEnabled (env "FAMILY_BILLING_ENABLED") with
    | true =>
      rw [if_pos rfl, if_pos rfl]
      exact map_normalizeWith priced nonempty customer
    | false => rfl

theorem mapsTo_empty : MapsTo env "" none := by
  intro sub latestInvoiceStatus priced customer
  have nothing (planFor : String → Option (String × BillingInterval)) :
      normalizeWith planFor sub latestInvoiceStatus = none := by
    unfold normalizeWith
    rw [priced]
    rfl
  rw [subscriptionInput_eq_or, normalizeSubscription, familyNormalizeSubscription, nothing, nothing]
  cases familyBillingEnabled (env "FAMILY_BILLING_ENABLED") with
  | true => rfl
  | false => rfl

theorem nonempty_of_isStripePriceId (shaped : isStripePriceId priceId = true) : priceId ≠ "" := by
  rintro rfl
  exact absurd shaped (by decide)

theorem planForPrice_none {Plan : Type} [DecidableEq Plan]
    {resolve : Plan → BillingInterval → Option String} (plans : List Plan)
    (unknown : ¬∃ plan interval, resolve plan interval = some priceId) :
    planForPrice resolve priceId plans = none := by
  rw [planForPrice_eq_find?, List.find?_eq_none]
  intro key _ known
  exact unknown ⟨key.1, key.2, beq_iff_eq.mp known⟩

theorem businessGrantedBack (env : ProcessEnv) (requireLive : Bool) :
    BusinessGrantedBack env requireLive := by
  intro plan interval key keyFor available
  have placed : key.plan = plan ∧ key.interval = interval := by
    unfold stripePriceKeyFor at keyFor
    split at keyFor
    · cases keyFor
    · simpa using List.find?_some keyFor
  obtain ⟨rfl, rfl⟩ := placed
  obtain ⟨_, valid⟩ := Bool.and_eq_true_iff.mp available
  obtain ⟨priceId, resolved, shaped, found⟩ :=
    @planForPrice_of_priceValid _ _ _ (fun plan interval => resolveStripePriceId plan interval env)
      selfServePlans _ (fun key : StripePriceKey => (key.plan, key.interval)) (by rfl) _
      (by cases key <;> decide) valid
  have granted : grantOf env priceId = some (key.plan.value, key.interval) := by
    unfold grantOf planForStripePriceId
    rw [found]
    rfl
  refine ⟨priceId, resolved, ?_⟩
  rw [← granted]
  exact mapsTo_grantOf (nonempty_of_isStripePriceId shaped)

theorem familyGrantedBack {key : FamilyStripePriceKey}
    (available : (familyStripePriceAvailability env).available key = true) :
    ∃ priceId, key.priceId env = some priceId ∧
      (¬BusinessPrice env priceId →
        MapsTo env priceId
          (if familyBillingEnabled (env "FAMILY_BILLING_ENABLED") then
            some (key.plan.value, key.interval)
          else none)) := by
  obtain ⟨priceId, resolved, shaped, found⟩ :=
    @planForPrice_of_priceValid _ _ _
      (fun plan interval => resolveFamilyStripePriceId plan interval env) familySelfServePlans _
      (fun key : FamilyStripePriceKey => (key.plan, key.interval)) (by rfl) _
      (by cases key <;> decide) available
  refine ⟨priceId, resolved, ?_⟩
  intro unshared
  have granted : grantOf env priceId =
      if familyBillingEnabled (env "FAMILY_BILLING_ENABLED") then
        some (key.plan.value, key.interval)
      else none := by
    unfold grantOf planForStripePriceId familyPlanForStripePriceId
    rw [planForPrice_none selfServePlans unshared, found]
    rfl
  rw [← granted]
  exact mapsTo_grantOf (nonempty_of_isStripePriceId shaped)

theorem othersUnmapped (env : ProcessEnv) : OthersUnmapped env := by
  intro priceId noBusiness noFamily
  by_cases nonempty : priceId = ""
  · rw [nonempty]
    exact mapsTo_empty
  · have granted : grantOf env priceId = none := by
      unfold grantOf planForStripePriceId familyPlanForStripePriceId
      rw [planForPrice_none selfServePlans noBusiness,
        planForPrice_none familySelfServePlans noFamily]
      cases familyBillingEnabled (env "FAMILY_BILLING_ENABLED") with
      | true => rfl
      | false => rfl
    rw [← granted]
    exact mapsTo_grantOf nonempty

/-- Every Business price is granted back as its plan. So is a Family price where Family billing
is on; where it is off, the price is mapped to nothing. -/
theorem purchasable_grantedBack (env : ProcessEnv) (requireLive : Bool) :
    BusinessGrantedBack env requireLive ∧
      (∀ key, (familyStripePriceAvailability env).available key = true →
        ∃ priceId, key.priceId env = some priceId ∧
          (¬BusinessPrice env priceId →
            MapsTo env priceId
              (if familyBillingEnabled (env "FAMILY_BILLING_ENABLED") then
                some (key.plan.value, key.interval)
              else none))) ∧
      OthersUnmapped env :=
  ⟨businessGrantedBack env requireLive, fun _ => familyGrantedBack, othersUnmapped env⟩

/-! Prices that are available and not granted back. -/

def basicPriceEnv (familyFlag businessPrice : Option String) : ProcessEnv
  | "STRIPE_FAMILY_BASIC_MONTHLY_PRICE_ID" => some "price_1"
  | "FAMILY_BILLING_ENABLED" => familyFlag
  | "STRIPE_PRICE_STARTER_MONTHLY" => businessPrice
  | _ => none

def basicSubscription : StripeSubscription where
  id := "sub_1"
  items := [⟨some "price_1", none, none⟩]
  customer := some "cus_1"
  status := "active"
  cancelAtPeriodEnd := false
  canceledAt := none
  trialEnd := none

/-- A Family price is available while Family billing is off, and where it is also a Business
price. -/
theorem not_familyGrantedBack :
    ¬FamilyGrantedBack (basicPriceEnv none none) ∧
      ¬FamilyGrantedBack (basicPriceEnv (some "true") (some "price_1")) := by
  have wrong {familyFlag businessPrice : Option String}
      (available :
        (familyStripePriceAvailability (basicPriceEnv familyFlag businessPrice)).available
          .familyBasicMonthly = true)
      (resolved : FamilyStripePriceKey.priceId (basicPriceEnv familyFlag businessPrice)
        .familyBasicMonthly = some "price_1")
      (mapped : (subscriptionInput (basicPriceEnv familyFlag businessPrice) basicSubscription
        none).map StripeSubStateInput.plan ≠ some "family_basic") :
      ¬FamilyGrantedBack (basicPriceEnv familyFlag businessPrice) := by
    intro granted
    obtain ⟨priceId, same, maps⟩ := granted .familyBasicMonthly available
    rw [resolved] at same
    cases same
    have plan := maps basicSubscription none rfl rfl
    apply mapped
    have named := congrArg (Option.map Prod.fst) plan
    rw [Option.map_map] at named
    exact named
  constructor
  · exact wrong (by decide +kernel) (by decide +kernel) (by decide +kernel)
  · exact wrong (by decide +kernel) (by decide +kernel) (by decide +kernel)

end Tamanor.Web
