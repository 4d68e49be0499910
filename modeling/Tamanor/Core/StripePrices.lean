import Tamanor.Core.Billing

/-! The Stripe prices of the two catalogues (`billing.ts`, `family-billing.ts`). A price id is
configured in an environment variable, of which the catalogue holds the name only. -/

set_option autoImplicit false

namespace Tamanor.Core

open Library

abbrev ProcessEnv := String → Option String

/-- `env[key]?.trim()`; a text that is then empty is none. -/
def ProcessEnv.read (env : ProcessEnv) (key : String) : Option String :=
  ((env key).map fun value => String.ofList (Text.trim value.toList)).filter (· ≠ "")

def startsWith (word : String) (text : String) : Bool := word.toList.isPrefixOf text.toList

def BillingInterval.value : BillingInterval → String
  | .monthly => "monthly"
  | .yearly => "yearly"

structure PriceVariables where
  monthly : String
  yearly : String

def PriceVariables.name (names : PriceVariables) : BillingInterval → String
  | .monthly => names.monthly
  | .yearly => names.yearly

/-! What the two catalogues have in common. -/

theorem find?_of_countP_eq_one {α : Type} {items : List α} {test : α → Bool} {item : α}
    (member : item ∈ items) (passes : test item = true) (single : items.countP test = 1) :
    items.find? test = some item := by
  induction items with
  | nil => cases member
  | cons first rest ih =>
    rw [List.countP_cons] at single
    cases here : test first with
    | true =>
      rw [List.find?_cons, here]
      rcases List.mem_cons.mp member with rfl | later
      · rfl
      · have positive : 0 < rest.countP test := List.countP_pos_iff.mpr ⟨item, later, passes⟩
        rw [here, if_pos rfl] at single
        omega
    | false =>
      rw [List.find?_cons, here]
      rcases List.mem_cons.mp member with rfl | later
      · rw [here] at passes
        cases passes
      · rw [here] at single
        exact ih later (by simpa using single)

section Catalogue

variable {Plan Key : Type}

/-- The reverse map: the plans are tried in their order, each with its monthly price first. -/
def planForPrice [DecidableEq Plan] (resolve : Plan → BillingInterval → Option String)
    (priceId : String) : List Plan → Option (Plan × BillingInterval)
  | [] => none
  | plan :: rest =>
    if resolve plan .monthly = some priceId then some (plan, .monthly)
    else if resolve plan .yearly = some priceId then some (plan, .yearly)
    else planForPrice resolve priceId rest

/-- `/^price_[A-Za-z0-9]+$/`. -/
def isStripePriceId (id : String) : Bool :=
  let rest := id.toList.drop "price_".length
  startsWith "price_" id && !rest.isEmpty && rest.all Char.isAlphanum

def priceCount (resolve : Key → Option String) (keys : List Key) (id : String) : Nat :=
  keys.countP fun key => resolve key == some id

def priceValid (resolve : Key → Option String) (keys : List Key) (key : Key) : Bool :=
  match resolve key with
  | none => false
  | some id => isStripePriceId id && priceCount resolve keys id == 1

def planKeys (plans : List Plan) : List (Plan × BillingInterval) :=
  plans.flatMap fun plan => [(plan, .monthly), (plan, .yearly)]

theorem planForPrice_eq_find? [DecidableEq Plan] (resolve : Plan → BillingInterval → Option String)
    (priceId : String) (plans : List Plan) :
    planForPrice resolve priceId plans =
      (planKeys plans).find? fun key => resolve key.1 key.2 == some priceId := by
  induction plans with
  | nil => rfl
  | cons plan rest ih =>
    have keys : planKeys (plan :: rest) =
        (plan, .monthly) :: (plan, .yearly) :: planKeys rest := rfl
    rw [planForPrice, keys, List.find?_cons, List.find?_cons, ih]
    cases monthly : resolve plan .monthly == some priceId with
    | true => rw [if_pos (beq_iff_eq.mp monthly)]
    | false =>
      rw [if_neg (beq_eq_false_iff_ne.mp monthly)]
      cases yearly : resolve plan .yearly == some priceId with
      | true => rw [if_pos (beq_iff_eq.mp yearly)]
      | false => rw [if_neg (beq_eq_false_iff_ne.mp yearly)]

theorem planForPrice_of_priceValid [DecidableEq Plan]
    {resolve : Plan → BillingInterval → Option String} {plans : List Plan} {keys : List Key}
    {place : Key → Plan × BillingInterval} (listed : keys.map place = planKeys plans) {key : Key}
    (member : key ∈ keys)
    (valid : priceValid (fun key => resolve (place key).1 (place key).2) keys key = true) :
    ∃ priceId, resolve (place key).1 (place key).2 = some priceId ∧
      isStripePriceId priceId = true ∧
      planForPrice resolve priceId plans = some (place key) := by
  unfold priceValid at valid
  dsimp only at valid
  cases resolved : resolve (place key).1 (place key).2 with
  | none =>
    rw [resolved] at valid
    cases valid
  | some priceId =>
    rw [resolved] at valid
    obtain ⟨shaped, single⟩ := Bool.and_eq_true_iff.mp valid
    refine ⟨priceId, rfl, shaped, ?_⟩
    rw [planForPrice_eq_find?, ← listed]
    apply find?_of_countP_eq_one (List.mem_map_of_mem member)
    · rw [resolved]
      exact beq_self_eq_true _
    · rw [List.countP_map]
      exact beq_iff_eq.mp single

end Catalogue

def BillingPlanId.selfServeCheckout : BillingPlanId → Bool
  | .starter | .growth | .agency => true
  | .freeTrial | .enterprise => false

def BillingPlanId.env : BillingPlanId → Option PriceVariables
  | .starter => some ⟨"STRIPE_PRICE_STARTER_MONTHLY", "STRIPE_PRICE_STARTER_YEARLY"⟩
  | .growth => some ⟨"STRIPE_PRICE_GROWTH_MONTHLY", "STRIPE_PRICE_GROWTH_YEARLY"⟩
  | .agency => some ⟨"STRIPE_PRICE_AGENCY_MONTHLY", "STRIPE_PRICE_AGENCY_YEARLY"⟩
  | .freeTrial | .enterprise => none

def selfServePlans : List BillingPlanId := [.starter, .growth, .agency]

def resolveStripePriceId (plan : BillingPlanId) (interval : BillingInterval) (env : ProcessEnv) :
    Option String :=
  if !plan.selfServeCheckout then none
  else plan.env.bind fun names => env.read (names.name interval)

def planForStripePriceId (priceId : String) (env : ProcessEnv) :
    Option (BillingPlanId × BillingInterval) :=
  planForPrice (fun plan interval => resolveStripePriceId plan interval env) priceId selfServePlans

inductive StripePriceKey where
  | starterMonthly | starterYearly | growthMonthly | growthYearly | agencyMonthly | agencyYearly
deriving DecidableEq

def StripePriceKey.plan : StripePriceKey → BillingPlanId
  | .starterMonthly | .starterYearly => .starter
  | .growthMonthly | .growthYearly => .growth
  | .agencyMonthly | .agencyYearly => .agency

def StripePriceKey.interval : StripePriceKey → BillingInterval
  | .starterMonthly | .growthMonthly | .agencyMonthly => .monthly
  | .starterYearly | .growthYearly | .agencyYearly => .yearly

def priceKeyMap : List StripePriceKey :=
  [.starterMonthly, .starterYearly, .growthMonthly, .growthYearly, .agencyMonthly, .agencyYearly]

def stripePriceKeyFor (plan : BillingPlanId) (interval : BillingInterval) : Option StripePriceKey :=
  if !plan.selfServeCheckout then none
  else priceKeyMap.find? fun key => key.plan == plan && key.interval == interval

def StripePriceKey.priceId (env : ProcessEnv) (key : StripePriceKey) : Option String :=
  resolveStripePriceId key.plan key.interval env

def stripeChainReady (env : ProcessEnv) (requireLive : Bool) : Bool :=
  let apiOk := (env.read "STRIPE_SECRET_KEY").any fun secret =>
    startsWith "sk_" secret && (!requireLive || startsWith "sk_live_" secret)
  let webhookOk := (env.read "STRIPE_WEBHOOK_SECRET").any (startsWith "whsec_")
  let portalOk := (env.read "STRIPE_BILLING_PORTAL_RETURN_URL").any fun url =>
    let rest := url.toList.drop "https://".length
    startsWith "https://" url && !rest.isEmpty && rest.all fun char => !Text.isSpace char
  apiOk && webhookOk && portalOk

def stripePriceAvailability (env : ProcessEnv) (requireLive : Bool) (key : StripePriceKey) : Bool :=
  stripeChainReady env requireLive && priceValid (StripePriceKey.priceId env) priceKeyMap key

inductive FamilyPlanId where
  | familyFree | familyBasic | familyPlus | familyPremium
deriving DecidableEq

def FamilyPlanId.value : FamilyPlanId → String
  | .familyFree => "family_free"
  | .familyBasic => "family_basic"
  | .familyPlus => "family_plus"
  | .familyPremium => "family_premium"

/-- `FAMILY_PRICE_ENV`; the free plan has no price. -/
def familyPriceEnv : FamilyPlanId → Option PriceVariables
  | .familyBasic =>
    some ⟨"STRIPE_FAMILY_BASIC_MONTHLY_PRICE_ID", "STRIPE_FAMILY_BASIC_YEARLY_PRICE_ID"⟩
  | .familyPlus =>
    some ⟨"STRIPE_FAMILY_PLUS_MONTHLY_PRICE_ID", "STRIPE_FAMILY_PLUS_YEARLY_PRICE_ID"⟩
  | .familyPremium =>
    some ⟨"STRIPE_FAMILY_PREMIUM_MONTHLY_PRICE_ID", "STRIPE_FAMILY_PREMIUM_YEARLY_PRICE_ID"⟩
  | .familyFree => none

def familySelfServePlans : List FamilyPlanId := [.familyBasic, .familyPlus, .familyPremium]

def resolveFamilyStripePriceId (plan : FamilyPlanId) (interval : BillingInterval)
    (env : ProcessEnv) : Option String :=
  (familyPriceEnv plan).bind fun names => env.read (names.name interval)

def familyPlanForStripePriceId (priceId : String) (env : ProcessEnv) :
    Option (FamilyPlanId × BillingInterval) :=
  planForPrice (fun plan interval => resolveFamilyStripePriceId plan interval env) priceId
    familySelfServePlans

inductive FamilyStripePriceKey where
  | familyBasicMonthly | familyBasicYearly | familyPlusMonthly | familyPlusYearly
  | familyPremiumMonthly | familyPremiumYearly
deriving DecidableEq

def FamilyStripePriceKey.plan : FamilyStripePriceKey → FamilyPlanId
  | .familyBasicMonthly | .familyBasicYearly => .familyBasic
  | .familyPlusMonthly | .familyPlusYearly => .familyPlus
  | .familyPremiumMonthly | .familyPremiumYearly => .familyPremium

def FamilyStripePriceKey.interval : FamilyStripePriceKey → BillingInterval
  | .familyBasicMonthly | .familyPlusMonthly | .familyPremiumMonthly => .monthly
  | .familyBasicYearly | .familyPlusYearly | .familyPremiumYearly => .yearly

def familyPriceKeyMap : List FamilyStripePriceKey :=
  [.familyBasicMonthly, .familyBasicYearly, .familyPlusMonthly, .familyPlusYearly,
    .familyPremiumMonthly, .familyPremiumYearly]

def FamilyStripePriceKey.priceId (env : ProcessEnv) (key : FamilyStripePriceKey) : Option String :=
  resolveFamilyStripePriceId key.plan key.interval env

structure FamilyPriceReport where
  available : FamilyStripePriceKey → Bool
  duplicatePriceIds : Bool

def familyStripePriceAvailability (env : ProcessEnv) : FamilyPriceReport where
  available := priceValid (FamilyStripePriceKey.priceId env) familyPriceKeyMap
  duplicatePriceIds := familyPriceKeyMap.any fun key =>
    (key.priceId env).any fun id =>
      decide (1 < priceCount (FamilyStripePriceKey.priceId env) familyPriceKeyMap id)

end Tamanor.Core
