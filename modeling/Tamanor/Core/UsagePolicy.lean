import Mathlib.Data.Rat.Floor

/-! What a plan may spend on AI (`usage-policy.ts`). An unknown plan gets the free
policy; only a known one may lift a cap (`none`). -/

set_option autoImplicit false

namespace Tamanor.Core

inductive UsagePlan where
  | free | freeTrial | starter | growth | agency | pro | enterprise

def UsagePlan.value : UsagePlan → String
  | .free => "free"
  | .freeTrial => "free_trial"
  | .starter => "starter"
  | .growth => "growth"
  | .agency => "agency"
  | .pro => "pro"
  | .enterprise => "enterprise"

def usagePlans : List UsagePlan :=
  [.free, .freeTrial, .starter, .growth, .agency, .pro, .enterprise]

structure UsagePolicy where
  plan : UsagePlan
  basicUnitsPerPeriod : Option Nat
  premiumCallsPerPeriod : Option Nat
  premiumCostLimitMicros : Option Nat
  maxInputTokensPerCall : Nat
  maxOutputTokensPerCall : Nat
  allowRules : Bool
  allowLocalModel : Bool
  allowPaidFallback : Bool
  allowGeneratedReplies : Bool

def policyVersion : String := "v1.44"

def cappedPolicy (plan : UsagePlan) (basicUnits calls costMicros : Option Nat)
    (inputTokens outputTokens : Nat) (replies : Bool) : UsagePolicy where
  plan := plan
  basicUnitsPerPeriod := basicUnits
  premiumCallsPerPeriod := calls
  premiumCostLimitMicros := costMicros
  maxInputTokensPerCall := inputTokens
  maxOutputTokensPerCall := outputTokens
  allowRules := true
  allowLocalModel := true
  allowPaidFallback := true
  allowGeneratedReplies := replies

def UsagePlan.policy : UsagePlan → UsagePolicy
  | .free => cappedPolicy .free (some 500) (some 10) (some 200000) 2000 512 false
  | .freeTrial => cappedPolicy .freeTrial (some 500) (some 10) (some 200000) 2000 512 false
  | .starter => cappedPolicy .starter (some 4000) (some 200) (some 5000000) 4000 1024 false
  | .growth => cappedPolicy .growth (some 13000) (some 1000) (some 25000000) 6000 1536 false
  | .agency => cappedPolicy .agency (some 25000) (some 5000) (some 100000000) 8000 2048 true
  | .pro => cappedPolicy .pro (some 50000) (some 5000) (some 100000000) 8000 2048 true
  | .enterprise => cappedPolicy .enterprise none none none 16000 4096 true

def restrictedPolicy : UsagePolicy :=
  { cappedPolicy .free (some 500) (some 0) (some 0) 2000 512 false with allowPaidFallback := false }

def resolveUsagePolicy (plan : String) : UsagePolicy :=
  match usagePlans.find? fun known => known.value == plan with
  | some known => known.policy
  | none => UsagePlan.free.policy

def resolveEffectiveUsagePolicy (plan : String) (accessState : Option String)
    (internalAccess : Bool) : UsagePolicy :=
  if internalAccess then UsagePlan.enterprise.policy
  else if accessState = some "restricted" ∨ accessState = some "suspended" then restrictedPolicy
  else resolveUsagePolicy plan

/-! Cost estimation (`usage-pricing.ts`), in integer micros. A model without a price is
estimated so high that it fails closed. -/

structure ModelPricing where
  inputMicrosPerToken : ℚ
  outputMicrosPerToken : ℚ

def pricing (provider modelKey : String) : Option ModelPricing :=
  match provider, modelKey with
  | "none", "none" => some ⟨0, 0⟩
  | "mock", "mock" => some ⟨0, 0⟩
  | "openai", "gpt-4o-mini" => some ⟨15 / 100, 60 / 100⟩
  | _, _ => none

def safeFallbackMicros : Nat := 200000

def tokenCostMicros (provider modelKey : String) (inputTokens outputTokens : Nat) : Nat :=
  match pricing provider modelKey with
  | none => safeFallbackMicros
  | some price =>
    ⌈price.inputMicrosPerToken * inputTokens + price.outputMicrosPerToken * outputTokens⌉.toNat

def estimateCostMicros (provider modelKey : String) (maxInputTokens maxOutputTokens : Nat) : Nat :=
  tokenCostMicros provider modelKey maxInputTokens maxOutputTokens

def actualCostMicros (provider modelKey : String) (inputTokens outputTokens : Nat) : Nat :=
  tokenCostMicros provider modelKey inputTokens outputTokens

end Tamanor.Core
