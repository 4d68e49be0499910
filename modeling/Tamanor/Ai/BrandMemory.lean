import Tamanor.Ai.RiskClassifier

/-! Brand memory (`brand-memory.ts`): rules of one brand, applied to the verdict of
the risk rules. A protected signal keeps allow and reduce rules from lowering
the level. -/

set_option autoImplicit false

namespace Tamanor.Ai

open Tamanor.Core Library Library.Text

structure BrandMemoryRule where
  type : String
  normalizedPhrase : Text
  language : Option String
  severity : String
  isActive : Bool
deriving DecidableEq

inductive BrandMemoryEffect where
  | raise | lower | signal | blockedByFloor
deriving DecidableEq

structure BrandMemoryMatch where
  type : String
  phrase : Text
  effect : BrandMemoryEffect
deriving DecidableEq

structure BrandMemoryResult where
  level : String
  categories : OrderedSet String
  riskSignals : OrderedSet String
  matches_ : List BrandMemoryMatch

def severityLevel (severity : String) : String :=
  if ["low", "medium", "high", "critical"].contains severity then severity else "medium"

def protectedSignals : List String := ["scam", "legal_threat", "harassment", "hate_speech"]

def protectedFloor (level : String) (riskSignals : List String) : Bool :=
  riskSignals.any (fun signal => protectedSignals.contains signal) ||
    (riskSignals.contains "profanity" && level == "critical")

/-- The guards before the `switch`: an active rule whose phrase is in the text. -/
def BrandMemoryRule.fires (norm : Text) (rule : BrandMemoryRule) : Bool :=
  rule.isActive && !rule.normalizedPhrase.isEmpty && containsFuzzy norm rule.normalizedPhrase

def BrandMemoryResult.record (result : BrandMemoryResult) (rule : BrandMemoryRule)
    (effect : BrandMemoryEffect) : BrandMemoryResult :=
  { result with
    matches_ := result.matches_ ++ [{ type := rule.type, phrase := rule.normalizedPhrase, effect }] }

/-- The three phrase rules that raise the level at least to `floor` and at least
to their own severity. -/
def BrandMemoryResult.raiseTo (result : BrandMemoryResult) (rule : BrandMemoryRule)
    (floor : Nat) (signal : String) : BrandMemoryResult :=
  { result with
    level := levelFromRank (max (max (rank result.level) floor) (rank (severityLevel rule.severity)))
    riskSignals := result.riskSignals.add signal }.record rule .raise

/-- The `switch` on the type of a rule that fired. -/
def BrandMemoryResult.applyRule (floored : Bool) (result : BrandMemoryResult)
    (rule : BrandMemoryRule) : BrandMemoryResult :=
  match rule.type with
  | "block_phrase" => result.raiseTo rule (rank "high") "brand_blocked"
  | "watch_phrase" => result.raiseTo rule (rank "medium") "brand_watch"
  | "increase_risk_pattern" => result.raiseTo rule 0 "brand_increase"
  | "crisis_phrase" =>
    { result with
      level := levelFromRank (max (rank result.level) (rank "high"))
      categories := result.categories.add "brand_attack"
      riskSignals := result.riskSignals.add "crisis" }.record rule .raise
  | "competitor_phrase" =>
    { result with
      categories := result.categories.add "competitor"
      riskSignals := result.riskSignals.add "competitor" }.record rule .signal
  | "allow_phrase" =>
    if floored then result.record rule .blockedByFloor
    else
      { result with
        level := "none"
        riskSignals := result.riskSignals.add "brand_allow" }.record rule .lower
  | "reduce_risk_pattern" =>
    if floored then result.record rule .blockedByFloor
    else
      { result with
        level := levelFromRank (rank result.level - 2)
        riskSignals := result.riskSignals.add "brand_reduce" }.record rule .lower
  | _ => result

def applyBrandMemory (database : CharacterDatabase) (text : Text) (level : String)
    (categories riskSignals : List String) (rules : List BrandMemoryRule) : BrandMemoryResult :=
  (rules.filter fun rule => rule.fires (normalize database text)).foldl
    (BrandMemoryResult.applyRule (protectedFloor level riskSignals))
    { level
      categories := .ofList categories
      riskSignals := .ofList riskSignals
      matches_ := [] }

variable {category : String}

theorem BrandMemoryResult.mem_applyRule {floored : Bool} {result : BrandMemoryResult}
    (member : category ∈ result.categories) (rule : BrandMemoryRule) :
    category ∈ (result.applyRule floored rule).categories := by
  unfold applyRule
  split <;> try split
  all_goals simp [raiseTo, record, member]

theorem BrandMemoryResult.mem_foldl_applyRule {floored : Bool} (rules : List BrandMemoryRule)
    {result : BrandMemoryResult} (member : category ∈ result.categories) :
    category ∈ (rules.foldl (applyRule floored) result).categories := by
  induction rules generalizing result with
  | nil => exact member
  | cons rule rules ih => exact ih (mem_applyRule member rule)

theorem mem_applyBrandMemory {database : CharacterDatabase} {text : Text} {level : String}
    {categories riskSignals : List String} {rules : List BrandMemoryRule}
    (member : category ∈ categories) :
    category ∈ (applyBrandMemory database text level categories riskSignals rules).categories :=
  BrandMemoryResult.mem_foldl_applyRule _ (OrderedSet.mem_ofList.mpr member)

end Tamanor.Ai
