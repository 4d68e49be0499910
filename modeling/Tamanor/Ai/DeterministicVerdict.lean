import Tamanor.Ai.Pipeline

/-! The verdict of the pipeline without AI. It is a function of the normalized text, the
rating, the brand rules that match and the memory rules that fire. -/

set_option autoImplicit false

namespace Tamanor.Ai

open Tamanor.Core Library Library.Text

structure DeterministicVerdict where
  level : String
  categories : List String
  riskSignals : List String
  memoryMatched : List BrandMemoryMatch
deriving DecidableEq

def HybridResult.verdict (result : HybridResult) : DeterministicVerdict where
  level := result.level
  categories := result.categories
  riskSignals := result.explanation.riskSignals
  memoryMatched := result.memoryMatched

section Normalize

variable {database : CharacterDatabase}

theorem isCombiningMark_of_space {char : Char} (space : isSpace char = true) :
    isCombiningMark char = false := by
  simp only [isSpace, List.mem_cons, List.not_mem_nil, or_false, Bool.or_eq_true,
    decide_eq_true_eq, Bool.and_eq_true] at space
  simp only [isCombiningMark, Bool.and_eq_false_iff, decide_eq_false_iff_not]
  omega

theorem foldLeet_of_space {char : Char} (space : isSpace char = true) : foldLeet char = char := by
  unfold foldLeet
  split <;> first | rfl | exact absurd space (by decide)

theorem foldCharacters_append_space (left right : Text) {space : Char}
    (isSpace : isSpace space = true) :
    foldCharacters (left ++ space :: right) =
      foldCharacters left ++ space :: foldCharacters right := by
  simp [foldCharacters, isCombiningMark_of_space isSpace, foldLeet_of_space isSpace, blankOther,
    isSpace]

theorem words_foldCharacters_nfd (text : Text) :
    words (foldCharacters (database.nfd text)) =
      (words text).flatMap fun word => words (foldCharacters (database.nfd word)) := by
  induction text using word_induction with
  | clean text clean =>
    rw [words_of_no_space clean]
    by_cases empty : text = []
    · subst empty
      rfl
    · simp [empty]
  | split word space rest clean isSpace ih =>
    obtain ⟨printed, printedSpace, decomposed⟩ := database.nfd_append_space word rest isSpace
    rw [decomposed, foldCharacters_append_space _ _ printedSpace,
      words_append_cons _ _ printedSpace, ih, words_append_cons _ _ isSpace,
      List.flatMap_append, words_of_no_space clean]
    congr 1
    by_cases empty : word = []
    · subst empty
      rfl
    · simp [empty]

theorem normalize_congr {first second : Text}
    (same : words (database.toLowerCase first) = words (database.toLowerCase second)) :
    normalize database first = normalize database second := by
  unfold normalize
  rw [trim_collapseSpaces, trim_collapseSpaces, words_foldCharacters_nfd,
    words_foldCharacters_nfd, same]

end Normalize

/-! The brand rules matter through the set of their categories. -/

section BrandRules

def firedCategories (database : CharacterDatabase) (input : ClassificationInput) :
    List RuleCategory :=
  (OrderedSet.ofList ((matchBrandRules database (normalize database input.text) input.rules).map
    MatchedRule.category)).toList

structure Findings.Absorbed (findings : Findings) (category : RuleCategory) : Prop where
  added : ∀ {risk}, (ruleCategoryEffect category).1 = some risk → risk ∈ findings.categories
  score : (ruleCategoryEffect category).2 ≤ findings.score
  deterministic : findings.deterministic = true

def Findings.applyCategory (findings : Findings) (category : RuleCategory) : Findings :=
  findings.applyBrandRule { category, phrase := [] }

variable {findings : Findings} {category : RuleCategory}

theorem Findings.mem_applyCategory {present : RiskCategory} (member : present ∈ findings.categories)
    (next : RuleCategory) : present ∈ (findings.applyCategory next).categories := by
  simp only [applyCategory, applyBrandRule]
  split
  · exact member
  · exact OrderedSet.mem_add.mpr (.inl member)

theorem Findings.applyCategory_absorbed (findings : Findings) (category : RuleCategory) :
    (findings.applyCategory category).Absorbed category where
  added := by
    intro risk effect
    simp [applyCategory, applyBrandRule, effect]
  score := le_max_right _ _
  deterministic := rfl

theorem Findings.Absorbed.kept (absorbed : findings.Absorbed category) (next : RuleCategory) :
    (findings.applyCategory next).Absorbed category where
  added effect := mem_applyCategory (absorbed.added effect) next
  score := absorbed.score.trans (le_max_left _ _)
  deterministic := rfl

theorem Findings.Absorbed.idle (absorbed : findings.Absorbed category) :
    findings.applyCategory category = findings := by
  have categories : (findings.applyCategory category).categories = findings.categories := by
    simp only [applyCategory, applyBrandRule]
    split
    · rfl
    next risk effect => exact OrderedSet.add_of_mem (absorbed.added effect)
  have score : (findings.applyCategory category).score = findings.score :=
    max_eq_left absorbed.score
  have deterministic : (findings.applyCategory category).deterministic = findings.deterministic :=
    absorbed.deterministic.symm
  rcases findings with ⟨_, _, _, _, _⟩
  simp only [applyCategory, applyBrandRule] at categories score deterministic ⊢
  rw [categories, score, deterministic]

theorem ruleFindings_eq (norm : Text) (rating : Option ℚ) (matchedRules : List MatchedRule) :
    ruleFindings norm rating matchedRules =
      (OrderedSet.ofList (matchedRules.map MatchedRule.category)).toList.foldl
        Findings.applyCategory ((lexicalFindings norm).applyRating rating) := by
  rw [OrderedSet.foldl_ofList Findings.applyCategory_absorbed Findings.Absorbed.kept
    Findings.Absorbed.idle, List.foldl_map]
  rfl

end BrandRules

/-- The parts of the rules' result that the verdict is computed from. -/
structure SameFindings (first second : ClassificationResult) : Prop where
  level : first.level = second.level
  confidence : first.confidence = second.confidence
  categories : first.categories = second.categories
  analyzedText : first.analyzedText = second.analyzedText
  evidence : first.evidence = second.evidence
  riskSignals : first.explanation.riskSignals = second.explanation.riskSignals

theorem classify_congr {database : CharacterDatabase} {first second : ClassificationInput}
    (text : normalize database first.text = normalize database second.text)
    (rating : first.rating = second.rating)
    (fired : firedCategories database first = firedCategories database second) :
    SameFindings (classify database first) (classify database second) := by
  have findings : ruleFindings (normalize database first.text) first.rating
        (matchBrandRules database (normalize database first.text) first.rules) =
      ruleFindings (normalize database second.text) second.rating
        (matchBrandRules database (normalize database second.text) second.rules) := by
    rw [ruleFindings_eq, ruleFindings_eq]
    unfold firedCategories at fired
    rw [fired, text, rating]
  unfold classify classifyNormalized
  rw [text, rating] at findings ⊢
  constructor <;> simp only [findings]

/-! The memory rules matter through their type, phrase and effective severity. -/

section MemoryRules

/-- The rule without what `applyBrandMemory` does not read once it has fired. -/
def BrandMemoryRule.essence (rule : BrandMemoryRule) : BrandMemoryRule :=
  { rule with language := none, severity := severityLevel rule.severity, isActive := true }

def firedMemory (database : CharacterDatabase) (text : Text) (rules : List BrandMemoryRule) :
    List BrandMemoryRule :=
  (rules.filter fun rule => rule.fires (normalize database text)).map BrandMemoryRule.essence

theorem severityLevel_idem (severity : String) :
    severityLevel (severityLevel severity) = severityLevel severity := by
  unfold severityLevel
  by_cases known : ["low", "medium", "high", "critical"].contains severity = true
  · rw [if_pos known, if_pos known]
  · rw [if_neg known]
    rfl

theorem BrandMemoryResult.applyRule_essence (floored : Bool) (result : BrandMemoryResult)
    (rule : BrandMemoryRule) :
    result.applyRule floored rule.essence = result.applyRule floored rule := by
  have raised (floor : Nat) (signal : String) :
      result.raiseTo rule.essence floor signal = result.raiseTo rule floor signal := by
    simp only [raiseTo, BrandMemoryRule.essence, severityLevel_idem, record]
  unfold applyRule
  simp only [raised]
  rfl

theorem memoryVerdict_congr {database : CharacterDatabase} {first second : ClassificationInput}
    {firstMemory secondMemory : List BrandMemoryRule}
    (same : SameFindings (classify database first) (classify database second))
    (fired : firedMemory database first.text firstMemory =
      firedMemory database second.text secondMemory) :
    memoryVerdict database first firstMemory = memoryVerdict database second secondMemory := by
  have pass (floored : Bool) (rules : List BrandMemoryRule) (result : BrandMemoryResult) :
      (rules.map BrandMemoryRule.essence).foldl (BrandMemoryResult.applyRule floored) result =
        rules.foldl (BrandMemoryResult.applyRule floored) result := by
    rw [List.foldl_map]
    simp only [BrandMemoryResult.applyRule_essence]
  simp only [memoryVerdict, applyBrandMemory, same.level, same.categories, same.riskSignals]
  rw [← pass _ (firstMemory.filter _), ← pass _ (secondMemory.filter _)]
  exact congrArg (List.foldl _ _) fired

end MemoryRules

/-! Without AI the pipeline decides on the findings and the memory alone. -/

section WithoutAi

variable {database : CharacterDatabase}

theorem aiStage_disabled (providers : Providers) (input : ClassificationInput) {cfg : HybridConfig}
    (disabled : cfg.aiRisk.enabled = false) :
    aiStage database providers input cfg =
      .rulesOnly (classify database input) (memoryVerdict database input cfg.memoryRules) := by
  have unavailable : aiGated database input cfg = false := by
    simp [aiGated, AiRiskConfig.available, disabled]
  simp [aiStage, aiAnswer, unavailable, AiStage.mergeAnswer]

theorem gateDecisions_congr {first second : ClassificationResult}
    (same : SameFindings first second) (memory : BrandMemoryResult) :
    gateDecisions first memory (.rulesOnly first memory) =
      gateDecisions second memory (.rulesOnly second memory) := by
  simp only [gateDecisions, AiStage.rulesOnly, same.confidence, same.analyzedText, same.evidence]

/-- The verdict without AI depends on the text and the rules as far as the rules find
the same things in it. -/
theorem classifyHybrid_verdict_congr {firstProviders secondProviders : Providers}
    {firstForce secondForce : Bool} {first second : ClassificationInput}
    {firstConfig secondConfig : HybridConfig}
    (firstDisabled : firstConfig.aiRisk.enabled = false)
    (secondDisabled : secondConfig.aiRisk.enabled = false)
    (same : SameFindings (classify database first) (classify database second))
    (fired : firedMemory database first.text firstConfig.memoryRules =
      firedMemory database second.text secondConfig.memoryRules) :
    (classifyHybrid database firstProviders firstForce first firstConfig).verdict =
      (classifyHybrid database secondProviders secondForce second secondConfig).verdict := by
  have memory := memoryVerdict_congr same fired
  simp only [classifyHybrid, HybridResult.verdict, aiStage_disabled _ _ firstDisabled,
    aiStage_disabled _ _ secondDisabled, memory, gateDecisions_congr same]
  simp only [AiStage.rulesOnly]

end WithoutAi

end Tamanor.Ai
