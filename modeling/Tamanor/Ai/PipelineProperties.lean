import Tamanor.Ai.Pipeline

/-! What the evidence gate guarantees about every classification, whatever the
providers answered. -/

set_option autoImplicit false

namespace Tamanor.Ai

open Tamanor.Core Library Library.Text

section Verdicts

variable {decisions : List CategoryDecision}

@[simp] theorem mem_categoriesDecided {verdict : CategoryVerdict} {category : String} :
    category ∈ categoriesDecided verdict decisions ↔
      ∃ decision ∈ decisions, decision.verdict = verdict ∧ decision.category = category := by
  simp [categoriesDecided, and_assoc]

theorem mem_some_categoriesDecided_iff {category : String} :
    (category ∈ categoriesDecided .confirmed decisions ∨
      category ∈ categoriesDecided .reviewRequired decisions ∨
      category ∈ categoriesDecided .rejected decisions) ↔
      category ∈ decisions.map CategoryDecision.category := by
  simp only [mem_categoriesDecided, List.mem_map]
  constructor
  · rintro (⟨decision, member, -, same⟩ | ⟨decision, member, -, same⟩ | ⟨decision, member, -, same⟩)
    all_goals exact ⟨decision, member, same⟩
  · rintro ⟨decision, member, same⟩
    cases verdict : decision.verdict with
    | confirmed => exact .inl ⟨decision, member, verdict, same⟩
    | reviewRequired => exact .inr (.inl ⟨decision, member, verdict, same⟩)
    | rejected => exact .inr (.inr ⟨decision, member, verdict, same⟩)

theorem categoriesDecided_disjoint
    (once : (decisions.map CategoryDecision.category).Nodup)
    {left right : CategoryVerdict} (different : left ≠ right) :
    (categoriesDecided left decisions).Disjoint (categoriesDecided right decisions) := by
  intro category inLeft inRight
  obtain ⟨first, firstMember, firstVerdict, rfl⟩ := mem_categoriesDecided.mp inLeft
  obtain ⟨second, secondMember, secondVerdict, same⟩ := mem_categoriesDecided.mp inRight
  have equal : second = first := List.inj_on_of_nodup_map once secondMember firstMember same
  exact different (firstVerdict.symm.trans (equal ▸ secondVerdict))

theorem confirmedAccusation_iff :
    confirmedAccusation decisions = true ↔
      ∃ category ∈ categoriesDecided .confirmed decisions,
        category ∈ evidenceRequiredCategories := by
  simp only [confirmedAccusation, List.any_eq_true, Bool.and_eq_true, beq_iff_eq,
    List.contains_iff_mem, mem_categoriesDecided]
  constructor
  · rintro ⟨decision, member, confirmed, required⟩
    exact ⟨decision.category, ⟨decision, member, confirmed, rfl⟩, required⟩
  · rintro ⟨category, ⟨decision, member, confirmed, rfl⟩, required⟩
    exact ⟨decision, member, confirmed, required⟩

end Verdicts

section Gate

variable {rules : ClassificationResult} {memory : BrandMemoryResult} {stage : AiStage}

theorem gateDecisions_categories :
    (gateDecisions rules memory stage).map CategoryDecision.category = stage.categories.toList := by
  simp [gateDecisions, Function.comp_def]

theorem gateDecisions_once :
    ((gateDecisions rules memory stage).map CategoryDecision.category).Nodup := by
  rw [gateDecisions_categories]
  exact stage.categories.nodup

/-- A confirmed accusation points at a validated span, and the confidence of the
stage reaches the threshold of the category. -/
theorem gateDecisions_confirmed {category : String}
    (confirmed : category ∈ categoriesDecided .confirmed (gateDecisions rules memory stage))
    (required : category ∈ evidenceRequiredCategories) :
    (∃ span ∈ rules.evidence, span.category = category ∧
      validateEvidenceSpan rules.analyzedText (some span) = true) ∧
      categoryThreshold category ≤ stage.confidence := by
  obtain ⟨decision, member, verdict, same⟩ := mem_categoriesDecided.mp confirmed
  obtain ⟨claimed, -, rfl⟩ := List.mem_map.mp member
  rw [decideCategory_category] at same
  subst same
  obtain ⟨counted, reached⟩ := decideCategory_confirmed required verdict
  obtain ⟨span, valid⟩ := List.length_pos_iff_exists_mem.mp counted
  simp only [validEvidenceForCategory, List.mem_filter, Bool.and_eq_true, beq_iff_eq] at valid
  exact ⟨⟨span, valid.1, valid.2.1, valid.2.2⟩, reached⟩

end Gate

section Claims

variable {database : CharacterDatabase} {providers : Providers} {input : ClassificationInput}
  {cfg : HybridConfig}

def AiClaims (database : CharacterDatabase) (providers : Providers) (input : ClassificationInput)
    (cfg : HybridConfig) (category : String) : Prop :=
  ∃ out, aiAnswer database providers input cfg = some out ∧ out.status = .classified ∧
    category ∈ out.categories

theorem AiStage.mem_mergeAnswer {stage : AiStage} {answer : Option AiRiskOutput}
    {category : String} :
    category ∈ (stage.mergeAnswer answer).categories ↔
      category ∈ stage.categories ∨
        ∃ out, answer = some out ∧ out.status = .classified ∧ category ∈ out.categories := by
  cases answer with
  | none => simp [mergeAnswer]
  | some out =>
    by_cases classified : out.status = .classified
    · simp [mergeAnswer, merge, classified]
    · simp [mergeAnswer, merge, classified]

theorem mem_aiStage_categories {category : String} :
    category ∈ (aiStage database providers input cfg).categories ↔
      category ∈ (memoryVerdict database input cfg.memoryRules).categories ∨
        AiClaims database providers input cfg category :=
  AiStage.mem_mergeAnswer

theorem mem_memoryVerdict_of_mem_rules {memoryRules : List BrandMemoryRule} {category : RiskCategory}
    (member : category ∈ (classify database input).categories) :
    category.value ∈ (memoryVerdict database input memoryRules).categories :=
  mem_applyBrandMemory (List.mem_map_of_mem member)

end Claims

section Pipeline

variable (database : CharacterDatabase) (providers : Providers) (forceDiagnosticsError : Bool)
  (input : ClassificationInput) (cfg : HybridConfig)

theorem not_evidenceRequired_placeholder {positive : Prop} [Decidable positive] :
    (if positive then "positive" else "neutral") ∉ evidenceRequiredCategories := by
  split <;> decide

theorem classifyHybrid_categories_confirmed {category : String}
    (member : category ∈
      (classifyHybrid database providers forceDiagnosticsError input cfg).categories)
    (required : category ∈ evidenceRequiredCategories) :
    category ∈
      (classifyHybrid database providers forceDiagnosticsError input cfg).confirmedCategories := by
  simp only [classifyHybrid] at member ⊢
  split at member
  · exact member
  · rw [List.mem_singleton] at member
    exact absurd (member ▸ required) not_evidenceRequired_placeholder

/-- Soundness of the evidence gate over the whole pipeline, for every answer of
the providers. -/
theorem classifyHybrid_evidence_gate (input : ClassificationInput) (cfg : HybridConfig) :
    let result := classifyHybrid database providers forceDiagnosticsError input cfg
    let floor := (memoryVerdict database input cfg.memoryRules).level
    let confidence := (aiStage database providers input cfg).confidence
    (∀ category ∈ result.categories, category ∈ evidenceRequiredCategories →
      (∃ span ∈ result.evidence, span.category = category ∧
        validateEvidenceSpan result.analyzedText (some span) = true) ∧
      categoryThreshold category ≤ confidence) ∧
    result.confidence = round2 confidence ∧
    rank floor ≤ rank result.level ∧
    (rank floor < rank result.level →
      ∃ category ∈ result.confirmedCategories, category ∈ evidenceRequiredCategories) ∧
    result.confirmedCategories.Disjoint result.reviewCategories ∧
    result.confirmedCategories.Disjoint result.rejectedCategories ∧
    result.reviewCategories.Disjoint result.rejectedCategories ∧
    (∀ category,
      (category ∈ result.confirmedCategories ∨ category ∈ result.reviewCategories ∨
        category ∈ result.rejectedCategories) ↔
      (category ∈ (classify database input).categories.map RiskCategory.value ∨
        category ∈ (memoryVerdict database input cfg.memoryRules).categories ∨
        AiClaims database providers input cfg category)) ∧
    (result.requiresReview = true ↔ result.reviewCategories ≠ []) ∧
    (result.classificationState = .reviewRequired ↔ result.requiresReview = true) ∧
    (result.requiresReview = true → result.approvalRequired = true) := by
  intro result floor confidence
  refine ⟨?_, rfl, severityForVerdicts_floor _ _ _, ?_,
    categoriesDecided_disjoint gateDecisions_once (by decide),
    categoriesDecided_disjoint gateDecisions_once (by decide),
    categoriesDecided_disjoint gateDecisions_once (by decide), ?_, ?_, ?_, ?_⟩
  · intro category member required
    have confirmed : category ∈ result.confirmedCategories :=
      classifyHybrid_categories_confirmed _ _ _ _ _ member required
    exact gateDecisions_confirmed confirmed required
  · intro raised
    exact confirmedAccusation_iff.mp (severityForVerdicts_raised raised)
  · intro category
    have decided : (category ∈ result.confirmedCategories ∨ category ∈ result.reviewCategories ∨
        category ∈ result.rejectedCategories) ↔
        category ∈ (aiStage database providers input cfg).categories.toList := by
      rw [← gateDecisions_categories]
      exact mem_some_categoriesDecided_iff
    rw [decided, OrderedSet.mem_toList, mem_aiStage_categories]
    constructor
    · exact .inr
    · rintro (fromRules | claimed)
      · obtain ⟨claimed, member, rfl⟩ := List.mem_map.mp fromRules
        exact .inl (mem_memoryVerdict_of_mem_rules member)
      · exact claimed
  · simp only [result, classifyHybrid, decide_eq_true_eq, List.length_pos_iff]
  · simp only [result, classifyHybrid, decide_eq_true_eq]
    split <;> simp_all
  · intro review
    simp only [result, classifyHybrid] at review ⊢
    simp only [review, Bool.or_true]

end Pipeline

end Tamanor.Ai
