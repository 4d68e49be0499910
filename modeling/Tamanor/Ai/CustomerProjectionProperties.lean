import Tamanor.Ai.CustomerProjection
import Tamanor.Ai.PipelineProperties

/-! The pipeline, the projection of a stored row and the columns read back agree
on what a customer may see, and every unreadable row is closed. -/

set_option autoImplicit false

namespace Tamanor.Ai

open Tamanor.Core Library Library.Text

variable {category : String}

theorem accusation_ne_empty (required : category ∈ evidenceRequiredCategories) : category ≠ "" := by
  rintro rfl
  exact absurd required (by decide)

theorem mem_presentable {categories : List String} :
    category ∈ presentable categories ↔ category ∈ categories ∧ category ∉ nonAccusatory := by
  simp [presentable]

theorem mem_accusations {categories : List String} :
    category ∈ accusations categories ↔
      category ∈ categories ∧ category ∈ evidenceRequiredCategories := by
  have presented : ∀ name ∈ evidenceRequiredCategories, name ∉ nonAccusatory := by decide
  simp only [accusations, List.mem_filter, mem_presentable, List.contains_iff_mem]
  constructor
  · rintro ⟨⟨member, -⟩, required⟩
    exact ⟨member, required⟩
  · rintro ⟨member, required⟩
    exact ⟨⟨member, presented category required⟩, required⟩

theorem rank_capUnconfirmed_lt (level : String) : rank (capUnconfirmed level) < rank "high" := by
  unfold capUnconfirmed
  split
  · decide
  · exact Nat.lt_of_not_le ‹_›

theorem capUnconfirmed_idem (level : String) :
    capUnconfirmed (capUnconfirmed level) = capUnconfirmed level := by
  conv_lhs => rw [capUnconfirmed]
  rw [if_neg (Nat.not_le.mpr (rank_capUnconfirmed_lt level))]

section Display

variable {categories : List String} {decisions : List GateDecision}

def AccusationsConfirmed (categories : List String) (decisions : List GateDecision) : Prop :=
  ∀ category ∈ categories, category ∈ evidenceRequiredCategories →
    gateConfirms decisions category = true

theorem unverified_eq_nil_iff :
    (accusations categories).filter (fun category => !gateConfirms decisions category) = [] ↔
      AccusationsConfirmed categories decisions := by
  simp only [List.filter_eq_nil_iff, mem_accusations, Bool.not_eq_true', Bool.not_eq_false,
    AccusationsConfirmed, and_imp]

theorem customerClassificationDisplay_cases (categories : List String)
    (decisions : List GateDecision) :
    (∃ legacy, customerClassificationDisplay categories decisions = .reviewRequired legacy ∧
      (heldForReview decisions = true ∨ ¬ AccusationsConfirmed categories decisions)) ∨
    (∃ shown, customerClassificationDisplay categories decisions = .confirmedCategory shown ∧
      heldForReview decisions = false ∧ AccusationsConfirmed categories decisions ∧
      presentable categories ≠ []) ∨
    (customerClassificationDisplay categories decisions = .noIssue ∧
      heldForReview decisions = false ∧ AccusationsConfirmed categories decisions ∧
      presentable categories = []) := by
  have unverified : _ ↔ AccusationsConfirmed categories decisions := unverified_eq_nil_iff
  unfold customerClassificationDisplay
  cases held : heldForReview decisions with
  | true => exact .inl ⟨false, rfl, .inl rfl⟩
  | false =>
    cases accused : accusations categories with
    | nil =>
      have confirmed : AccusationsConfirmed categories decisions := by
        rw [← unverified, accused, List.filter_nil]
      cases presented : presentable categories with
      | nil => exact .inr (.inr ⟨by simp, rfl, confirmed, rfl⟩)
      | cons first rest => exact .inr (.inl ⟨first, by simp, rfl, confirmed, by simp⟩)
    | cons first rest =>
      rw [accused] at unverified
      have presented : presentable categories ≠ [] := by
        intro empty
        simp [accusations, empty] at accused
      by_cases open_ : 0 < ((first :: rest).filter
          fun category => !gateConfirms decisions category).length
      · refine .inl ⟨decisions.length = 0, by simp [open_], .inr ?_⟩
        rw [← unverified]
        exact List.length_pos_iff.mp open_
      · refine .inr (.inl ⟨first, by simp [open_], rfl, ?_, presented⟩)
        rw [← unverified]
        exact List.length_eq_zero_iff.mp (Nat.eq_zero_of_not_pos open_)

theorem customerClassificationDisplay_reviewRequired_iff :
    (customerClassificationDisplay categories decisions).state = .reviewRequired ↔
      heldForReview decisions = true ∨ ¬ AccusationsConfirmed categories decisions := by
  obtain ⟨legacy, shown, ground⟩ | ⟨category, shown, free, confirmed, -⟩ |
    ⟨shown, free, confirmed, -⟩ := customerClassificationDisplay_cases categories decisions
  · simp [shown, CustomerClassificationDisplay.state, ground]
  · simp [shown, CustomerClassificationDisplay.state, free, confirmed]
  · simp [shown, CustomerClassificationDisplay.state, free, confirmed]

end Display

section Projection

variable (row : StoredClassificationRow)

/-- What is projected in each state. Only a confirmed row has categories or a
level above `medium`. -/
theorem projectStoredClassification_cases :
    ((projectStoredClassification row).state = .confirmed ∧
      (projectStoredClassification row).categories = presentable (row.riskCategories.getD []) ∧
      presentable (row.riskCategories.getD []) ≠ [] ∧
      (projectStoredClassification row).riskLevel = row.riskLevel) ∨
    ((projectStoredClassification row).state = .noIssue ∧
      (projectStoredClassification row).categories = [] ∧
      presentable (row.riskCategories.getD []) = [] ∧
      (projectStoredClassification row).riskLevel = capUnconfirmed row.riskLevel) ∨
    ((projectStoredClassification row).state = .reviewRequired ∧
      (projectStoredClassification row).categories = [] ∧
      (projectStoredClassification row).riskLevel = capUnconfirmed row.riskLevel) := by
  unfold projectStoredClassification
  obtain ⟨legacy, shown, -⟩ | ⟨category, shown, -, confirmed, presented⟩ |
    ⟨shown, -, -, presented⟩ := customerClassificationDisplay_cases
      (row.riskCategories.getD []) (readEvidenceGateDecisions row.aiDiagnostics)
  · exact .inr (.inr (by
      simp [shown, CustomerClassificationDisplay.state, customerVisibleRiskLevel]))
  · have kept : (row.riskCategories.getD []).filter (fun category =>
        !nonAccusatory.contains category && (!evidenceRequiredCategories.contains category ||
          gateConfirms (readEvidenceGateDecisions row.aiDiagnostics) category)) =
        presentable (row.riskCategories.getD []) := by
      apply List.filter_congr
      intro category member
      by_cases required : category ∈ evidenceRequiredCategories
      · simp [confirmed category member required]
      · simp [required]
    refine .inl ⟨?_, ?_, presented, ?_⟩
    · simp [shown, CustomerClassificationDisplay.state]
    · simp only [shown, kept]
    · simp [shown, customerVisibleRiskLevel]
  · exact .inr (.inl (by
      simp [shown, CustomerClassificationDisplay.state, customerVisibleRiskLevel, presented]))

theorem projectStoredClassification_reviewRequired_iff :
    (projectStoredClassification row).state = .reviewRequired ↔
      heldForReview (readEvidenceGateDecisions row.aiDiagnostics) = true ∨
        ¬ AccusationsConfirmed (row.riskCategories.getD [])
          (readEvidenceGateDecisions row.aiDiagnostics) :=
  customerClassificationDisplay_reviewRequired_iff

theorem projectStoredClassification_categories
    (settled : (projectStoredClassification row).state ≠ .reviewRequired) :
    (projectStoredClassification row).categories = presentable (row.riskCategories.getD []) := by
  obtain ⟨-, categories, -, -⟩ | ⟨-, categories, presented, -⟩ | ⟨review, -, -⟩ :=
    projectStoredClassification_cases row
  · exact categories
  · rw [categories, presented]
  · exact absurd review settled

end Projection

/-! The gate read back from stored diagnostics. -/

section ReadBack

theorem readGateDecision_toJson (decision : CategoryDecision) :
    readGateDecision decision.toJson =
      if decision.category = "" then none
      else some { category := decision.category, verdict := decision.verdict.value } := by
  have named : decision.verdict.value ≠ "" := by cases decision.verdict <;> decide
  simp [readGateDecision, CategoryDecision.toJson, Json.field?, Json.asString?, named,
    List.lookup_cons]

theorem readEvidenceGateDecisions_toJson (diagnostics : AiDiagnostics) :
    readEvidenceGateDecisions diagnostics.toJson =
      diagnostics.evidenceGate.decisions.filterMap fun decision =>
        if decision.category = "" then none
        else some { category := decision.category, verdict := decision.verdict.value } := by
  simp [readEvidenceGateDecisions, AiDiagnostics.toJson, EvidenceGate.toJson, Json.field?,
    List.lookup_cons, List.filterMap_map, readGateDecision_toJson]

theorem mem_readEvidenceGateDecisions {diagnostics : AiDiagnostics} {category : String}
    (verdict : CategoryVerdict) (named : category ≠ "") :
    { category, verdict := verdict.value } ∈ readEvidenceGateDecisions diagnostics.toJson ↔
      category ∈ categoriesDecided verdict diagnostics.evidenceGate.decisions := by
  have injective : ∀ left right : CategoryVerdict, left.value = right.value → left = right := by
    intro left right
    cases left <;> cases right <;> decide
  simp only [readEvidenceGateDecisions_toJson, List.mem_filterMap, mem_categoriesDecided]
  constructor
  · rintro ⟨decision, member, read⟩
    split at read
    · cases read
    · simp only [Option.some.injEq, GateDecision.mk.injEq] at read
      exact ⟨decision, member, injective _ _ read.2, read.1⟩
  · rintro ⟨decision, member, rfl, rfl⟩
    exact ⟨decision, member, by simp [named]⟩

theorem gateConfirms_toJson {diagnostics : AiDiagnostics} {category : String}
    (named : category ≠ "") :
    gateConfirms (readEvidenceGateDecisions diagnostics.toJson) category = true ↔
      category ∈ categoriesDecided .confirmed diagnostics.evidenceGate.decisions := by
  rw [← mem_readEvidenceGateDecisions _ named]
  simp only [gateConfirms, List.any_eq_true, Bool.and_eq_true, beq_iff_eq]
  constructor
  · rintro ⟨⟨_, _⟩, member, rfl, rfl⟩
    exact member
  · intro member
    exact ⟨_, member, rfl, rfl⟩

/-- Only accusations are ever held for review, so no held decision is lost for
want of a category name. -/
theorem heldForReview_toJson (diagnostics : AiDiagnostics)
    (held : ∀ category ∈ categoriesDecided .reviewRequired diagnostics.evidenceGate.decisions,
      category ∈ evidenceRequiredCategories) :
    heldForReview (readEvidenceGateDecisions diagnostics.toJson) = true ↔
      categoriesDecided .reviewRequired diagnostics.evidenceGate.decisions ≠ [] := by
  simp only [heldForReview, List.any_eq_true, beq_iff_eq]
  constructor
  · rintro ⟨⟨category, _⟩, member, rfl⟩
    have named : category ≠ "" := by
      rintro rfl
      rw [readEvidenceGateDecisions_toJson] at member
      obtain ⟨decision, -, read⟩ := List.mem_filterMap.mp member
      split at read
      · cases read
      · exact absurd (GateDecision.mk.inj (Option.some.inj read)).1 ‹_›
    exact List.ne_nil_of_mem ((mem_readEvidenceGateDecisions .reviewRequired named).mp member)
  · intro nonempty
    obtain ⟨category, member⟩ := List.exists_mem_of_ne_nil _ nonempty
    have named := accusation_ne_empty (held category member)
    exact ⟨_, (mem_readEvidenceGateDecisions _ named).mpr member, rfl⟩

end ReadBack

section Agreement

theorem gateDecisions_reviewRequired {rules : ClassificationResult} {memory : BrandMemoryResult}
    {stage : AiStage} {category : String}
    (held : category ∈ categoriesDecided .reviewRequired (gateDecisions rules memory stage)) :
    category ∈ evidenceRequiredCategories := by
  obtain ⟨decision, member, verdict, same⟩ := mem_categoriesDecided.mp held
  obtain ⟨claimed, -, rfl⟩ := List.mem_map.mp member
  rw [decideCategory_category] at same
  subst same
  by_contra notRequired
  rw [decideCategory_of_not_required notRequired] at verdict
  cases verdict

variable (database : CharacterDatabase) (providers : Providers) (forceDiagnosticsError : Bool)
  (input : ClassificationInput) (cfg : HybridConfig)

theorem classifyHybrid_diagnostics {diagnostics : AiDiagnostics}
    (built : (classifyHybrid database providers forceDiagnosticsError input cfg).diagnostics =
      some diagnostics) :
    diagnostics.evidenceGate.decisions = gateDecisions (classify database input)
      (memoryVerdict database input cfg.memoryRules) (aiStage database providers input cfg) := by
  simp only [classifyHybrid, safeBuildAiDiagnostics] at built
  split at built
  · cases built
  · rw [← Option.some.inj built]

theorem classifyHybrid_projection {diagnostics : AiDiagnostics}
    (autoProtect : Option StoredAutoProtect)
    (built : (classifyHybrid database providers forceDiagnosticsError input cfg).diagnostics =
      some diagnostics) :
    (projectStoredClassification
      { riskLevel := (classifyHybrid database providers forceDiagnosticsError input cfg).level
        riskCategories :=
          some (classifyHybrid database providers forceDiagnosticsError input cfg).categories
        aiDiagnostics := diagnostics.toJson
        autoProtect }).state = .reviewRequired ↔
      (classifyHybrid database providers forceDiagnosticsError input cfg).requiresReview = true := by
  have decisions := classifyHybrid_diagnostics _ _ _ _ _ built
  have held := heldForReview_toJson diagnostics fun category member =>
    gateDecisions_reviewRequired (decisions ▸ member)
  have confirmed : AccusationsConfirmed
      (classifyHybrid database providers forceDiagnosticsError input cfg).categories
      (readEvidenceGateDecisions diagnostics.toJson) := by
    intro category member required
    rw [gateConfirms_toJson (accusation_ne_empty required), decisions]
    exact classifyHybrid_categories_confirmed _ _ _ _ _ member required
  rw [projectStoredClassification_reviewRequired_iff, held, decisions]
  simp only [Option.getD_some, confirmed, not_true_eq_false, or_false]
  exact (List.length_pos_iff.symm.trans decide_eq_true_iff.symm)

theorem ProjectionState.ofString?_value (state : ProjectionState) :
    ProjectionState.ofString? state.value = some state := by
  cases state <;> rfl

theorem ProjectionState.value_of_ofString? {name : String} {state : ProjectionState}
    (known : ProjectionState.ofString? name = some state) : name = state.value := by
  unfold ofString? at known
  split at known <;> cases known <;> rfl

theorem readPersistedProjection_persistedProjectionFields (row : StoredClassificationRow)
    (leveled : row.riskLevel ≠ "") :
    readPersistedProjection (persistedProjectionFields row).toRow =
      { state := (projectStoredClassification row).state
        categories := (projectStoredClassification row).categories
        riskLevel := (projectStoredClassification row).riskLevel
        requiresReanalysis := (persistedProjectionFields row).customerRequiresReanalysis
        stale := false } := by
  have current : versionCurrent (some customerProjectionVersion) = true := by decide
  have written : 0 < row.riskLevel.length := by
    rw [Nat.pos_iff_ne_zero]
    exact fun zero => leveled (String.length_eq_zero_iff.mp zero)
  have capped : 0 < (capUnconfirmed row.riskLevel).length := by
    unfold capUnconfirmed
    split
    · decide
    · exact written
  unfold readPersistedProjection persistedProjectionFields PersistedProjectionFields.toRow
  simp only [current, Option.bind_some, ProjectionState.ofString?_value, Option.getD_some]
  obtain ⟨state, categories, presented, level⟩ | ⟨state, categories, -, level⟩ |
    ⟨state, categories, level⟩ := projectStoredClassification_cases row
  · simp [state, categories, presented, level, written]
  · simp [state, categories, level, capped, capUnconfirmed_idem]
  · simp [state, categories, level, capped, capUnconfirmed_idem]

theorem readPersistedProjection_asserts {row : PersistedProjectionRow}
    (asserts : (readPersistedProjection row).categories ≠ [] ∨
      (readPersistedProjection row).riskLevel = "high" ∨
      (readPersistedProjection row).riskLevel = "critical") :
    row.customerClassificationState = some "confirmed" ∧
      versionCurrent row.customerClassificationProjectionVersion = true ∧
      ∃ categories, row.customerRiskCategories = some categories ∧ categories ≠ [] := by
  have closed : ¬ (ReadProjection.unverified.categories ≠ [] ∨
      ReadProjection.unverified.riskLevel = "high" ∨
      ReadProjection.unverified.riskLevel = "critical") := by decide
  unfold readPersistedProjection at asserts
  dsimp only at asserts
  split at asserts
  next state current known =>
    obtain ⟨name, stored, named⟩ := Option.bind_eq_some_iff.mp known
    split at asserts
    · exact absurd asserts closed
    · next consistent =>
        by_cases confirmed : state = .confirmed
        · subst confirmed
          refine ⟨stored.trans (congrArg some (ProjectionState.value_of_ofString? named)), current, ?_⟩
          cases categories : row.customerRiskCategories with
          | none => simp [categories] at consistent
          | some categories' =>
            simp only [categories, Option.getD_some, true_and] at consistent
            exact ⟨categories', rfl, fun empty => consistent (by simp [empty])⟩
        · have upper := asserts
          simp only [confirmed, if_false, ne_eq, not_true_eq_false, false_or,
            ← rank_high_le_iff] at upper
          exact absurd upper (Nat.not_le.mpr (rank_capUnconfirmed_lt _))
  next => exact absurd asserts closed

/-- The gate, the projection, the stored columns and their reading agree. -/
theorem customerProjection_agrees :
    (∀ (diagnostics : AiDiagnostics) (autoProtect : Option StoredAutoProtect),
      let result := classifyHybrid database providers forceDiagnosticsError input cfg
      let projection := projectStoredClassification
        { riskLevel := result.level
          riskCategories := some result.categories
          aiDiagnostics := diagnostics.toJson
          autoProtect }
      result.diagnostics = some diagnostics →
        (projection.state = .reviewRequired ↔ result.requiresReview = true) ∧
        (projection.state ≠ .reviewRequired →
          projection.categories = result.categories.filter fun category =>
            category ≠ "neutral" && category ≠ "positive")) ∧
    (∀ row : StoredClassificationRow, row.riskLevel ≠ "" →
      let read := readPersistedProjection (persistedProjectionFields row).toRow
      let projection := projectStoredClassification row
      read.state = projection.state ∧ read.categories = projection.categories ∧
        read.riskLevel = projection.riskLevel ∧ read.stale = false) ∧
    (∀ row : PersistedProjectionRow,
      let read := readPersistedProjection row
      read.categories ≠ [] ∨ read.riskLevel = "high" ∨ read.riskLevel = "critical" →
        row.customerClassificationState = some "confirmed" ∧
        versionCurrent row.customerClassificationProjectionVersion = true ∧
        ∃ categories, row.customerRiskCategories = some categories ∧ categories ≠ []) := by
  refine ⟨?_, ?_, fun row => readPersistedProjection_asserts⟩
  · intro diagnostics autoProtect result projection built
    refine ⟨classifyHybrid_projection _ _ _ _ _ autoProtect built, fun settled => ?_⟩
    rw [projectStoredClassification_categories _ settled, presentable]
    apply List.filter_congr
    intro category _
    simp [nonAccusatory]
  · intro row leveled read projection
    have agrees := readPersistedProjection_persistedProjectionFields row leveled
    exact ⟨congrArg ReadProjection.state agrees, congrArg ReadProjection.categories agrees,
      congrArg ReadProjection.riskLevel agrees, congrArg ReadProjection.stale agrees⟩

end Agreement

end Tamanor.Ai
