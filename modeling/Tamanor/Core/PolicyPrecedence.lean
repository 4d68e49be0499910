import Tamanor.Core.ChildSafetyPolicyProperties
import Tamanor.Core.PolicyBounds

/-! The precedence of the effects: deny over allow, a person over automation, and the highest level.
It is a matter of which rules match, and not of the order in which they are written. -/

set_option autoImplicit false

namespace Tamanor.Core

open Library

def matchedRules (input : ChildSafetyPolicyEvaluationInput) (definition : JsonValue) :
    List PolicyRule :=
  match asText (definition.field? "purpose") == some input.purpose.value,
      definition.field? "rules" with
  | true, some (.arr rules) =>
    (orderedRules rules).filter fun rule => evalNode input.facts rule.condition == some true
  | _, _ => []

def matchedEffects (input : ChildSafetyPolicyEvaluationInput) (definition : JsonValue) :
    List PolicyEffect :=
  (matchedRules input definition).flatMap PolicyRule.effects

def levelsOf (effects : List PolicyEffect) (type : PolicyEffectType) (key : String) : List String :=
  effects.filterMap fun effect => asText (effect.reads type key)

def IsHighest (order levels : List String) : Option String → Prop
  | none => levels = []
  | some top => top ∈ levels ∧ ∀ level ∈ levels, order.idxOf level ≤ order.idxOf top

def PolicyEffect.action? (effect : PolicyEffect) : Option ProposedAction :=
  if effect.type = .proposeProtectionAction then (readAction effect.payload).join else none

/-- The decision is the one that the effects ask for, in the order of precedence. -/
structure DeniesOverAllows (effects : List PolicyEffect)
    (decision : ChildSafetyPolicyEngineDecision) : Prop where
  severity : IsHighest PolicyValues.severities
    (levelsOf effects .setRecommendedSeverity "severity") decision.recommendedSeverity
  urgency : IsHighest PolicyValues.urgencies
    (levelsOf effects .setRecommendedUrgency "urgency") decision.recommendedUrgency
  level : IsHighest PolicyValues.escalationLevels
    (levelsOf effects .setEscalationLevel "level") decision.escalationLevel
  manual : (∃ effect ∈ effects, effect.isManual = true) →
    decision.allowAutomaticIntervention = false ∧ decision.automaticInterventionBounds = []
  contact : (∃ effect ∈ effects, effect.type = .prohibitGuardianContact) →
    decision.allowGuardianContactConsideration = false
  approval : ∀ action ∈ decision.proposedActions, action.requiresApproval = true ↔
    ∃ effect ∈ effects, ∃ proposed, effect.action? = some proposed ∧
      proposed.actionType = action.actionType ∧ proposed.requiresApproval = true

def NotLowered (order : List String) (first second : Option String) : Prop :=
  ∀ level, first = some level → ∃ other, second = some other ∧ order.idxOf level ≤ order.idxOf other

structure KeepsRestrictions (first second : ChildSafetyPolicyEngineDecision) : Prop where
  review : first.requireReview = true → second.requireReview = true
  supervisor : first.requireSupervisorReview = true → second.requireSupervisorReview = true
  manualOnly : first.manualOnly = true → second.manualOnly = true
  manualApproval : first.requireManualInterventionApproval = true →
    second.requireManualInterventionApproval = true
  prohibited : first.prohibitGuardianContact = true → second.prohibitGuardianContact = true
  approval : ∀ action ∈ first.proposedActions, action.requiresApproval = true →
    ∃ other ∈ second.proposedActions, other.actionType = action.actionType ∧
      other.requiresApproval = true
  severity : NotLowered PolicyValues.severities first.recommendedSeverity
    second.recommendedSeverity
  urgency : NotLowered PolicyValues.urgencies first.recommendedUrgency second.recommendedUrgency
  level : NotLowered PolicyValues.escalationLevels first.escalationLevel second.escalationLevel

/-- The rules of the second definition are those of the first one and some more, in any order. -/
def AddsRules (first second : JsonValue) (more : List JsonValue) : Prop :=
  second.field? "purpose" = first.field? "purpose" ∧
    second.field? "defaultEffect" = first.field? "defaultEffect" ∧
    ∃ rules others, first.field? "rules" = some (.arr rules) ∧
      second.field? "rules" = some (.arr others) ∧ others.Perm (rules ++ more)

theorem ranksAbove_known :
    ∀ order ∈ [PolicyValues.severities, PolicyValues.urgencies, PolicyValues.escalationLevels],
      ∀ first ∈ order, ∀ second ∈ order,
        ranksAbove order first second = decide (order.idxOf second < order.idxOf first) := by
  decide

section Levels

variable {order levels : List String} {current : Option String}
  (known : order ∈ [PolicyValues.severities, PolicyValues.urgencies,
    PolicyValues.escalationLevels])

include known

theorem isHighest_raiseTo (highest : IsHighest order levels current)
    (listed : ∀ level ∈ levels, level ∈ order) (value : Option JsonValue)
    (valueListed : ∀ level, asText value = some level → level ∈ order) :
    IsHighest order (levels ++ (asText value).toList) (raiseTo order current value) := by
  unfold raiseTo
  cases read : asText value with
  | none => simpa using highest
  | some name =>
    have nameListed := valueListed name read
    cases current with
    | none =>
      have none : levels = [] := highest
      simp [none, IsHighest]
    | some top =>
      obtain ⟨topListed, above⟩ := highest
      simp only [Option.toList_some, ranksAbove_known order known name nameListed top
        (listed top topListed), decide_eq_true_eq]
      split
      next higher =>
        refine ⟨by simp, ?_⟩
        intro level member
        rcases List.mem_append.1 member with earlier | same
        · exact (above level earlier).trans higher.le
        · rw [List.mem_singleton.1 same]
      next lower =>
        refine ⟨List.mem_append_left _ topListed, ?_⟩
        intro level member
        rcases List.mem_append.1 member with earlier | same
        · exact above level earlier
        · rw [List.mem_singleton.1 same]
          exact Nat.not_lt.1 lower

variable (levels) in
theorem foldlM_level {level : EffectMerge → Option String} {type : PolicyEffectType} {key : String}
    (step : ∀ {merge after effect}, EffectMerge.add merge effect = some after →
      level after = raiseTo order (level merge) (effect.reads type key))
    {effects : List PolicyEffect} {start merge : EffectMerge}
    (found : effects.foldlM EffectMerge.add start = some merge)
    (highest : IsHighest order levels (level start)) (listed : ∀ level ∈ levels, level ∈ order)
    (setListed : ∀ level ∈ levelsOf effects type key, level ∈ order) :
    IsHighest order (levels ++ levelsOf effects type key) (level merge) := by
  induction effects generalizing start levels with
  | nil =>
    cases found
    simpa [levelsOf] using highest
  | cons effect effects ih =>
    rw [List.foldlM_cons] at found
    obtain ⟨after, first, rest⟩ := Option.bind_eq_some_iff.1 found
    have split : levelsOf (effect :: effects) type key =
        (asText (effect.reads type key)).toList ++ levelsOf effects type key := by
      unfold levelsOf
      rw [List.filterMap_cons]
      split <;> simp [*]
    rw [split] at setListed ⊢
    obtain ⟨here, later⟩ := List.forall_mem_append.1 setListed
    have raised := isHighest_raiseTo known highest listed (effect.reads type key)
      fun level read => here level (by simp [read])
    rw [← step first] at raised
    rw [← List.append_assoc]
    exact ih _ rest raised (List.forall_mem_append.2 ⟨listed, here⟩) later

end Levels

theorem notLowered_of_highest {order levels larger : List String} {first second : Option String}
    (highest : IsHighest order levels first) (highestToo : IsHighest order larger second)
    (more : levels ⊆ larger) : NotLowered order first second := by
  rintro level rfl
  obtain ⟨member, _⟩ := highest
  cases second with
  | none =>
    have none : larger = [] := highestToo
    rw [none] at more
    cases more member
  | some top => exact ⟨top, rfl, highestToo.2 level (more member)⟩

section Actions

variable {merge after start : EffectMerge} {effect : PolicyEffect} {effects : List PolicyEffect}

theorem add_actions (found : merge.add effect = some after)
    (once : (merge.actions.map ProposedAction.actionType).Nodup) :
    (after.actions.map ProposedAction.actionType).Nodup ∧
      match effect.action? with
      | none => after.actions = merge.actions
      | some action => ∀ name,
        ((after.actions.find? fun other => other.actionType = name).map
            ProposedAction.requiresApproval) =
          if action.actionType = name then
            some (action.requiresApproval ||
              ((merge.actions.find? fun other => other.actionType = name).map
                ProposedAction.requiresApproval).getD false)
          else (merge.actions.find? fun other => other.actionType = name).map
            ProposedAction.requiresApproval := by
  obtain ⟨type, payload⟩ := effect
  cases type with
  | proposeProtectionAction =>
    change merge.propose payload = some after at found
    rw [PolicyEffect.action?, if_pos rfl]
    rcases merge.propose_eq payload with ⟨_, same⟩ | ⟨read, same⟩ | ⟨action, reason, read, same⟩
    · rw [same] at found
      cases found
    · rw [same] at found
      cases found
      rw [read]
      exact ⟨once, rfl⟩
    · rw [same] at found
      cases found
      rw [read]
      refine ⟨nodup_setIn once, fun name => ?_⟩
      rw [find?_setIn]
      by_cases here : action.actionType = name
      · rw [if_pos here, if_pos here, here]
        rfl
      · rw [if_neg here, if_neg here]
  | allowAutomaticIntervention =>
    change merge.allow payload = some after at found
    rw [EffectMerge.allow_eq] at found
    obtain ⟨read, _, rfl⟩ := Option.map_eq_some_iff.1 found
    cases read <;> exact ⟨once, rfl⟩
  | _ =>
    cases found
    exact ⟨once, rfl⟩

theorem foldlM_actions (found : effects.foldlM EffectMerge.add start = some merge)
    (empty : start.actions = []) :
    (merge.actions.map ProposedAction.actionType).Nodup ∧ ∀ name,
      ((merge.actions.find? fun other => other.actionType = name).map
          ProposedAction.requiresApproval) =
        let proposals := (effects.filterMap PolicyEffect.action?).filter fun action =>
          action.actionType = name
        if proposals = [] then none else some (proposals.any ProposedAction.requiresApproval) := by
  induction effects using List.reverseRecOn generalizing merge with
  | nil =>
    cases found
    rw [empty]
    exact ⟨List.nodup_nil, fun _ => rfl⟩
  | append_singleton effects effect ih =>
    rw [List.foldlM_append] at found
    obtain ⟨before, earlier, last⟩ := Option.bind_eq_some_iff.1 found
    rw [List.foldlM_cons] at last
    obtain ⟨_, added, rest⟩ := Option.bind_eq_some_iff.1 last
    cases rest
    obtain ⟨once, flags⟩ := ih earlier
    obtain ⟨onceAfter, change⟩ := add_actions added once
    refine ⟨onceAfter, fun name => ?_⟩
    rw [List.filterMap_append, List.filter_append]
    cases read : effect.action? with
    | none =>
      rw [read] at change
      rw [List.filterMap_cons_none read, change, flags name]
      simp only [List.filterMap_nil, List.filter_nil, List.append_nil]
    | some action =>
      rw [read] at change
      rw [List.filterMap_cons_some read, change name, flags name, List.filterMap_nil]
      by_cases here : action.actionType = name
      · simp only [here, if_true, List.filter_cons, decide_true, List.filter_nil,
          List.append_eq_nil_iff, List.cons_ne_nil, and_false, if_false, List.any_append,
          List.any_cons, List.any_nil, Bool.or_false]
        split
        next none => simp [none]
        next => simp [Bool.or_comm]
      · simp only [here, if_false, List.filter_cons, decide_false, Bool.false_eq_true,
          List.filter_nil, List.append_nil]

end Actions

structure FlagsOf (effects : List PolicyEffect) (decision : ChildSafetyPolicyEngineDecision) :
    Prop where
  review : decision.requireReview = true ↔ ∃ effect ∈ effects,
    effect.type = .requireReview ∨ effect.type = .requireSupervisorReview
  supervisor : decision.requireSupervisorReview = true ↔
    ∃ effect ∈ effects, effect.type = .requireSupervisorReview
  manualOnly : decision.manualOnly = true ↔ ∃ effect ∈ effects, effect.type = .manualOnly
  manualApproval : decision.requireManualInterventionApproval = true ↔
    ∃ effect ∈ effects, effect.type = .requireManualInterventionApproval
  prohibited : decision.prohibitGuardianContact = true ↔
    ∃ effect ∈ effects, effect.type = .prohibitGuardianContact
  proposed : ∀ effect ∈ effects, ∀ proposed, effect.action? = some proposed →
    ∃ action ∈ decision.proposedActions, action.actionType = proposed.actionType

structure LevelsKnown (effects : List PolicyEffect) : Prop where
  severity : ∀ level ∈ levelsOf effects .setRecommendedSeverity "severity",
    level ∈ PolicyValues.severities
  urgency : ∀ level ∈ levelsOf effects .setRecommendedUrgency "urgency",
    level ∈ PolicyValues.urgencies
  level : ∀ level ∈ levelsOf effects .setEscalationLevel "level",
    level ∈ PolicyValues.escalationLevels

section Merged

variable {localeLess : String → String → Bool} {purpose : ChildSafetyPolicyPurpose}
  {effects : List PolicyEffect} {decision : ChildSafetyPolicyEngineDecision}

theorem flagsOf_merged (merged : mergeEffects localeLess purpose effects = some decision) :
    FlagsOf effects decision := by
  obtain ⟨merge, found, rfl⟩ := Option.map_eq_some_iff.1 merged
  have review := foldlM_flag (fun type => type == .requireReview ||
    type == .requireSupervisorReview) (fun step => (EffectMerge.add_marked step).review) found
  have supervisor := foldlM_flag (· == .requireSupervisorReview)
    (fun step => (EffectMerge.add_marked step).supervisor) found
  have manualOnly := foldlM_flag (· == .manualOnly)
    (fun step => (EffectMerge.add_marked step).manualOnly) found
  have manualApproval := foldlM_flag (· == .requireManualInterventionApproval)
    (fun step => (EffectMerge.add_marked step).manualApproval) found
  have prohibited := foldlM_flag (· == .prohibitGuardianContact)
    (fun step => (EffectMerge.add_marked step).prohibited) found
  simp only [emptyDecision, Bool.false_eq_true, false_or, Bool.or_eq_true, beq_iff_eq] at *
  refine ⟨review, supervisor, manualOnly, manualApproval, prohibited, ?_⟩
  intro effect member proposed read
  obtain ⟨_, flags⟩ := foldlM_actions found rfl
  have here := flags proposed.actionType
  have inside : proposed ∈ (effects.filterMap PolicyEffect.action?).filter fun action =>
      action.actionType = proposed.actionType :=
    List.mem_filter.2 ⟨List.mem_filterMap.2 ⟨effect, member, read⟩, decide_eq_true rfl⟩
  dsimp only at here
  rw [if_neg (List.ne_nil_of_mem inside)] at here
  obtain ⟨action, isFound, _⟩ := Option.map_eq_some_iff.1 here
  have same : action.actionType = proposed.actionType := by simpa using List.find?_some isFound
  exact ⟨action, (List.perm_insertionSort _ _).mem_iff.2 (List.mem_of_find?_eq_some isFound), same⟩

theorem deniesOverAllows_merged (known : LevelsKnown effects)
    (merged : mergeEffects localeLess purpose effects = some decision) :
    DeniesOverAllows effects decision := by
  have flags := flagsOf_merged merged
  have bounds := bounds_of_merged merged
  obtain ⟨merge, found, rfl⟩ := Option.map_eq_some_iff.1 merged
  obtain ⟨once, approvals⟩ := foldlM_actions found rfl
  refine ⟨?_, ?_, ?_, ?_, ?_, ?_⟩
  · exact foldlM_level [] (by simp)
      (fun step => (EffectMerge.add_marked step).severity) found rfl nofun known.severity
  · exact foldlM_level [] (by simp)
      (fun step => (EffectMerge.add_marked step).urgency) found rfl nofun known.urgency
  · exact foldlM_level [] (by simp)
      (fun step => (EffectMerge.add_marked step).level) found rfl nofun known.level
  · intro manual
    refine ⟨?_, (bounds.resolve_right fun ⟨automatic, _⟩ => automatic manual).2⟩
    obtain ⟨effect, member, isManual⟩ := manual
    have set : (merge.decision.manualOnly ||
        merge.decision.requireManualInterventionApproval) = true := by
      simp only [PolicyEffect.isManual, Bool.or_eq_true, beq_iff_eq] at isManual
      rw [Bool.or_eq_true]
      exact isManual.imp (fun same => flags.manualOnly.2 ⟨effect, member, same⟩)
        fun same => flags.manualApproval.2 ⟨effect, member, same⟩
    unfold EffectMerge.finish
    dsimp only
    rw [set]
    rfl
  · intro prohibits
    have set : merge.decision.prohibitGuardianContact = true := flags.prohibited.2 prohibits
    unfold EffectMerge.finish
    dsimp only
    rw [set]
    rfl
  · intro action member
    have inside : action ∈ merge.actions := (List.perm_insertionSort _ _).mem_iff.1 member
    have here := approvals action.actionType
    rw [(find?_key_iff (List.inj_on_of_nodup_map once)).2 ⟨inside, rfl⟩, Option.map_some] at here
    dsimp only at here
    split at here
    · cases here
    · rw [Option.some.inj here]
      simp only [List.any_eq_true, List.mem_filter, List.mem_filterMap, decide_eq_true_eq]
      constructor
      · rintro ⟨proposed, ⟨⟨effect, there, read⟩, same⟩, needs⟩
        exact ⟨effect, there, proposed, read, same, needs⟩
      · rintro ⟨effect, there, proposed, read, same, needs⟩
        exact ⟨proposed, ⟨⟨effect, there, read⟩, same⟩, needs⟩

end Merged

/-! The effects of a valid definition. -/

def PolicyEffect.Checked (effect : PolicyEffect) : Prop :=
  effectPayloadSpec effect.type effect.payload = []

theorem stringOr_text {payload : JsonValue} {key : String} {values : List String}
    (clean : enumKey payload key values = []) (fallback : String) :
    ∃ text ∈ values, payload.field? key = some (.str text) ∧
      stringOr fallback (payload.field? key) = some text := by
  obtain ⟨_, found, text, member, rfl⟩ := oneOf_of_enumKey clean
  refine ⟨text, member, found, ?_⟩
  rw [found, stringOr, Json.display, Option.map_some, String.ofList_toList]
  intro same
  cases same

theorem readPrerequisites_isSome {items : List JsonValue}
    (texts : ∀ item ∈ items, ∃ text, item = .str text) :
    (readPrerequisites (some (.arr items))).isSome = true := by
  have reads : (items.mapM fun (item : JsonValue) =>
      item.display.map String.ofList).isSome = true := by
    induction items with
    | nil => rfl
    | cons item rest ih =>
      obtain ⟨⟨text, rfl⟩, others⟩ := List.forall_mem_cons.1 texts
      obtain ⟨read, same⟩ := Option.isSome_iff_exists.1 (ih others)
      rw [List.mapM_cons, same, Json.display]
      rfl
  rw [readPrerequisites, Option.isSome_map]
  exact reads

theorem PolicyEffect.Checked.readable {effect : PolicyEffect} (checked : effect.Checked) :
    effect.readable = true := by
  obtain ⟨type, payload⟩ := effect
  unfold PolicyEffect.Checked at checked
  cases type with
  | proposeProtectionAction =>
    simp only [effectPayloadSpec, List.append_eq_nil_iff] at checked
    obtain ⟨_, action, reason, _⟩ := checked
    obtain ⟨text, _, _, read⟩ := stringOr_text action ""
    obtain ⟨_, found, code, rfl, _⟩ := reasonCode_of_clean reason
    change (readAction payload).isSome = true
    rw [readAction, read, found]
    simp only [Option.bind_eq_bind, Option.bind_some]
    split
    · rfl
    · rw [stringOr, Json.display]
      · rfl
      · intro same
        cases same
  | allowAutomaticIntervention =>
    simp only [effectPayloadSpec, List.append_eq_nil_iff] at checked
    obtain ⟨_, intervention, severity, urgency, prerequisites⟩ := checked
    obtain ⟨_, _, _, readType⟩ := stringOr_text intervention ""
    obtain ⟨_, _, _, readSeverity⟩ := stringOr_text severity "low"
    obtain ⟨_, _, _, readUrgency⟩ := stringOr_text urgency "routine"
    obtain ⟨_, found, items, rfl, _, texts⟩ := prerequisites_of_clean prerequisites
    obtain ⟨names, readNames⟩ := Option.isSome_iff_exists.1
      (readPrerequisites_isSome fun item member => (texts item member).imp fun _ => And.left)
    change (readBound payload).isSome = true
    rw [readBound, readType, readSeverity, readUrgency, found, readNames]
    simp only [Option.bind_eq_bind, Option.bind_some]
    split <;> rfl
  | _ => rfl

variable {effects : List PolicyEffect} {rule : JsonValue}

theorem levelsKnown_of_checked (checked : ∀ effect ∈ effects, effect.Checked) :
    LevelsKnown effects := by
  have known {type : PolicyEffectType} {key : String} {values : List String}
      (prescribed : ∀ payload, effectPayloadSpec type payload = [] →
        enumKey payload key values = []) :
      ∀ level ∈ levelsOf effects type key, level ∈ values := by
    intro level member
    obtain ⟨effect, inside, read⟩ := List.mem_filterMap.1 member
    by_cases same : effect.type = type
    · have spec := checked effect inside
      rw [PolicyEffect.Checked, same] at spec
      obtain ⟨text, listed, found, _⟩ := stringOr_text (prescribed _ spec) ""
      rw [PolicyEffect.reads, if_pos same, found] at read
      cases read
      exact listed
    · rw [PolicyEffect.reads, if_neg same] at read
      cases read
  constructor
  · exact known fun payload clean => (List.append_eq_nil_iff.1 clean).2
  · exact known fun payload clean => (List.append_eq_nil_iff.1 clean).2
  · exact known fun payload clean => (List.append_eq_nil_iff.1 clean).2

theorem checked_of_clean {fields : PolicyFields} (clean : RuleClean fields rule) :
    ∀ effect ∈ (readRule rule).effects, effect.Checked := by
  obtain ⟨name, items, written, each⟩ := clean.effects
  intro effect member
  change effect ∈ readEffects (rule.field? "effects") at member
  rw [written, readEffects] at member
  obtain ⟨item, inside, read⟩ := List.mem_filterMap.1 member
  obtain ⟨type, known, rfl⟩ := Option.map_eq_some_iff.1 read
  obtain ⟨index, noErrors⟩ := each item inside
  unfold effectErrors at noErrors
  dsimp only at noErrors
  rw [known] at noErrors
  exact List.map_eq_nil_iff.1 noErrors

theorem bare_effect (type : PolicyEffectType) :
    (⟨type, .obj []⟩ : PolicyEffect).readable = true ∧
      (⟨type, .obj []⟩ : PolicyEffect).action? = none ∧
      ∀ other key, (⟨type, .obj []⟩ : PolicyEffect).reads other key = none := by
  refine ⟨?_, ?_, ?_⟩
  · cases type <;> rfl
  · cases type <;> rfl
  · intro other key
    unfold PolicyEffect.reads
    split <;> rfl

theorem LevelsKnown.append_bare {bare : List PolicyEffect} (known : LevelsKnown effects)
    (isBare : ∀ effect ∈ bare, ∃ type, effect = ⟨type, .obj []⟩) :
    LevelsKnown (effects ++ bare) := by
  have levels (type : PolicyEffectType) (key : String) : levelsOf bare type key = [] := by
    rw [levelsOf, List.filterMap_eq_nil_iff]
    intro effect member
    obtain ⟨other, rfl⟩ := isBare effect member
    rw [(bare_effect other).2.2]
    rfl
  constructor
  all_goals rw [levelsOf, List.filterMap_append, ← levelsOf, ← levelsOf, levels, List.append_nil]
  · exact known.severity
  · exact known.urgency
  · exact known.level

theorem DeniesOverAllows.without_bare {bare : List PolicyEffect}
    {decision : ChildSafetyPolicyEngineDecision}
    (denies : DeniesOverAllows (effects ++ bare) decision)
    (isBare : ∀ effect ∈ bare, ∃ type, effect = ⟨type, .obj []⟩) :
    DeniesOverAllows effects decision := by
  have levels (type : PolicyEffectType) (key : String) :
      levelsOf (effects ++ bare) type key = levelsOf effects type key := by
    have none : levelsOf bare type key = [] := by
      rw [levelsOf, List.filterMap_eq_nil_iff]
      intro effect member
      obtain ⟨other, rfl⟩ := isBare effect member
      rw [(bare_effect other).2.2]
      rfl
    rw [levelsOf, List.filterMap_append]
    exact (congrArg _ none).trans (List.append_nil _)
  refine ⟨levels .. ▸ denies.severity, levels .. ▸ denies.urgency, levels .. ▸ denies.level,
    ?_, ?_, ?_⟩
  · rintro ⟨effect, member, manual⟩
    exact denies.manual ⟨effect, List.mem_append_left _ member, manual⟩
  · rintro ⟨effect, member, prohibits⟩
    exact denies.contact ⟨effect, List.mem_append_left _ member, prohibits⟩
  · intro action member
    rw [denies.approval action member]
    constructor
    · rintro ⟨effect, inside, proposed, read, rest⟩
      rcases List.mem_append.1 inside with here | there
      · exact ⟨effect, here, proposed, read, rest⟩
      · obtain ⟨type, rfl⟩ := isBare effect there
        rw [(bare_effect type).2.1] at read
        cases read
    · rintro ⟨effect, inside, rest⟩
      exact ⟨effect, List.mem_append_left _ inside, rest⟩

mutual

theorem evalNode_isSome (facts : Facts) (node : PolicyNode) (grouped : node.wellGrouped)
    (keys : ∀ leaf ∈ node.leaves, (propertyKey leaf.field).isSome = true) :
    (evalNode facts node).isSome = true := by
  cases node with
  | bare isNull => exact grouped.elim
  | leaf field operator value =>
    rw [evalNode, evalLeaf, Option.isSome_map]
    exact keys ⟨field, operator, value⟩ (List.mem_singleton_self _)
  | group kind nodes =>
    rw [evalNode]
    split
    · rfl
    · split
      · exact evalEvery_isSome facts nodes grouped.2.2 keys
      · exact evalSome_isSome facts nodes grouped.2.2 keys

theorem evalEvery_isSome (facts : Facts) (nodes : List PolicyNode)
    (grouped : PolicyNode.allWellGrouped nodes)
    (keys : ∀ leaf ∈ PolicyNode.leavesOf nodes, (propertyKey leaf.field).isSome = true) :
    (evalEvery facts nodes).isSome = true := by
  cases nodes with
  | nil => rfl
  | cons node rest =>
    obtain ⟨first, others⟩ := List.forall_mem_append.1 keys
    obtain ⟨holds, found⟩ := Option.isSome_iff_exists.1 (evalNode_isSome facts node grouped.1 first)
    rw [evalEvery, found, Option.bind_some]
    split
    · exact evalEvery_isSome facts rest grouped.2 others
    · rfl

theorem evalSome_isSome (facts : Facts) (nodes : List PolicyNode)
    (grouped : PolicyNode.allWellGrouped nodes)
    (keys : ∀ leaf ∈ PolicyNode.leavesOf nodes, (propertyKey leaf.field).isSome = true) :
    (evalSome facts nodes).isSome = true := by
  cases nodes with
  | nil => rfl
  | cons node rest =>
    obtain ⟨first, others⟩ := List.forall_mem_append.1 keys
    obtain ⟨holds, found⟩ := Option.isSome_iff_exists.1 (evalNode_isSome facts node grouped.1 first)
    rw [evalSome, found, Option.bind_some]
    split
    · rfl
    · exact evalSome_isSome facts rest grouped.2 others

end

theorem condition_isSome {fields : PolicyFields} (clean : RuleClean fields rule) (facts : Facts) :
    (evalNode facts (readRule rule).condition).isSome = true := by
  obtain ⟨name, condition, after, written, walked⟩ := clean.condition
  have node := walk_clean _ _ _ walked
  rw [readRule_condition written]
  refine evalNode_isSome facts _ node.groups ?_
  intro leaf member
  have errors := node.leaves leaf member
  obtain ⟨key, isKey, _⟩ := Option.map_eq_some_iff.1 errors
  rw [isKey]
  rfl

theorem eq_of_ruleId {rules : List JsonValue} {ids : List String}
    (reads : rules.map (fun rule => asText (rule.field? "id")) = ids.map some)
    (distinct : ids.Nodup) {other : JsonValue} (member : rule ∈ rules) (listed : other ∈ rules)
    (same : (readRule rule).id = (readRule other).id) : rule = other := by
  have once : (rules.map fun rule => asText (rule.field? "id")).Nodup := by
    rw [reads]
    exact distinct.map (Option.some_injective _)
  have some_id {rule : JsonValue} (inside : rule ∈ rules) :
      asText (rule.field? "id") = some (readRule rule).id := by
    have read := List.mem_map_of_mem (f := fun rule => asText (rule.field? "id")) inside
    rw [reads, List.mem_map] at read
    obtain ⟨id, _, same⟩ := read
    change _ = some ((asText (rule.field? "id")).getD "")
    rw [← same]
    rfl
  refine List.inj_on_of_nodup_map once member listed ?_
  rw [some_id member, some_id listed, same]

theorem orderedRules_perm {rules others : List JsonValue} {ids : List String}
    (reads : rules.map (fun rule => asText (rule.field? "id")) = ids.map some)
    (distinct : ids.Nodup) (perm : others.Perm rules) :
    orderedRules others = orderedRules rules := by
  let before (first second : PolicyRule) : Prop := first.runsBefore second = true
  have iff (first second : PolicyRule) : before first second ↔ first.priority < second.priority ∨
      first.priority = second.priority ∧ Json.precedes (Text.codeUnits first.id.toList)
        (Text.codeUnits second.id.toList) = true := by
    simp [before, PolicyRule.runsBefore]
  have : Std.Total before := ⟨fun first second => by
    rw [iff, iff]
    rcases lt_trichotomy first.priority second.priority with less | same | greater
    · exact .inl (.inl less)
    · exact (Json.precedes_total _ _).imp (fun order => .inr ⟨same, order⟩)
        fun order => .inr ⟨same.symm, order⟩
    · exact .inr (.inl greater)⟩
  have : IsTrans PolicyRule before := ⟨fun first second third => by
    rw [iff, iff, iff]
    rintro (less | ⟨same, order⟩) (less' | ⟨same', order'⟩)
    · exact .inl (less.trans less')
    · exact .inl (same' ▸ less)
    · exact .inl (same ▸ less')
    · exact .inr ⟨same.trans same', Json.precedes_trans order order'⟩⟩
  unfold orderedRules
  refine List.Perm.eq_of_pairwise ?_ (List.pairwise_insertionSort before _)
    (List.pairwise_insertionSort before _) ?_
  · intro first second member there order order'
    rw [List.mem_insertionSort, List.mem_filter, List.mem_map] at member there
    obtain ⟨⟨wrote, listed, rfl⟩, _⟩ := member
    obtain ⟨⟨wroteToo, listedToo, rfl⟩, _⟩ := there
    rw [iff] at order order'
    have ids : (readRule wrote).id = (readRule wroteToo).id := by
      rcases order with less | ⟨same, order⟩
      · rcases order' with less' | ⟨same, _⟩
        · exact absurd less' less.asymm
        · exact absurd same less.ne'
      · rcases order' with less' | ⟨_, order'⟩
        · exact absurd same less'.ne'
        · exact String.toList_injective (Text.codeUnits_injective
            (Json.precedes_antisymm order order'))
    rw [eq_of_ruleId reads distinct (perm.mem_iff.1 listed) listedToo ids]
  · exact (List.perm_insertionSort _ _).trans
      (((perm.map readRule).filter _).trans (List.perm_insertionSort _ _).symm)

theorem run_matches (facts : Facts) (rules : List PolicyRule) (start : Matches)
    (total : ∀ rule ∈ rules, (evalNode facts rule.condition).isSome = true) :
    ∃ found, rules.foldlM (Matches.run facts) start = some found ∧
      found.matchedRuleIds = start.matchedRuleIds ++ (rules.filter fun rule =>
        evalNode facts rule.condition == some true).map PolicyRule.id ∧
      found.collected = start.collected ++ (rules.filter fun rule =>
        evalNode facts rule.condition == some true).flatMap PolicyRule.effects := by
  induction rules generalizing start with
  | nil => exact ⟨start, rfl, by simp, by simp⟩
  | cons rule rest ih =>
    obtain ⟨here, others⟩ := List.forall_mem_cons.1 total
    obtain ⟨holds, evaluated⟩ := Option.isSome_iff_exists.1 here
    rw [List.foldlM_cons, Matches.run, evaluated, List.filter_cons, evaluated]
    cases holds with
    | false =>
      obtain ⟨found, ran, ids, effects⟩ := ih { start with
        unmatchedRuleIds := start.unmatchedRuleIds ++ [rule.id] } others
      exact ⟨found, ran, ids, effects⟩
    | true =>
      obtain ⟨found, ran, ids, effects⟩ := ih { start with
        matchedRuleIds := start.matchedRuleIds ++ [rule.id]
        explanationCodes :=
          if start.explanationCodes.contains rule.explanationCode then start.explanationCodes
          else start.explanationCodes ++ [rule.explanationCode]
        collected := start.collected ++ rule.effects } others
      refine ⟨found, ran, ?_, ?_⟩
      · rw [ids]
        simp
      · rw [effects]
        simp

section Evaluation

variable {localeLess : String → String → Bool} {input : ChildSafetyPolicyEvaluationInput}
  {definition larger : JsonValue}

/-- A valid definition is evaluated: it is for another purpose and fails closed, or the effects of
the rules that match are merged, with the default effect where there are none. -/
theorem evaluate_of_valid (localeLess : String → String → Bool)
    (input : ChildSafetyPolicyEvaluationInput)
    (valid : isValidPolicyDefinition definition = true) :
    ∃ result, evaluateChildSafetyPolicy localeLess input definition = some result ∧
      result.matchedRuleIds = (matchedRules input definition).map PolicyRule.id ∧
      (∀ effect ∈ matchedEffects input definition, effect.Checked) ∧
      ((matchedRules input definition = [] ∧ result.decision = (failClosedDecision input.purpose
          "policy_purpose_mismatch" input.evaluatedAt "").decision) ∨
        ∃ bare : List PolicyEffect, (∀ effect ∈ bare, ∃ type, effect = ⟨type, .obj []⟩) ∧
          (matchedRules input definition ≠ [] → bare = []) ∧
          mergeEffects localeLess input.purpose (matchedEffects input definition ++ bare) =
            some result.decision) := by
  obtain ⟨purpose, rules, clean⟩ := definition_of_valid valid
  unfold evaluateChildSafetyPolicy matchedEffects matchedRules
  dsimp only
  rw [clean.written]
  cases ours : asText (definition.field? "purpose") == some input.purpose.value with
  | false => exact ⟨_, rfl, rfl, nofun, .inl ⟨rfl, rfl⟩⟩
  | true =>
    have fromRules {rule : PolicyRule} (member : rule ∈ orderedRules rules) :
        (evalNode input.facts rule.condition).isSome = true ∧
          ∀ effect ∈ rule.effects, effect.Checked := by
      obtain ⟨written, listed, rfl⟩ := mem_orderedRules member
      exact ⟨condition_isSome (clean.clean written listed) _,
        checked_of_clean (clean.clean written listed)⟩
    obtain ⟨found, ran, ids, effects⟩ := run_matches input.facts (orderedRules rules)
      ⟨[], [], [], []⟩ fun rule member => (fromRules member).1
    dsimp only
    rw [ran]
    rw [List.nil_append] at ids effects
    have checked : ∀ effect ∈ ((orderedRules rules).filter fun rule =>
        evalNode input.facts rule.condition == some true).flatMap PolicyRule.effects,
        effect.Checked := by
      intro effect member
      obtain ⟨rule, inside, there⟩ := List.mem_flatMap.1 member
      exact (fromRules (List.mem_filter.1 inside).1).2 effect there
    have collected : ∃ bare : List PolicyEffect,
        (∀ effect ∈ bare, ∃ type, effect = ⟨type, .obj []⟩) ∧
        (found.matchedRuleIds ≠ [] → bare = []) ∧
        (found.orDefault (definition.field? "defaultEffect")).matchedRuleIds =
          found.matchedRuleIds ∧
        (found.orDefault (definition.field? "defaultEffect")).collected =
          found.collected ++ bare := by
      unfold Matches.orDefault
      split
      next none =>
        refine ⟨_, ?_, ?_, rfl, rfl⟩
        · intro effect member
          obtain ⟨type, _, same⟩ := Option.map_eq_some_iff.1 (Option.mem_toList.1 member)
          exact ⟨type, same.symm⟩
        · intro some
          exact absurd (List.isEmpty_iff.1 none) some
      next => exact ⟨[], nofun, fun _ => rfl, rfl, (List.append_nil _).symm⟩
    obtain ⟨bare, isBare, onlyIfNone, kept, all⟩ := collected
    have readable : ∀ effect ∈ found.collected ++ bare, effect.readable = true := by
      intro effect member
      rcases List.mem_append.1 member with here | there
      · exact (checked effect (effects ▸ here)).readable
      · obtain ⟨type, rfl⟩ := isBare effect there
        exact (bare_effect type).1
    obtain ⟨decision, merged⟩ := merged_of_readable localeLess input.purpose readable
    refine ⟨_, by rw [Option.bind_eq_bind, Option.bind_some, all, merged]; rfl, ?_, checked,
      .inr ⟨bare, isBare, ?_, ?_⟩⟩
    · rw [← ids, ← kept]
    · intro some
      exact onlyIfNone (by simpa [ids] using some)
    · rw [← effects]
      exact merged

theorem mem_matchedRules {rules : List JsonValue}
    (written : definition.field? "rules" = some (.arr rules)) {rule : PolicyRule} :
    rule ∈ matchedRules input definition ↔
      (asText (definition.field? "purpose") == some input.purpose.value) = true ∧
        (∃ source ∈ rules, rule = readRule source) ∧ rule.enabled = true ∧
          evalNode input.facts rule.condition = some true := by
  unfold matchedRules
  rw [written]
  cases asText (definition.field? "purpose") == some input.purpose.value with
  | false => simp
  | true =>
    simp only [orderedRules, List.mem_filter, List.mem_insertionSort, List.mem_map, beq_iff_eq,
      true_and, and_assoc, eq_comm (a := rule)]

theorem evaluate_congr {rules others : List JsonValue}
    (purpose : larger.field? "purpose" = definition.field? "purpose")
    (byDefault : larger.field? "defaultEffect" = definition.field? "defaultEffect")
    (written : definition.field? "rules" = some (.arr rules))
    (otherWritten : larger.field? "rules" = some (.arr others))
    (same : orderedRules others = orderedRules rules) :
    evaluateChildSafetyPolicy localeLess input larger =
      evaluateChildSafetyPolicy localeLess input definition := by
  unfold evaluateChildSafetyPolicy
  dsimp only
  rw [purpose, byDefault, written, otherWritten]
  cases asText (definition.field? "purpose") == some input.purpose.value with
  | false => rfl
  | true =>
    dsimp only
    rw [same]

variable (input) in
theorem matchedRules_subset {more : List JsonValue} (adds : AddsRules definition larger more) :
    matchedRules input definition ⊆ matchedRules input larger := by
  obtain ⟨purpose, _, rules, others, written, otherWritten, perm⟩ := adds
  intro rule member
  rw [mem_matchedRules written] at member
  obtain ⟨ours, ⟨source, listed, same⟩, rest⟩ := member
  rw [mem_matchedRules otherWritten, purpose]
  exact ⟨ours, ⟨source, perm.mem_iff.2 (List.mem_append_left _ listed), same⟩, rest⟩

theorem keepsRestrictions_of_subset {purpose : ChildSafetyPolicyPurpose}
    {effects more : List PolicyEffect} {first second : ChildSafetyPolicyEngineDecision}
    (subset : effects ⊆ more) (known : LevelsKnown effects) (knownMore : LevelsKnown more)
    (merged : mergeEffects localeLess purpose effects = some first)
    (mergedMore : mergeEffects localeLess purpose more = some second) :
    KeepsRestrictions first second := by
  have flags := flagsOf_merged merged
  have flagsMore := flagsOf_merged mergedMore
  have denies := deniesOverAllows_merged known merged
  have deniesMore := deniesOverAllows_merged knownMore mergedMore
  have kept {P : PolicyEffect → Prop} :
      (∃ effect ∈ effects, P effect) → ∃ effect ∈ more, P effect := by
    rintro ⟨effect, member, holds⟩
    exact ⟨effect, subset member, holds⟩
  refine ⟨?_, ?_, ?_, ?_, ?_, ?_, ?_, ?_, ?_⟩
  · exact fun set => flagsMore.review.2 (kept (flags.review.1 set))
  · exact fun set => flagsMore.supervisor.2 (kept (flags.supervisor.1 set))
  · exact fun set => flagsMore.manualOnly.2 (kept (flags.manualOnly.1 set))
  · exact fun set => flagsMore.manualApproval.2 (kept (flags.manualApproval.1 set))
  · exact fun set => flagsMore.prohibited.2 (kept (flags.prohibited.1 set))
  · intro action member needs
    obtain ⟨effect, inside, proposed, read, same, flag⟩ := (denies.approval action member).1 needs
    obtain ⟨other, there, otherSame⟩ := flagsMore.proposed effect (subset inside) proposed read
    exact ⟨other, there, otherSame.trans same, (deniesMore.approval other there).2
      ⟨effect, subset inside, proposed, read, otherSame.symm, flag⟩⟩
  · exact notLowered_of_highest denies.severity deniesMore.severity
      (List.filterMap_subset _ subset)
  · exact notLowered_of_highest denies.urgency deniesMore.urgency
      (List.filterMap_subset _ subset)
  · exact notLowered_of_highest denies.level deniesMore.level (List.filterMap_subset _ subset)

/-- Deny over allow: the decision on a valid definition is what the matched effects ask for, the
order of the rules does not matter, and more rules never take a restriction away. -/
theorem evaluate_denyOverAllow (localeLess : String → String → Bool)
    (input : ChildSafetyPolicyEvaluationInput) (definition : JsonValue)
    (valid : isValidPolicyDefinition definition = true) :
    ∃ result, evaluateChildSafetyPolicy localeLess input definition = some result ∧
      result.matchedRuleIds = (matchedRules input definition).map PolicyRule.id ∧
      DeniesOverAllows (matchedEffects input definition) result.decision ∧
      (∀ other, AddsRules definition other [] →
        evaluateChildSafetyPolicy localeLess input other = some result) ∧
      ∀ larger more, AddsRules definition larger more → isValidPolicyDefinition larger = true →
        matchedRules input definition ≠ [] →
          ∃ largerResult, evaluateChildSafetyPolicy localeLess input larger = some largerResult ∧
            KeepsRestrictions result.decision largerResult.decision := by
  obtain ⟨result, evaluated, ids, checked, decided⟩ := evaluate_of_valid localeLess input valid
  refine ⟨result, evaluated, ids, ?_, ?_, ?_⟩
  · rcases decided with ⟨none, same⟩ | ⟨bare, isBare, _, merged⟩
    · rw [matchedEffects, none, same]
      exact ⟨rfl, rfl, rfl, nofun, nofun, nofun⟩
    · have known := (levelsKnown_of_checked checked).append_bare isBare
      exact (deniesOverAllows_merged known merged).without_bare isBare
  · rintro other ⟨purpose, byDefault, rules, others, written, otherWritten, perm⟩
    obtain ⟨_, _, clean⟩ := definition_of_valid valid
    obtain ⟨texts, reads, distinct⟩ := clean.ids
    have same := clean.written
    rw [written] at same
    cases same
    rw [List.append_nil] at perm
    rw [evaluate_congr purpose byDefault written otherWritten
      (orderedRules_perm reads distinct perm), evaluated]
  · intro larger more adds validLarger matched
    obtain ⟨largerResult, largerEvaluated, _, largerChecked, largerDecided⟩ :=
      evaluate_of_valid localeLess input validLarger
    have subset := matchedRules_subset input adds
    obtain ⟨rule, member⟩ := List.exists_mem_of_ne_nil _ matched
    have largerMatched : matchedRules input larger ≠ [] := List.ne_nil_of_mem (subset member)
    refine ⟨largerResult, largerEvaluated, ?_⟩
    rcases decided with ⟨none, _⟩ | ⟨bare, _, noBare, merged⟩
    · exact absurd none matched
    rcases largerDecided with ⟨none, _⟩ | ⟨largerBare, _, noLargerBare, largerMerged⟩
    · exact absurd none largerMatched
    rw [noBare matched, List.append_nil] at merged
    rw [noLargerBare largerMatched, List.append_nil] at largerMerged
    refine keepsRestrictions_of_subset ?_ (levelsKnown_of_checked checked)
      (levelsKnown_of_checked largerChecked) merged largerMerged
    intro effect member
    obtain ⟨source, inside, there⟩ := List.mem_flatMap.1 member
    exact List.mem_flatMap.2 ⟨source, subset inside, there⟩

def severityRule (id effect : String) : JsonValue :=
  .obj
    [("id", .str id), ("priority", .num schemaVersionNumber), ("enabled", .bool true),
      ("explanationCode", .str "severity_known"),
      ("condition", .obj [("field", .str "severity"), ("operator", .str "EXISTS")]),
      ("effects", .arr [.obj [("type", .str effect)]])]

def severityPolicy (rules : List JsonValue) : JsonValue :=
  .obj
    [("schemaVersion", .num schemaVersionNumber), ("purpose", .str "ESCALATION"),
      ("defaultEffect", .str "NO_ACTION"), ("rules", .arr rules)]

def severityInput : ChildSafetyPolicyEvaluationInput where
  purpose := .escalation
  facts := fun name => if name = "severity" then some (.json (.str "high")) else none
  evaluatedAt := "2026-01-01T00:00:00.000Z"
  includeUnmatched := false

def contactRules : List JsonValue :=
  [severityRule "allow" "ALLOW_GUARDIAN_CONTACT_CONSIDERATION",
    severityRule "deny" "PROHIBIT_GUARDIAN_CONTACT"]

theorem contactRules_valid :
    isValidPolicyDefinition (severityPolicy contactRules) = true ∧
      isValidPolicyDefinition
        (severityPolicy (severityRule "manual" "MANUAL_ONLY" :: contactRules)) = true ∧
      (matchedRules severityInput (severityPolicy contactRules)).map PolicyRule.id =
        ["allow", "deny"] ∧
      (matchedEffects severityInput (severityPolicy contactRules)).any
        (fun effect => effect.type == .prohibitGuardianContact) = true := by
  decide +kernel

/-- Both rules match, the prohibition holds, and it stays when a third rule is put first. -/
theorem evaluate_denyOverAllow_contact :
    ∃ result larger,
      evaluateChildSafetyPolicy (fun left right => decide (left < right)) severityInput
        (severityPolicy contactRules) = some result ∧
      result.matchedRuleIds = ["allow", "deny"] ∧
      result.decision.allowGuardianContactConsideration = false ∧
      evaluateChildSafetyPolicy (fun left right => decide (left < right)) severityInput
        (severityPolicy (severityRule "manual" "MANUAL_ONLY" :: contactRules)) = some larger ∧
      KeepsRestrictions result.decision larger.decision := by
  obtain ⟨valid, validLarger, ids, prohibits⟩ := contactRules_valid
  obtain ⟨result, evaluated, matched, denies, _, adds⟩ := evaluate_denyOverAllow
    (fun left right => decide (left < right)) severityInput (severityPolicy contactRules) valid
  have some_ : matchedRules severityInput (severityPolicy contactRules) ≠ [] := by
    intro none
    rw [none] at ids
    cases ids
  obtain ⟨larger, evaluatedLarger, keeps⟩ := adds
    (severityPolicy (severityRule "manual" "MANUAL_ONLY" :: contactRules))
    [severityRule "manual" "MANUAL_ONLY"]
    ⟨rfl, rfl, _, _, rfl, rfl, (List.perm_append_singleton _ _).symm⟩ validLarger some_
  obtain ⟨effect, member, same⟩ := List.any_eq_true.mp prohibits
  exact ⟨result, larger, evaluated, matched.trans ids,
    denies.contact ⟨effect, member, eq_of_beq same⟩, evaluatedLarger, keeps⟩

end Evaluation

end Tamanor.Core
