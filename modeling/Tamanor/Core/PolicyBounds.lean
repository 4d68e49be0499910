import Tamanor.Core.PolicyMerge

/-! The bounds of automatic interventions. They are merged by overwriting: the last effect for a
type decides alone, whatever the ones before it allow. -/

set_option autoImplicit false

namespace Tamanor.Core

open Library

def PolicyEffect.bound? (effect : PolicyEffect) : Option AutomaticInterventionBound :=
  if effect.type = .allowAutomaticIntervention then (readBound effect.payload).join else none

/-- Merging the effect does not throw. -/
def PolicyEffect.readable (effect : PolicyEffect) : Bool :=
  match effect.type with
  | .proposeProtectionAction => (readAction effect.payload).isSome
  | .allowAutomaticIntervention => (readBound effect.payload).isSome
  | _ => true

def PolicyEffect.isManual (effect : PolicyEffect) : Bool :=
  effect.type == .manualOnly || effect.type == .requireManualInterventionApproval

/-- The merged bounds are as strict as every effect asks for, and do not depend on the order of the
effects. -/
structure BoundsConservative (localeLess : String → String → Bool)
    (purpose : ChildSafetyPolicyPurpose) (effects : List PolicyEffect) : Prop where
  safer : ∀ decision, mergeEffects localeLess purpose effects = some decision →
    ∀ bound ∈ decision.automaticInterventionBounds, ∀ effect ∈ effects, ∀ other,
      effect.bound? = some other → other.interventionType = bound.interventionType →
        ranksAbove PolicyValues.severities bound.maxSeverity other.maxSeverity = false ∧
          ranksAbove PolicyValues.urgencies bound.maxUrgency other.maxUrgency = false ∧
          other.prerequisites ⊆ bound.prerequisites
  orderFree : ∀ other, other.Perm effects → ∀ first second,
    mergeEffects localeLess purpose effects = some first →
      mergeEffects localeLess purpose other = some second → ∀ name,
        (second.automaticInterventionBounds.find? fun bound => bound.interventionType = name) =
          first.automaticInterventionBounds.find? fun bound => bound.interventionType = name

/-- Nothing is merged, nothing is automatic, or all effects for a type say the same. -/
def BoundsAgree (effects : List PolicyEffect) : Prop :=
  (∃ effect ∈ effects, effect.readable = false) ∨ (∃ effect ∈ effects, effect.isManual = true) ∨
    ∀ first ∈ effects, ∀ second ∈ effects, ∀ bound other,
      first.bound? = some bound → second.bound? = some other →
        bound.interventionType = other.interventionType → bound = other

section Merge

variable {merge after start : EffectMerge} {effect : PolicyEffect} {effects : List PolicyEffect}

theorem add_isSome (merge : EffectMerge) (effect : PolicyEffect) :
    (merge.add effect).isSome = effect.readable := by
  obtain ⟨type, payload⟩ := effect
  cases type with
  | proposeProtectionAction =>
    change (merge.propose payload).isSome = (readAction payload).isSome
    rcases merge.propose_eq payload with ⟨read, same⟩ | ⟨read, same⟩ | ⟨action, reason, read, same⟩
    all_goals rw [read, same]; rfl
  | allowAutomaticIntervention =>
    change (merge.allow payload).isSome = (readBound payload).isSome
    rw [EffectMerge.allow_eq, Option.isSome_map]
  | _ => rfl

theorem add_bounds (found : merge.add effect = some after) :
    after.bounds = match effect.bound? with
      | none => merge.bounds
      | some bound => setIn AutomaticInterventionBound.interventionType bound merge.bounds := by
  obtain ⟨type, payload⟩ := effect
  cases type with
  | proposeProtectionAction =>
    change merge.propose payload = some after at found
    rcases merge.propose_eq payload with ⟨_, same⟩ | ⟨_, same⟩ | ⟨action, reason, _, same⟩
    · rw [same] at found
      cases found
    all_goals
      rw [same] at found
      cases found
      rfl
  | allowAutomaticIntervention =>
    change merge.allow payload = some after at found
    rw [EffectMerge.allow_eq] at found
    obtain ⟨read, isRead, rfl⟩ := Option.map_eq_some_iff.1 found
    rw [PolicyEffect.bound?, if_pos rfl, isRead]
    cases read <;> rfl
  | _ =>
    cases found
    rfl

theorem foldlM_isSome (start : EffectMerge) (effects : List PolicyEffect) :
    (effects.foldlM EffectMerge.add start).isSome = true ↔
      ∀ effect ∈ effects, effect.readable = true := by
  induction effects generalizing start with
  | nil => simp
  | cons effect effects ih =>
    have first := add_isSome start effect
    rw [List.foldlM_cons, List.forall_mem_cons]
    cases added : start.add effect with
    | none =>
      rw [added] at first
      simp [← first]
    | some after =>
      rw [added] at first
      change (effects.foldlM EffectMerge.add after).isSome = true ↔ _
      rw [ih, ← first]
      simp

theorem foldlM_bounds (found : effects.foldlM EffectMerge.add start = some merge)
    (once : (start.bounds.map AutomaticInterventionBound.interventionType).Nodup) :
    (merge.bounds.map AutomaticInterventionBound.interventionType).Nodup ∧ ∀ name,
      (merge.bounds.find? fun bound => bound.interventionType = name) =
        ((effects.filterMap PolicyEffect.bound?).reverse.find? fun bound =>
          bound.interventionType = name).or
            (start.bounds.find? fun bound => bound.interventionType = name) := by
  induction effects generalizing start with
  | nil =>
    cases found
    exact ⟨once, fun _ => rfl⟩
  | cons effect effects ih =>
    rw [List.foldlM_cons] at found
    obtain ⟨after, first, rest⟩ := Option.bind_eq_some_iff.1 found
    have bounds := add_bounds first
    cases read : effect.bound? with
    | none =>
      rw [read] at bounds
      obtain ⟨onceAfter, finds⟩ := ih rest (bounds ▸ once)
      refine ⟨onceAfter, fun name => ?_⟩
      rw [finds, bounds, List.filterMap_cons_none read]
    | some bound =>
      rw [read] at bounds
      obtain ⟨onceAfter, finds⟩ := ih rest (bounds ▸ nodup_setIn once)
      refine ⟨onceAfter, fun name => ?_⟩
      rw [finds, bounds, List.filterMap_cons_some read, List.reverse_cons, List.find?_append,
        Option.or_assoc, find?_setIn]
      congr 1
      by_cases same : bound.interventionType = name <;> simp [same]

end Merge

section Decision

variable {localeLess : String → String → Bool} {purpose : ChildSafetyPolicyPurpose}
  {effects : List PolicyEffect} {decision : ChildSafetyPolicyEngineDecision}

theorem readable_of_merged (merged : mergeEffects localeLess purpose effects = some decision) :
    ∀ effect ∈ effects, effect.readable = true := by
  obtain ⟨merge, found, _⟩ := Option.map_eq_some_iff.1 merged
  rw [← foldlM_isSome ⟨emptyDecision purpose, [], []⟩, found]
  rfl

variable (localeLess purpose) in
theorem merged_of_readable (readable : ∀ effect ∈ effects, effect.readable = true) :
    ∃ decision, mergeEffects localeLess purpose effects = some decision := by
  obtain ⟨merge, found⟩ := Option.isSome_iff_exists.1
    ((foldlM_isSome ⟨emptyDecision purpose, [], []⟩ effects).2 readable)
  exact ⟨merge.finish localeLess, by rw [mergeEffects, found]; rfl⟩

/-- The bounds of the decision: none where an effect asks for a person, and otherwise the last one
of each type. -/
theorem bounds_of_merged (merged : mergeEffects localeLess purpose effects = some decision) :
    ((∃ effect ∈ effects, effect.isManual = true) ∧ decision.automaticInterventionBounds = []) ∨
    (¬ ∃ effect ∈ effects, effect.isManual = true) ∧
      (decision.automaticInterventionBounds.map
        AutomaticInterventionBound.interventionType).Nodup ∧ ∀ name,
      (decision.automaticInterventionBounds.find? fun bound => bound.interventionType = name) =
        (effects.filterMap PolicyEffect.bound?).reverse.find? fun bound =>
          bound.interventionType = name := by
  obtain ⟨merge, found, rfl⟩ := Option.map_eq_some_iff.1 merged
  have manual := foldlM_flag
    (fun type => type == .manualOnly || type == .requireManualInterventionApproval)
    (fun {merge after effect} (step : EffectMerge.add merge effect = some after) =>
      show (after.decision.manualOnly || after.decision.requireManualInterventionApproval) =
        ((merge.decision.manualOnly || merge.decision.requireManualInterventionApproval) || _) by
      have marked := EffectMerge.add_marked step
      rw [marked.manualOnly, marked.manualApproval]
      ac_rfl) found
  simp only [emptyDecision, Bool.or_self, Bool.false_eq_true, false_or] at manual
  obtain ⟨once, finds⟩ := foldlM_bounds found List.nodup_nil
  change (_ ↔ ∃ effect ∈ effects, effect.isManual = true) at manual
  rw [← manual]
  unfold EffectMerge.finish
  dsimp only
  cases isManual : merge.decision.manualOnly ||
    merge.decision.requireManualInterventionApproval with
  | true => exact .inl ⟨rfl, rfl⟩
  | false =>
    have perm := List.perm_insertionSort (fun first second : AutomaticInterventionBound =>
      localeLess second.interventionType first.interventionType = false) merge.bounds
    refine .inr ⟨Bool.false_ne_true, (perm.map _).nodup_iff.2 once, fun name => ?_⟩
    exact (find?_key_perm (List.inj_on_of_nodup_map once) perm).trans
      ((finds name).trans (Option.or_none ..))

variable {bound : AutomaticInterventionBound}

theorem agree_of_merged (merged : mergeEffects localeLess purpose effects = some decision)
    (automatic : ¬ ∃ effect ∈ effects, effect.isManual = true) (agree : BoundsAgree effects)
    {first second : PolicyEffect} (member : first ∈ effects) (listed : second ∈ effects)
    {other : AutomaticInterventionBound} (read : first.bound? = some bound)
    (readToo : second.bound? = some other) (same : bound.interventionType = other.interventionType)
    :
    bound = other := by
  rcases agree with ⟨broken, present, unreadable⟩ | manual | agree
  · rw [readable_of_merged merged broken present] at unreadable
    cases unreadable
  · exact absurd manual automatic
  · exact agree first member second listed bound other read readToo same

theorem find_bound_of_orderFree (conservative : BoundsConservative localeLess purpose effects)
    (readable : ∀ effect ∈ effects, effect.readable = true)
    (automatic : ¬ ∃ effect ∈ effects, effect.isManual = true)
    (merged : mergeEffects localeLess purpose effects = some decision) {effect : PolicyEffect}
    (member : effect ∈ effects) (read : effect.bound? = some bound) :
    (decision.automaticInterventionBounds.find? fun other =>
      other.interventionType = bound.interventionType) = some bound := by
  obtain ⟨front, back, split⟩ := List.append_of_mem member
  have perm : (front ++ back ++ [effect]).Perm effects := by
    rw [split, List.append_assoc]
    exact (List.perm_append_singleton effect back).append_left front
  obtain ⟨other, otherMerged⟩ := merged_of_readable localeLess purpose
    fun effect inside => readable effect (perm.mem_iff.1 inside)
  rw [← conservative.orderFree _ perm decision other merged otherMerged]
  rcases bounds_of_merged otherMerged with ⟨⟨manual, inside, isManual⟩, _⟩ | ⟨_, _, finds⟩
  · exact absurd ⟨manual, perm.mem_iff.1 inside, isManual⟩ automatic
  · rw [finds, List.filterMap_append, List.filterMap_cons_some read, List.filterMap_nil,
      List.reverse_append]
    simp

theorem agree_of_conservative (conservative : BoundsConservative localeLess purpose effects) :
    BoundsAgree effects := by
  by_contra disagree
  simp only [BoundsAgree, not_or] at disagree
  obtain ⟨readable, automatic, disagree⟩ := disagree
  have readable : ∀ effect ∈ effects, effect.readable = true := by
    intro effect member
    by_contra unreadable
    exact readable ⟨effect, member, Bool.not_eq_true _ ▸ unreadable⟩
  refine disagree ?_
  intro first firstMember second secondMember bound other firstRead secondRead same
  obtain ⟨decision, merged⟩ := merged_of_readable localeLess purpose readable
  have one := find_bound_of_orderFree conservative readable automatic merged firstMember firstRead
  have two := find_bound_of_orderFree conservative readable automatic merged secondMember secondRead
  rw [same, two] at one
  exact (Option.some.inj one).symm

theorem exists_effect_of_bound (merged : mergeEffects localeLess purpose effects = some decision)
    (member : bound ∈ decision.automaticInterventionBounds) :
    (¬ ∃ effect ∈ effects, effect.isManual = true) ∧
      ∃ effect ∈ effects, effect.bound? = some bound := by
  rcases bounds_of_merged merged with ⟨_, none⟩ | ⟨automatic, once, finds⟩
  · rw [none] at member
    cases member
  · have found := (finds _).symm.trans
      ((find?_key_iff (List.inj_on_of_nodup_map once)).2 ⟨member, rfl⟩)
    exact ⟨automatic, List.mem_filterMap.1 (List.mem_reverse.1 (List.mem_of_find?_eq_some found))⟩

theorem conservative_of_agree (agree : BoundsAgree effects) :
    BoundsConservative localeLess purpose effects := by
  constructor
  · intro decision merged bound member effect inside other read same
    obtain ⟨automatic, source, listed, wrote⟩ := exists_effect_of_bound merged member
    obtain rfl := agree_of_merged merged automatic agree inside listed read wrote same
    refine ⟨?_, ?_, List.Subset.refl _⟩
    all_goals
      unfold ranksAbove
      split
      · exact decide_eq_false (by simp_all)
      · rfl
  · intro other perm first second merged otherMerged name
    have manualOf : (∃ effect ∈ other, effect.isManual = true) ↔
        ∃ effect ∈ effects, effect.isManual = true := by
      simp only [perm.mem_iff]
    rcases bounds_of_merged merged with ⟨manual, none⟩ | ⟨automatic, _, finds⟩
    · rcases bounds_of_merged otherMerged with ⟨_, otherNone⟩ | ⟨automatic, _⟩
      · rw [none, otherNone]
      · exact absurd (manualOf.2 manual) automatic
    · rcases bounds_of_merged otherMerged with ⟨manual, _⟩ | ⟨_, _, otherFinds⟩
      · exact absurd (manualOf.1 manual) automatic
      · rw [finds, otherFinds]
        refine find?_key_perm ?_ ((List.reverse_perm _).trans
          ((perm.filterMap _).trans (List.reverse_perm _).symm))
        intro bound member other there same
        obtain ⟨first, listed, read⟩ := List.mem_filterMap.1 (List.mem_reverse.1 member)
        obtain ⟨second, listedToo, readToo⟩ := List.mem_filterMap.1 (List.mem_reverse.1 there)
        exact agree_of_merged merged automatic agree listed listedToo read readToo same

end Decision

/-- The merge is conservative exactly where there is nothing to merge. -/
theorem boundsConservative_iff (localeLess : String → String → Bool)
    (purpose : ChildSafetyPolicyPurpose) (effects : List PolicyEffect) :
    BoundsConservative localeLess purpose effects ↔ BoundsAgree effects :=
  ⟨agree_of_conservative, conservative_of_agree⟩

/-- Two rules allow one intervention up to different severities. -/
theorem not_boundsConservative :
    ¬ ∀ localeLess purpose effects, BoundsConservative localeLess purpose effects := by
  intro all
  let allow (severity : String) : PolicyEffect := ⟨.allowAutomaticIntervention, .obj
    [("interventionType", .str "queue_for_review"), ("maxSeverity", .str severity),
      ("maxUrgency", .str "routine"), ("prerequisites", .arr [])]⟩
  have safer := (all (fun left right => decide (left < right)) .escalation
    [allow "low", allow "critical"]).safer _ rfl
    ⟨"queue_for_review", "critical", "routine", []⟩ (by decide) (allow "low") List.mem_cons_self
    ⟨"queue_for_review", "low", "routine", []⟩ rfl rfl
  exact absurd safer.1 (by decide)

end Tamanor.Core
