import Tamanor.Core.PolicyEvaluation

/-! What one effect does to the merge, and what all of them have done in the end: flags that are
set and stay set, levels that rise, and entries under a key. -/

set_option autoImplicit false

namespace Tamanor.Core

open Library

section SetIn

variable {α : Type} {key : α → String} {value entry : α} {entries : List α}

theorem find?_setIn (name : String) :
    (setIn key value entries).find? (fun other => decide (key other = name)) =
      if key value = name then some value
      else entries.find? fun other => decide (key other = name) := by
  induction entries with
  | nil =>
    rw [setIn, List.find?_cons]
    by_cases same : key value = name <;> simp [same]
  | cons first rest ih =>
    unfold setIn
    by_cases replaced : key first = key value
    · rw [if_pos replaced, List.find?_cons, List.find?_cons, replaced]
      by_cases same : key value = name <;> simp [same]
    · rw [if_neg replaced, List.find?_cons, List.find?_cons, ih]
      by_cases same : key first = name
      · have other : key value ≠ name := fun equal => replaced (same.trans equal.symm)
        simp [same, other]
      · simp [same]

theorem mem_of_mem_setIn (member : entry ∈ setIn key value entries) :
    entry = value ∨ entry ∈ entries := by
  induction entries with
  | nil => exact .inl (List.mem_singleton.1 member)
  | cons first rest ih =>
    unfold setIn at member
    split at member
    · exact (List.mem_cons.1 member).imp_right (List.mem_cons_of_mem _)
    · rcases List.mem_cons.1 member with rfl | later
      · exact .inr List.mem_cons_self
      · exact (ih later).imp_right (List.mem_cons_of_mem _)

theorem nodup_setIn (once : (entries.map key).Nodup) :
    ((setIn key value entries).map key).Nodup := by
  induction entries with
  | nil => simp [setIn]
  | cons first rest ih =>
    obtain ⟨fresh, others⟩ := List.nodup_cons.1 once
    unfold setIn
    split
    next same =>
      rw [List.map_cons, ← same]
      exact once
    next different =>
      refine List.nodup_cons.2 ⟨?_, ih others⟩
      intro member
      obtain ⟨entry, inside, same⟩ := List.mem_map.1 member
      rcases mem_of_mem_setIn inside with rfl | there
      · exact different same.symm
      · exact fresh (same ▸ List.mem_map_of_mem there)

section Lookup

variable {name : String}
  (alike : ∀ first ∈ entries, ∀ second ∈ entries, key first = key second → first = second)

include alike

theorem find?_key_iff :
    entries.find? (fun other => decide (key other = name)) = some entry ↔
      entry ∈ entries ∧ key entry = name := by
  have named {other : α}
      (found : entries.find? (fun other => decide (key other = name)) = some other) :
      other ∈ entries ∧ key other = name :=
    ⟨List.mem_of_find?_eq_some found, by simpa using List.find?_some found⟩
  refine ⟨named, ?_⟩
  rintro ⟨member, same⟩
  cases found : entries.find? fun other => decide (key other = name) with
  | none => simpa [same] using List.find?_eq_none.1 found entry member
  | some other =>
    obtain ⟨inside, otherSame⟩ := named found
    rw [alike other inside entry member (otherSame.trans same.symm)]

theorem find?_key_perm {others : List α} (perm : others.Perm entries) :
    others.find? (fun other => decide (key other = name)) =
      entries.find? fun other => decide (key other = name) := by
  refine Option.ext fun entry => ?_
  rw [find?_key_iff alike, find?_key_iff, perm.mem_iff]
  intro first member second there
  exact alike first (perm.mem_iff.1 member) second (perm.mem_iff.1 there)

end Lookup

end SetIn

def PolicyEffect.reads (effect : PolicyEffect) (type : PolicyEffectType) (key : String) :
    Option JsonValue :=
  if effect.type = type then effect.payload.field? key else none

/-- What an `ALLOW_AUTOMATIC_INTERVENTION` authorizes, if it names a type; none where it throws. -/
def readBound (payload : JsonValue) : Option (Option AutomaticInterventionBound) := do
  let interventionType ← stringOr "" (payload.field? "interventionType")
  if interventionType = "" then return none
  let maxSeverity ← stringOr "low" (payload.field? "maxSeverity")
  let maxUrgency ← stringOr "routine" (payload.field? "maxUrgency")
  let prerequisites ← readPrerequisites (payload.field? "prerequisites")
  return some ⟨interventionType, maxSeverity, maxUrgency, prerequisites⟩

theorem EffectMerge.allow_eq (merge : EffectMerge) (payload : JsonValue) :
    merge.allow payload = (readBound payload).map fun
      | none => merge
      | some bound =>
        { decision := { merge.decision with allowAutomaticIntervention := true }
          actions := merge.actions
          bounds := setIn AutomaticInterventionBound.interventionType bound merge.bounds } := by
  unfold allow readBound
  cases stringOr "" (payload.field? "interventionType") with
  | none => rfl
  | some interventionType =>
    simp only [Option.bind_eq_bind, Option.bind_some]
    split
    · rfl
    · cases stringOr "low" (payload.field? "maxSeverity") with
      | none => rfl
      | some maxSeverity =>
        cases stringOr "routine" (payload.field? "maxUrgency") with
        | none => rfl
        | some maxUrgency => cases readPrerequisites (payload.field? "prerequisites") <;> rfl

/-- What a `PROPOSE_PROTECTION_ACTION` proposes, if it names a type; none where it throws. -/
def readAction (payload : JsonValue) : Option (Option ProposedAction) := do
  let actionType ← stringOr "" (payload.field? "actionType")
  if actionType = "" then return none
  let reasonCode ← stringOr "" (payload.field? "reasonCode")
  return some ⟨actionType, reasonCode, truthy (payload.field? "requiresApproval")⟩

theorem stringOr_isSome (first second : String) (value : Option JsonValue) :
    (stringOr first value).isSome = (stringOr second value).isSome := by
  unfold stringOr
  split <;> rfl

theorem EffectMerge.propose_eq (merge : EffectMerge) (payload : JsonValue) :
    (readAction payload = none ∧ merge.propose payload = none) ∨
    (readAction payload = some none ∧ merge.propose payload = some merge) ∨
    ∃ action reason, readAction payload = some (some action) ∧
      merge.propose payload = some { merge with
        actions := setIn ProposedAction.actionType
          ⟨action.actionType, reason, action.requiresApproval ||
            ((merge.actions.find? fun earlier =>
              decide (earlier.actionType = action.actionType)).map
                ProposedAction.requiresApproval).getD false⟩ merge.actions } := by
  unfold propose readAction
  cases stringOr "" (payload.field? "actionType") with
  | none => exact .inl ⟨rfl, rfl⟩
  | some actionType =>
    simp only [Option.bind_eq_bind, Option.bind_some]
    by_cases empty : actionType = ""
    · rw [if_pos empty, if_pos empty]
      exact .inr (.inl ⟨rfl, rfl⟩)
    · rw [if_neg empty, if_neg empty]
      have both := stringOr_isSome "" (((merge.actions.find? fun action =>
        decide (action.actionType = actionType)).map ProposedAction.reasonCode).getD "")
        (payload.field? "reasonCode")
      cases fresh : stringOr "" (payload.field? "reasonCode") with
      | none =>
        rw [fresh] at both
        have missing := Option.isNone_iff_eq_none.1 (Option.isSome_eq_false_iff.1 both.symm)
        rw [missing]
        exact .inl ⟨rfl, rfl⟩
      | some reason =>
        rw [fresh] at both
        obtain ⟨kept, same⟩ := Option.isSome_iff_exists.1 both.symm
        rw [same]
        exact .inr (.inr ⟨_, kept, rfl, rfl⟩)

/-- The types of the effects that set a flag, and the levels that rise. -/
structure EffectMerge.Marked (merge after : EffectMerge) (effect : PolicyEffect) : Prop where
  review : after.decision.requireReview = (merge.decision.requireReview ||
    (effect.type == .requireReview || effect.type == .requireSupervisorReview))
  supervisor : after.decision.requireSupervisorReview =
    (merge.decision.requireSupervisorReview || effect.type == .requireSupervisorReview)
  manualOnly : after.decision.manualOnly = (merge.decision.manualOnly || effect.type == .manualOnly)
  manualApproval : after.decision.requireManualInterventionApproval =
    (merge.decision.requireManualInterventionApproval ||
      effect.type == .requireManualInterventionApproval)
  prohibited : after.decision.prohibitGuardianContact =
    (merge.decision.prohibitGuardianContact || effect.type == .prohibitGuardianContact)
  severity : after.decision.recommendedSeverity = raiseTo PolicyValues.severities
    merge.decision.recommendedSeverity (effect.reads .setRecommendedSeverity "severity")
  urgency : after.decision.recommendedUrgency = raiseTo PolicyValues.urgencies
    merge.decision.recommendedUrgency (effect.reads .setRecommendedUrgency "urgency")
  level : after.decision.escalationLevel = raiseTo PolicyValues.escalationLevels
    merge.decision.escalationLevel (effect.reads .setEscalationLevel "level")

theorem raiseTo_none (order : List String) (current : Option String) :
    raiseTo order current none = current := by
  cases current <;> rfl

theorem EffectMerge.add_marked {merge after : EffectMerge} {effect : PolicyEffect}
    (found : merge.add effect = some after) : merge.Marked after effect := by
  obtain ⟨type, payload⟩ := effect
  cases type with
  | proposeProtectionAction =>
    have same : after.decision = merge.decision := by
      change merge.propose payload = some after at found
      rcases merge.propose_eq payload with ⟨_, none⟩ | ⟨_, kept⟩ | ⟨action, reason, _, kept⟩
      · rw [none] at found
        cases found
      · rw [kept] at found
        cases found
        rfl
      · rw [kept] at found
        cases found
        rfl
    constructor <;> simp [same, PolicyEffect.reads, raiseTo_none]
  | allowAutomaticIntervention =>
    change merge.allow payload = some after at found
    rw [allow_eq] at found
    obtain ⟨bound, _, rfl⟩ := Option.map_eq_some_iff.1 found
    cases bound <;> constructor <;> simp [PolicyEffect.reads, raiseTo_none]
  | _ =>
    cases found
    constructor <;> simp [PolicyEffect.reads, raiseTo_none]

section Fold

variable {effects : List PolicyEffect} {start merge : EffectMerge}

theorem foldlM_flag {flag : EffectMerge → Bool} (sets : PolicyEffectType → Bool)
    (step : ∀ {merge after effect}, EffectMerge.add merge effect = some after →
      flag after = (flag merge || sets effect.type))
    (found : effects.foldlM EffectMerge.add start = some merge) :
    flag merge = true ↔ flag start = true ∨ ∃ effect ∈ effects, sets effect.type = true := by
  induction effects generalizing start with
  | nil =>
    cases found
    simp
  | cons effect effects ih =>
    rw [List.foldlM_cons] at found
    obtain ⟨after, first, rest⟩ := Option.bind_eq_some_iff.1 found
    rw [ih rest, step first, List.exists_mem_cons_iff, Bool.or_eq_true, or_assoc]

end Fold

end Tamanor.Core
