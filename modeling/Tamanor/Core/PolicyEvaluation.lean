import Tamanor.Core.ChildSafetyPolicy
import Tamanor.Library.NumericLiteral

/-! The evaluation of a policy definition against facts, and the merge of the effects that it
collects (`child-safety-policy.ts` of the core). The definition has been validated; the members
that it then has are read with a default. -/

set_option autoImplicit false

namespace Tamanor.Library.JsonNumber

def value (number : JsonNumber) : ℚ := (NumericLiteral.literal? number.text).getD 0

end Tamanor.Library.JsonNumber

namespace Tamanor.Core

open Library

/-- A value of JavaScript; the last one is an object or a function that is not JSON. -/
inductive Fact where
  | undefined
  | json (value : JsonValue)
  | nan
  | object

/-- The own properties of a record. -/
abbrev Facts := String → Option Fact

/-- `facts[name]`. -/
def factAt (facts : Facts) (name : String) : Fact :=
  (facts name).getD (if objectPrototypeKeys.contains name then .object else .undefined)

def Fact.isMissing : Fact → Bool
  | .undefined | .json .null => true
  | _ => false

/-- `fact === value`. -/
def Fact.strictEquals : Fact → Option JsonValue → Bool
  | .undefined, none => true
  | .json .null, some .null => true
  | .json (.bool left), some (.bool right) => left == right
  | .json (.num (.finite left)), some (.num (.finite right)) => left.text == right.text
  | .json (.num (.infinite left)), some (.num (.infinite right)) => left == right
  | .json (.str left), some (.str right) => left == right
  | _, _ => false

def isNumber : JsonValue → Bool
  | .num _ => true
  | _ => false

/-- `left < right` of two numbers. -/
def numberLess : JsonValue → JsonValue → Bool
  | .num (.finite left), .num (.finite right) => decide (left.value < right.value)
  | .num (.infinite negative), .num (.finite _) => negative
  | .num (.finite _), .num (.infinite negative) => !negative
  | .num (.infinite left), .num (.infinite right) => left && !right
  | _, _ => false

def Fact.compares (fact : Fact) (value : Option JsonValue)
    (test : JsonValue → JsonValue → Bool) : Bool :=
  match fact, value with
  | .json left, some right => isNumber left && isNumber right && test left right
  | _, _ => false

def includes (value : Option JsonValue) (fact : Fact) : Option Bool :=
  match value with
  | some (.arr items) => some (items.any fun item => fact.strictEquals (some item))
  | _ => none

def canonicalFact : Fact → Option JsonValue
  | .json (.str text) => some (.str text)
  | .json (.num (.finite number)) => some (.num number)
  | .json (.bool value) => some (.bool value)
  | .json (.num (.infinite _)) | .nan => some .null
  | _ => none

def schemaVersionNumber : JsonNumber where
  text := Nat.toDigits 10 childSafetyPolicySchemaVersion
  nonempty := by decide
  printed := by decide

def canonicalPolicyInput (purpose : ChildSafetyPolicyPurpose) (facts : Facts) : String :=
  let names := ((policyFieldsFor purpose).map Prod.fst).insertionSort fun first second =>
    Json.precedes (Text.codeUnits first.toList) (Text.codeUnits second.toList) = true
  let out := names.filterMap fun name =>
    (canonicalFact (factAt facts name)).map fun value => (name, value)
  String.ofList (Json.print (.obj
    [("p", .str purpose.value), ("e", .str childSafetyPolicyEngineVersion),
      ("s", .num schemaVersionNumber), ("f", .obj out)]))

/-! Conditions. The result is none where JavaScript throws. -/

def PolicyOperator.holds (operator : PolicyOperator) (fact : Fact) (value : Option JsonValue) :
    Bool :=
  match operator with
  | .exists => !fact.isMissing
  | .notExists => fact.isMissing
  | .equals => fact.strictEquals value
  | .notEquals => !fact.strictEquals value
  | .isIn => (includes value fact).getD false
  | .notIn => ((includes value fact).map (!·)).getD false
  | .greaterThan => fact.compares value fun left right => numberLess right left
  | .greaterThanOrEqual => fact.compares value fun left right => !numberLess left right
  | .lessThan => fact.compares value numberLess
  | .lessThanOrEqual => fact.compares value fun left right => !numberLess right left

def evalLeaf (facts : Facts) (field operator value : Option JsonValue) : Option Bool :=
  (propertyKey field).map fun name =>
    match readPolicyOperator operator with
    | none => false
    | some operator => operator.holds (factAt facts name) value

mutual

def evalNode (facts : Facts) : PolicyNode → Option Bool
  | .bare isNull => if isNull then none else some false
  | .leaf field operator value => evalLeaf facts field operator value
  | .group kind nodes =>
    if nodes.isEmpty then some false
    else if kind = "ALL" then evalEvery facts nodes
    else evalSome facts nodes

def evalEvery (facts : Facts) : List PolicyNode → Option Bool
  | [] => some true
  | node :: rest =>
    (evalNode facts node).bind fun holds => if holds then evalEvery facts rest else some false

def evalSome (facts : Facts) : List PolicyNode → Option Bool
  | [] => some false
  | node :: rest =>
    (evalNode facts node).bind fun holds => if holds then some true else evalSome facts rest

end

structure PolicyEffect where
  type : PolicyEffectType
  payload : JsonValue

structure ProposedAction where
  actionType : String
  reasonCode : String
  requiresApproval : Bool
deriving DecidableEq

structure AutomaticInterventionBound where
  interventionType : String
  maxSeverity : String
  maxUrgency : String
  prerequisites : List String
deriving DecidableEq

structure ChildSafetyPolicyEngineDecision where
  purpose : ChildSafetyPolicyPurpose
  createIncident : Bool
  updateIncident : Bool
  recommendedSeverity : Option String
  recommendedUrgency : Option String
  requireReview : Bool
  requireSupervisorReview : Bool
  recommendEscalation : Bool
  escalationLevel : Option String
  proposeProtectionPlan : Bool
  proposedActions : List ProposedAction
  allowAutomaticIntervention : Bool
  automaticInterventionBounds : List AutomaticInterventionBound
  requireManualInterventionApproval : Bool
  allowGuardianContactConsideration : Bool
  prohibitGuardianContact : Bool
  manualOnly : Bool
deriving DecidableEq

def emptyDecision (purpose : ChildSafetyPolicyPurpose) : ChildSafetyPolicyEngineDecision where
  purpose := purpose
  createIncident := false
  updateIncident := false
  recommendedSeverity := none
  recommendedUrgency := none
  requireReview := false
  requireSupervisorReview := false
  recommendEscalation := false
  escalationLevel := none
  proposeProtectionPlan := false
  proposedActions := []
  allowAutomaticIntervention := false
  automaticInterventionBounds := []
  requireManualInterventionApproval := false
  allowGuardianContactConsideration := false
  prohibitGuardianContact := false
  manualOnly := false

/-- `RANK[name] ?? -1`; none for an inherited member, which no number is above or below. -/
def policyRank (order : List String) (name : String) : Option Int :=
  match order.idxOf? name with
  | some index => some index
  | none => if objectPrototypeKeys.contains name then none else some (-1)

def ranksAbove (order : List String) (name other : String) : Bool :=
  match policyRank order name, policyRank order other with
  | some left, some right => decide (right < left)
  | _, _ => false

def raiseTo (order : List String) (current : Option String) (value : Option JsonValue) :
    Option String :=
  match asText value, current with
  | none, _ => current
  | some name, none => some name
  | some name, some recommended => if ranksAbove order name recommended then some name else current

/-- `String(value ?? default)`. -/
def stringOr (fallback : String) : Option JsonValue → Option String
  | none | some .null => some fallback
  | some value => value.display.map String.ofList

/-- `Boolean(value)`. -/
def truthy : Option JsonValue → Bool
  | none | some .null => false
  | some (.bool value) => value
  | some (.num (.finite number)) => number.text != ['0']
  | some (.str text) => text != ""
  | _ => true

/-- `map.set(key, value)` of a map in the order of its insertions. -/
def setIn {α : Type} (key : α → String) (value : α) : List α → List α
  | [] => [value]
  | entry :: rest => if key entry = key value then value :: rest else entry :: setIn key value rest

structure EffectMerge where
  decision : ChildSafetyPolicyEngineDecision
  actions : List ProposedAction
  bounds : List AutomaticInterventionBound

/-- `Array.prototype.sort` of texts. -/
def sortTexts (texts : List String) : List String :=
  texts.insertionSort fun first second =>
    Json.precedes (Text.codeUnits first.toList) (Text.codeUnits second.toList) = true

def EffectMerge.propose (merge : EffectMerge) (payload : JsonValue) : Option EffectMerge := do
  let actionType ← stringOr "" (payload.field? "actionType")
  if actionType = "" then return merge
  let earlier := merge.actions.find? fun action => action.actionType = actionType
  let reasonCode ← stringOr ((earlier.map ProposedAction.reasonCode).getD "")
    (payload.field? "reasonCode")
  let requiresApproval := truthy (payload.field? "requiresApproval") ||
    (earlier.map ProposedAction.requiresApproval).getD false
  return { merge with
    actions := setIn ProposedAction.actionType ⟨actionType, reasonCode, requiresApproval⟩
      merge.actions }

def readPrerequisites : Option JsonValue → Option (List String)
  | some (.arr items) =>
    (items.mapM fun (item : JsonValue) => item.display.map String.ofList).map sortTexts
  | _ => some []

def EffectMerge.allow (merge : EffectMerge) (payload : JsonValue) : Option EffectMerge := do
  let interventionType ← stringOr "" (payload.field? "interventionType")
  if interventionType = "" then return merge
  let maxSeverity ← stringOr "low" (payload.field? "maxSeverity")
  let maxUrgency ← stringOr "routine" (payload.field? "maxUrgency")
  let prerequisites ← readPrerequisites (payload.field? "prerequisites")
  return {
    decision := { merge.decision with allowAutomaticIntervention := true }
    actions := merge.actions
    bounds := setIn AutomaticInterventionBound.interventionType
      ⟨interventionType, maxSeverity, maxUrgency, prerequisites⟩ merge.bounds }

def EffectMerge.mark (merge : EffectMerge)
    (change : ChildSafetyPolicyEngineDecision → ChildSafetyPolicyEngineDecision) :
    Option EffectMerge :=
  some { merge with decision := change merge.decision }

def EffectMerge.add (merge : EffectMerge) (effect : PolicyEffect) : Option EffectMerge :=
  match effect.type with
  | .createIncident => merge.mark fun d => { d with createIncident := true }
  | .updateIncident => merge.mark fun d => { d with updateIncident := true }
  | .setRecommendedSeverity =>
    merge.mark fun d => { d with
      recommendedSeverity := raiseTo PolicyValues.severities d.recommendedSeverity
        (effect.payload.field? "severity") }
  | .setRecommendedUrgency =>
    merge.mark fun d => { d with
      recommendedUrgency := raiseTo PolicyValues.urgencies d.recommendedUrgency
        (effect.payload.field? "urgency") }
  | .requireReview => merge.mark fun d => { d with requireReview := true }
  | .requireSupervisorReview =>
    merge.mark fun d => { d with requireSupervisorReview := true, requireReview := true }
  | .createEscalationRecommendation => merge.mark fun d => { d with recommendEscalation := true }
  | .setEscalationLevel =>
    merge.mark fun d => { d with
      escalationLevel := raiseTo PolicyValues.escalationLevels d.escalationLevel
        (effect.payload.field? "level") }
  | .proposeProtectionPlan => merge.mark fun d => { d with proposeProtectionPlan := true }
  | .proposeProtectionAction => merge.propose effect.payload
  | .allowAutomaticIntervention => merge.allow effect.payload
  | .requireManualInterventionApproval =>
    merge.mark fun d => { d with requireManualInterventionApproval := true }
  | .allowGuardianContactConsideration =>
    merge.mark fun d => { d with allowGuardianContactConsideration := true }
  | .prohibitGuardianContact => merge.mark fun d => { d with prohibitGuardianContact := true }
  | .manualOnly => merge.mark fun d => { d with manualOnly := true }
  | .noAction => some merge

section Evaluation

variable (localeLess : String → String → Bool)

/-- The overrides, which come after all effects, and the two sorted lists. -/
def EffectMerge.finish (merge : EffectMerge) : ChildSafetyPolicyEngineDecision :=
  let d := merge.decision
  let manual := d.manualOnly || d.requireManualInterventionApproval
  { d with
    allowAutomaticIntervention := !manual && d.allowAutomaticIntervention
    automaticInterventionBounds :=
      if manual then []
      else merge.bounds.insertionSort fun first second =>
        localeLess second.interventionType first.interventionType = false
    allowGuardianContactConsideration :=
      !d.prohibitGuardianContact && d.allowGuardianContactConsideration
    proposedActions := merge.actions.insertionSort fun first second =>
      localeLess second.actionType first.actionType = false }

def mergeEffects (purpose : ChildSafetyPolicyPurpose) (effects : List PolicyEffect) :
    Option ChildSafetyPolicyEngineDecision :=
  (effects.foldlM EffectMerge.add ⟨emptyDecision purpose, [], []⟩).map
    (EffectMerge.finish localeLess)

structure ChildSafetyPolicyEvaluationInput where
  purpose : ChildSafetyPolicyPurpose
  facts : Facts
  evaluatedAt : String
  includeUnmatched : Bool

structure ChildSafetyPolicyEvaluationResult where
  ok : Bool
  errorCode : Option String
  purpose : ChildSafetyPolicyPurpose
  matchedRuleIds : List String
  unmatchedRuleIds : Option (List String)
  explanationCodes : List String
  decision : ChildSafetyPolicyEngineDecision
  engineVersion : String
  evaluatedAt : String
  canonicalInput : String
deriving DecidableEq

def failClosedDecision (purpose : ChildSafetyPolicyPurpose)
    (errorCode evaluatedAt canonicalInput : String) : ChildSafetyPolicyEvaluationResult where
  ok := false
  errorCode := some errorCode
  purpose := purpose
  matchedRuleIds := []
  unmatchedRuleIds := none
  explanationCodes := ["policy_fail_closed"]
  decision := { emptyDecision purpose with
    requireReview := true, manualOnly := true, prohibitGuardianContact := true }
  engineVersion := childSafetyPolicyEngineVersion
  evaluatedAt := evaluatedAt
  canonicalInput := canonicalInput

structure PolicyRule where
  id : String
  priority : ℚ
  enabled : Bool
  condition : PolicyNode
  effects : List PolicyEffect
  explanationCode : String

def readEffects : Option JsonValue → List PolicyEffect
  | some (.arr items) => items.filterMap fun effect =>
    (readPolicyEffectType (effect.field? "type")).map fun type => ⟨type, effectPayload effect⟩
  | _ => []

def readRule (rule : JsonValue) : PolicyRule where
  id := (asText (rule.field? "id")).getD ""
  priority :=
    match rule.field? "priority" with
    | some (.num (.finite number)) => number.value
    | _ => 0
  enabled := truthy (rule.field? "enabled")
  condition := readNode ((rule.field? "condition").getD .null)
  effects := readEffects (rule.field? "effects")
  explanationCode := (asText (rule.field? "explanationCode")).getD ""

def PolicyRule.runsBefore (first second : PolicyRule) : Bool :=
  decide (first.priority < second.priority) ||
    (decide (first.priority = second.priority) &&
      Json.precedes (Text.codeUnits first.id.toList) (Text.codeUnits second.id.toList))

def orderedRules (rules : List JsonValue) : List PolicyRule :=
  ((rules.map readRule).filter PolicyRule.enabled).insertionSort fun first second =>
    first.runsBefore second = true

structure Matches where
  matchedRuleIds : List String
  unmatchedRuleIds : List String
  explanationCodes : List String
  collected : List PolicyEffect

def Matches.run (facts : Facts) (found : Matches) (rule : PolicyRule) : Option Matches :=
  (evalNode facts rule.condition).map fun holds =>
    if holds then
      { found with
        matchedRuleIds := found.matchedRuleIds ++ [rule.id]
        explanationCodes :=
          if found.explanationCodes.contains rule.explanationCode then found.explanationCodes
          else found.explanationCodes ++ [rule.explanationCode]
        collected := found.collected ++ rule.effects }
    else { found with unmatchedRuleIds := found.unmatchedRuleIds ++ [rule.id] }

def Matches.orDefault (found : Matches) (defaultEffect : Option JsonValue) : Matches :=
  if found.matchedRuleIds.isEmpty then
    { found with
      collected := found.collected ++
        ((readPolicyEffectType defaultEffect).map fun type => ⟨type, .obj []⟩).toList
      explanationCodes := found.explanationCodes ++ ["policy_default_effect"] }
  else found

def evaluateChildSafetyPolicy (input : ChildSafetyPolicyEvaluationInput)
    (definition : JsonValue) : Option ChildSafetyPolicyEvaluationResult :=
  let canonicalInput := canonicalPolicyInput input.purpose input.facts
  match asText (definition.field? "purpose") == some input.purpose.value,
      definition.field? "rules" with
  | true, some (.arr rules) => do
      let run ← (orderedRules rules).foldlM (Matches.run input.facts) ⟨[], [], [], []⟩
      let found := run.orDefault (definition.field? "defaultEffect")
      let decision ← mergeEffects localeLess input.purpose found.collected
      return {
        ok := true
        errorCode := none
        purpose := input.purpose
        matchedRuleIds := found.matchedRuleIds
        unmatchedRuleIds := if input.includeUnmatched then some found.unmatchedRuleIds else none
        explanationCodes := found.explanationCodes
        decision := decision
        engineVersion := childSafetyPolicyEngineVersion
        evaluatedAt := input.evaluatedAt
        canonicalInput := canonicalInput }
  | _, _ =>
    some (failClosedDecision input.purpose "policy_purpose_mismatch" input.evaluatedAt
      canonicalInput)

end Evaluation

end Tamanor.Core
