import Tamanor.Core.Billing
import Tamanor.Core.FamilyAuthorization
import Tamanor.Library.CanonicalJson

/-! The policy engine (`child-safety-policy.ts` of the core): its vocabulary and the strict
validation of a definition. A definition is JSON of any shape, and its members are looked up as
JavaScript does it: a name that an object lacks may be one that it inherits. -/

set_option autoImplicit false

namespace Tamanor.Library.Json

/-- `typeof value === "object"`, without null. -/
def isObject : JsonValue → Bool
  | .arr _ | .obj _ => true
  | _ => false

/-- `Object.keys(value)`. -/
def objectKeys : JsonValue → List String
  | .obj fields => (ownOrder fields).map Prod.fst
  | .arr items => (List.range items.length).map toString
  | .str text => (List.range (Text.codeUnits text.toList).length).map toString
  | _ => []

end Tamanor.Library.Json

namespace Tamanor.Core

open Library

def childSafetyPolicyEngineVersion : String := "cs-policy-engine-v1"

def childSafetyPolicySchemaVersion : Nat := 1

/-! Permissions, and the states of a version. -/

inductive ChildSafetyPolicyPermission where
  | view | manage | submit | approve | activate | simulate | decisionView
deriving DecidableEq

def childSafetyPolicyPermissions : MembershipRole → List ChildSafetyPolicyPermission
  | .owner | .admin => [.view, .manage, .submit, .approve, .activate, .simulate, .decisionView]
  | .reviewer => [.view, .simulate, .decisionView]
  | .analyst | .viewer => []

def canChildSafetyPolicy (role : MembershipRole) (permission : ChildSafetyPolicyPermission) :
    Bool :=
  (childSafetyPolicyPermissions role).contains permission

inductive ChildSafetyPolicyStatus where
  | draft | pendingApproval | active | retired | rejected
deriving DecidableEq

structure PolicyLimits where
  maxRules : Nat
  maxConditionNodesPerRule : Nat
  maxNestingDepth : Nat
  maxEffectsPerRule : Nat
  maxDefinitionBytes : Nat
  maxRuleIdLen : Nat
  maxExplanationCodeLen : Nat
  maxInValues : Nat

def policyLimits : PolicyLimits where
  maxRules := 100
  maxConditionNodesPerRule := 20
  maxNestingDepth := 5
  maxEffectsPerRule := 20
  maxDefinitionBytes := 64 * 1024
  maxRuleIdLen := 64
  maxExplanationCodeLen := 64
  maxInValues := 50

inductive ChildSafetyPolicyPurpose where
  | signalTriage | incidentClassification | escalation | protectionPlan
  | interventionAuthorization | guardianContactEligibility
deriving DecidableEq

def ChildSafetyPolicyPurpose.value : ChildSafetyPolicyPurpose → String
  | .signalTriage => "SIGNAL_TRIAGE"
  | .incidentClassification => "INCIDENT_CLASSIFICATION"
  | .escalation => "ESCALATION"
  | .protectionPlan => "PROTECTION_PLAN"
  | .interventionAuthorization => "INTERVENTION_AUTHORIZATION"
  | .guardianContactEligibility => "GUARDIAN_CONTACT_ELIGIBILITY"

def childSafetyPolicyPurposes : List ChildSafetyPolicyPurpose :=
  [.signalTriage, .incidentClassification, .escalation, .protectionPlan,
    .interventionAuthorization, .guardianContactEligibility]

inductive PolicyOperator where
  | equals | notEquals | isIn | notIn | greaterThan | greaterThanOrEqual | lessThan
  | lessThanOrEqual | «exists» | notExists

def PolicyOperator.value : PolicyOperator → String
  | .equals => "EQUALS"
  | .notEquals => "NOT_EQUALS"
  | .isIn => "IN"
  | .notIn => "NOT_IN"
  | .greaterThan => "GREATER_THAN"
  | .greaterThanOrEqual => "GREATER_THAN_OR_EQUAL"
  | .lessThan => "LESS_THAN"
  | .lessThanOrEqual => "LESS_THAN_OR_EQUAL"
  | .exists => "EXISTS"
  | .notExists => "NOT_EXISTS"

def policyOperators : List PolicyOperator :=
  [.equals, .notEquals, .isIn, .notIn, .greaterThan, .greaterThanOrEqual, .lessThan,
    .lessThanOrEqual, .exists, .notExists]

def PolicyOperator.isNumeric : PolicyOperator → Bool
  | .greaterThan | .greaterThanOrEqual | .lessThan | .lessThanOrEqual => true
  | _ => false

def PolicyOperator.takesArray : PolicyOperator → Bool
  | .isIn | .notIn => true
  | _ => false

def PolicyOperator.takesNoValue : PolicyOperator → Bool
  | .exists | .notExists => true
  | _ => false

inductive PolicyEffectType where
  | createIncident | updateIncident | setRecommendedSeverity | setRecommendedUrgency
  | requireReview | requireSupervisorReview | createEscalationRecommendation
  | setEscalationLevel | proposeProtectionPlan | proposeProtectionAction
  | allowAutomaticIntervention | requireManualInterventionApproval
  | allowGuardianContactConsideration | prohibitGuardianContact | manualOnly | noAction
deriving DecidableEq

def PolicyEffectType.value : PolicyEffectType → String
  | .createIncident => "CREATE_INCIDENT"
  | .updateIncident => "UPDATE_INCIDENT"
  | .setRecommendedSeverity => "SET_RECOMMENDED_SEVERITY"
  | .setRecommendedUrgency => "SET_RECOMMENDED_URGENCY"
  | .requireReview => "REQUIRE_REVIEW"
  | .requireSupervisorReview => "REQUIRE_SUPERVISOR_REVIEW"
  | .createEscalationRecommendation => "CREATE_ESCALATION_RECOMMENDATION"
  | .setEscalationLevel => "SET_ESCALATION_LEVEL"
  | .proposeProtectionPlan => "PROPOSE_PROTECTION_PLAN"
  | .proposeProtectionAction => "PROPOSE_PROTECTION_ACTION"
  | .allowAutomaticIntervention => "ALLOW_AUTOMATIC_INTERVENTION"
  | .requireManualInterventionApproval => "REQUIRE_MANUAL_INTERVENTION_APPROVAL"
  | .allowGuardianContactConsideration => "ALLOW_GUARDIAN_CONTACT_CONSIDERATION"
  | .prohibitGuardianContact => "PROHIBIT_GUARDIAN_CONTACT"
  | .manualOnly => "MANUAL_ONLY"
  | .noAction => "NO_ACTION"

def policyEffectTypes : List PolicyEffectType :=
  [.createIncident, .updateIncident, .setRecommendedSeverity, .setRecommendedUrgency,
    .requireReview, .requireSupervisorReview, .createEscalationRecommendation,
    .setEscalationLevel, .proposeProtectionPlan, .proposeProtectionAction,
    .allowAutomaticIntervention, .requireManualInterventionApproval,
    .allowGuardianContactConsideration, .prohibitGuardianContact, .manualOnly, .noAction]

namespace PolicyValues

def severities : List String := ["low", "medium", "high", "critical"]

def urgencies : List String := ["routine", "elevated", "immediate"]

def confidenceBands : List String := ["low", "medium", "high"]

def riskFamilies : List String :=
  ["sexual", "grooming", "violence", "coercion", "scam", "bullying", "identity"]

def incidentStatuses : List String :=
  ["open", "under_review", "action_required", "monitoring", "waiting", "resolved", "dismissed",
    "reopened", "closed"]

def guardianAuthorityStates : List String :=
  ["none", "pending", "authorized", "revoked", "expired"]

def ageBands : List String := ["under_10", "age_10_12", "age_13_15", "age_16_17"]

def signalTypes : List String :=
  ["GROOMING", "SEXUAL_SOLICITATION", "SEXTORTION", "MEETING_ATTEMPT", "CYBERBULLYING", "THREAT",
    "IDENTITY_MANIPULATION", "COERCION"]

def escalationLevels : List String := ["none", "monitor", "internal", "urgent_internal"]

def protectionActionTypes : List String :=
  ["review_account_safety", "preserve_evidence", "verify_guardian_contact",
    "notify_authorized_guardian", "restrict_interaction", "recommend_blocking",
    "recommend_reporting", "escalate_internal_safety", "legal_review", "welfare_check",
    "follow_up_review", "custom_internal_action"]

def interventionTypes : List String :=
  ["local_safety_guidance", "queue_for_review", "notify_authorized_guardian",
    "create_or_update_incident", "urgent_escalation"]

end PolicyValues

/-! The fields that a condition may name. -/

inductive FieldKind where
  | string | number | boolean
deriving DecidableEq

/-- What is found under the name of a field; a member that every object inherits has no kind. -/
structure FieldDescriptor where
  kind : Option FieldKind
  enumValues : Option (List String)

namespace FieldDescriptor

def enumerated (values : List String) : FieldDescriptor := ⟨some .string, some values⟩

def text : FieldDescriptor := ⟨some .string, none⟩

def number : FieldDescriptor := ⟨some .number, none⟩

def boolean : FieldDescriptor := ⟨some .boolean, none⟩

def inherited : FieldDescriptor := ⟨none, none⟩

end FieldDescriptor

abbrev PolicyFields := List (String × FieldDescriptor)

def signalFields : PolicyFields :=
  [("signalType", .enumerated PolicyValues.signalTypes),
    ("riskFamily", .enumerated PolicyValues.riskFamilies),
    ("confidenceBand", .enumerated PolicyValues.confidenceBands),
    ("sourceType", .text),
    ("repeatedSignalCount", .number),
    ("distinctSourceCount", .number),
    ("signalAgeSeconds", .number),
    ("immediateDangerFlag", .boolean),
    ("ageBand", .enumerated PolicyValues.ageBands)]

def incidentFields : PolicyFields :=
  [("severity", .enumerated PolicyValues.severities),
    ("urgency", .enumerated PolicyValues.urgencies),
    ("incidentStatus", .enumerated PolicyValues.incidentStatuses),
    ("riskFamily", .enumerated PolicyValues.riskFamilies),
    ("signalCount", .number),
    ("previousEscalationCount", .number),
    ("hasActiveEscalation", .boolean),
    ("hasActiveProtectionPlan", .boolean),
    ("reviewerAssigned", .boolean),
    ("guardianAuthorityState", .enumerated PolicyValues.guardianAuthorityStates),
    ("evidenceCount", .number),
    ("ageBand", .enumerated PolicyValues.ageBands),
    ("immediateDangerFlag", .boolean)]

def policyFieldsFor : ChildSafetyPolicyPurpose → PolicyFields
  | .signalTriage => signalFields
  | _ => incidentFields

/-- `fields[name]`. -/
def fieldAt (fields : PolicyFields) (name : String) : Option FieldDescriptor :=
  (fields.lookup name).or (if objectPrototypeKeys.contains name then some .inherited else none)

def asText : Option JsonValue → Option String
  | some (.str text) => some text
  | _ => none

/-- The name under which a value looks up a property; none where JavaScript throws. -/
def propertyKey (value : Option JsonValue) : Option String :=
  (Json.displayField value).map String.ofList

/-- `text.length`. -/
def textLength (text : String) : Nat := (Text.codeUnits text.toList).length

def readPolicyPurpose (value : Option JsonValue) : Option ChildSafetyPolicyPurpose :=
  childSafetyPolicyPurposes.find? fun purpose => asText value == some purpose.value

def readPolicyOperator (value : Option JsonValue) : Option PolicyOperator :=
  policyOperators.find? fun operator => asText value == some operator.value

def readPolicyEffectType (value : Option JsonValue) : Option PolicyEffectType :=
  policyEffectTypes.find? fun type => asText value == some type.value

/-- A node of a condition, with the members that are read of it. A group whose nodes are no
array is one without nodes. -/
inductive PolicyNode where
  | bare (isNull : Bool)
  | leaf (field operator value : Option JsonValue)
  | group (kind : String) (nodes : List PolicyNode)

mutual

def readNode : JsonValue → PolicyNode
  | .obj fields =>
    match asText (fields.lookup "group") with
    | some kind => .group kind (readGroupNodes fields)
    | none => .leaf (fields.lookup "field") (fields.lookup "operator") (fields.lookup "value")
  | .arr _ => .leaf none none none
  | .null => .bare true
  | _ => .bare false

def readGroupNodes : List (String × JsonValue) → List PolicyNode
  | [] => []
  | (name, value) :: rest => if name = "nodes" then readArray value else readGroupNodes rest

def readArray : JsonValue → List PolicyNode
  | .arr items => readNodes items
  | _ => []

def readNodes : List JsonValue → List PolicyNode
  | [] => []
  | item :: rest => readNode item :: readNodes rest

end

def payloadOnlyKeys (payload : JsonValue) (keys : List String) : List String :=
  (payload.objectKeys.filter fun key => !keys.contains key).map
    ("effect_payload_unknown_key:" ++ ·)

def noPayload (payload : JsonValue) : List String :=
  if payload.objectKeys.isEmpty then [] else ["effect_payload_not_allowed"]

def enumKey (payload : JsonValue) (key : String) (allowed : List String) : List String :=
  if (asText (payload.field? key)).any allowed.contains then [] else ["effect_payload:" ++ key]

def isBoundedText (limit : Nat) (value : Option JsonValue) : Bool :=
  (asText value).any fun text => text ≠ "" && decide (textLength text ≤ limit)

def reasonCodeErrors (payload : JsonValue) : List String :=
  if isBoundedText 64 (payload.field? "reasonCode") then [] else ["effect_payload:reasonCode"]

def requiresApprovalErrors (payload : JsonValue) : List String :=
  match payload.field? "requiresApproval" with
  | some (.bool _) => []
  | _ => ["effect_payload:requiresApproval"]

def isPrerequisite (item : JsonValue) : Bool :=
  (asText (some item)).any fun text => decide (textLength text ≤ 64)

def prerequisitesErrors (payload : JsonValue) : List String :=
  match payload.field? "prerequisites" with
  | some (.arr items) =>
    if items.length ≤ 10 ∧ items.all isPrerequisite then [] else ["effect_payload:prerequisites"]
  | _ => ["effect_payload:prerequisites"]

def effectPayloadSpec : PolicyEffectType → JsonValue → List String
  | .setRecommendedSeverity, payload =>
    payloadOnlyKeys payload ["severity"] ++ enumKey payload "severity" PolicyValues.severities
  | .setRecommendedUrgency, payload =>
    payloadOnlyKeys payload ["urgency"] ++ enumKey payload "urgency" PolicyValues.urgencies
  | .setEscalationLevel, payload =>
    payloadOnlyKeys payload ["level"] ++ enumKey payload "level" PolicyValues.escalationLevels
  | .proposeProtectionAction, payload =>
    payloadOnlyKeys payload ["actionType", "reasonCode", "requiresApproval"] ++
      (enumKey payload "actionType" PolicyValues.protectionActionTypes ++
        (reasonCodeErrors payload ++ requiresApprovalErrors payload))
  | .allowAutomaticIntervention, payload =>
    payloadOnlyKeys payload ["interventionType", "maxSeverity", "maxUrgency", "prerequisites"] ++
      (enumKey payload "interventionType" PolicyValues.interventionTypes ++
        (enumKey payload "maxSeverity" PolicyValues.severities ++
          (enumKey payload "maxUrgency" PolicyValues.urgencies ++ prerequisitesErrors payload)))
  | _, payload => noPayload payload

/-- `effect.payload ?? {}`. -/
def effectPayload (effect : JsonValue) : JsonValue :=
  match effect.field? "payload" with
  | none | some .null => .obj []
  | some payload => payload

variable (rule : String)

def effectErrors (index : Nat) (effect : JsonValue) : List String :=
  let place := rule ++ "_effect_" ++ toString index ++ "_"
  match readPolicyEffectType (effect.field? "type") with
  | none => [place ++ "bad_type"]
  | some type => (effectPayloadSpec type (effectPayload effect)).map (place ++ ·)

def effectsErrors (effects : Option JsonValue) : List String :=
  match effects with
  | some (.arr items) =>
    if items.isEmpty then [rule ++ "_no_effects"]
    else
      (if policyLimits.maxEffectsPerRule < items.length then [rule ++ "_too_many_effects"]
        else []) ++
      items.zipIdx.flatMap fun entry => effectErrors rule entry.2 entry.1
  | _ => [rule ++ "_no_effects"]

def leafValueOk (descriptor : FieldDescriptor) (value : Option JsonValue) : Bool :=
  match descriptor.kind, value with
  | some .number, some (.num (.finite _)) => true
  | some .number, _ => false
  | some .boolean, some (.bool _) => true
  | some .boolean, _ => false
  | _, some (.str text) =>
    match descriptor.enumValues with
    | some values => values.contains text
    | none => decide (textLength text ≤ 128)
  | _, _ => false

def operandErrors (descriptor : FieldDescriptor) (operator : PolicyOperator)
    (value : Option JsonValue) : List String :=
  if operator.takesNoValue then
    if value.isSome then [rule ++ "_unexpected_value"] else []
  else
    (if operator.isNumeric && descriptor.kind != some .number then
      [rule ++ "_numeric_op_non_numeric_field"] else []) ++
    if operator.takesArray then
      match value with
      | some (.arr items) =>
        if items.isEmpty ∨ policyLimits.maxInValues < items.length then [rule ++ "_bad_in_value"]
        else (items.filter fun item => !leafValueOk descriptor (some item)).map fun _ =>
          rule ++ "_bad_in_member"
      | _ => [rule ++ "_bad_in_value"]
    else if leafValueOk descriptor value then [] else [rule ++ "_bad_value"]

def leafErrors (fields : PolicyFields) (rule : String) (field operator value : Option JsonValue) :
    Option (List String) :=
  (propertyKey field).map fun name =>
    match fieldAt fields name with
    | none => [rule ++ "_unknown_field:" ++ name]
    | some descriptor =>
      match readPolicyOperator operator with
      | none => [rule ++ "_unknown_operator"]
      | some operator => operandErrors rule descriptor operator value

/-- How many nodes have been counted, and the errors; none where the validator throws. -/
abbrev Walked := Option (Nat × List String)

def walkBounds (depth count : Nat) (inside : Walked) : Walked :=
  if policyLimits.maxNestingDepth < depth then some (count, [rule ++ "_too_deep"])
  else if policyLimits.maxConditionNodesPerRule < count + 1 then
    some (count + 1, [rule ++ "_too_many_conditions"])
  else inside

mutual

def walk (fields : PolicyFields) (rule : String) (depth count : Nat) : PolicyNode → Walked
  | .bare _ => walkBounds rule depth count (some (count + 1, [rule ++ "_bad_condition"]))
  | .leaf field operator value =>
    walkBounds rule depth count
      ((leafErrors fields rule field operator value).map fun errors => (count + 1, errors))
  | .group kind nodes =>
    let badGroup := if kind = "ALL" ∨ kind = "ANY" then [] else [rule ++ "_bad_group"]
    let empty := if nodes.isEmpty then [rule ++ "_empty_group"] else []
    walkBounds rule depth count
      ((walkNodes fields rule (depth + 1) (count + 1) nodes).map fun walked =>
        (walked.1, badGroup ++ (empty ++ walked.2)))

def walkNodes (fields : PolicyFields) (rule : String) (depth count : Nat) : List PolicyNode → Walked
  | [] => some (count, [])
  | node :: rest =>
    (walk fields rule depth count node).bind fun first =>
      (walkNodes fields rule depth first.1 rest).map fun others =>
        (others.1, first.2 ++ others.2)

end

structure ChildSafetyPolicyValidationResult where
  valid : Bool
  errors : List String
  ruleCount : Nat

def ruleIdErrors (seen : List String) (id : Option JsonValue) : List String × List String :=
  match asText id with
  | none => (seen, [rule ++ "_bad_id"])
  | some id =>
    if id = "" ∨ policyLimits.maxRuleIdLen < textLength id then (seen, [rule ++ "_bad_id"])
    else (id :: seen, if seen.contains id then ["duplicate_rule_id:" ++ id] else [])

def rulePriorityErrors : Option JsonValue → List String
  | some (.num (.finite _)) => []
  | _ => [rule ++ "_bad_priority"]

def ruleEnabledErrors : Option JsonValue → List String
  | some (.bool _) => []
  | _ => [rule ++ "_bad_enabled"]

def ruleErrors (fields : PolicyFields) (index : Nat) (seen : List String) (rule : JsonValue) :
    Option (List String × List String) :=
  let name := "rule_" ++ toString index
  if !rule.isObject then some (seen, [name ++ "_invalid"])
  else
    let ids := ruleIdErrors name seen (rule.field? "id")
    let explanation :=
      if isBoundedText policyLimits.maxExplanationCodeLen (rule.field? "explanationCode") then []
      else [name ++ "_bad_explanation"]
    (walk fields name 1 0 (readNode ((rule.field? "condition").getD (.bool false)))).map
      fun walked =>
        (ids.1, ids.2 ++ (rulePriorityErrors name (rule.field? "priority") ++
          (ruleEnabledErrors name (rule.field? "enabled") ++ (explanation ++
            (effectsErrors name (rule.field? "effects") ++ walked.2)))))

def rulesErrors (fields : PolicyFields) (index : Nat) (seen : List String) :
    List JsonValue → Option (List String)
  | [] => some []
  | rule :: rest =>
    (ruleErrors fields index seen rule).bind fun first =>
      (rulesErrors fields (index + 1) first.1 rest).map fun others => first.2 ++ others

/-- `d.schemaVersion !== CHILD_SAFETY_POLICY_SCHEMA_VERSION`. -/
def schemaVersionErrors : Option JsonValue → List String
  | some (.num (.finite number)) =>
    if number.text = Nat.toDigits 10 childSafetyPolicySchemaVersion then []
    else ["bad_schema_version"]
  | _ => ["bad_schema_version"]

def headErrors (definition : JsonValue) : List String :=
  (if policyLimits.maxDefinitionBytes < (Text.codeUnits definition.print).length then
    ["definition_too_large"] else []) ++
  (schemaVersionErrors (definition.field? "schemaVersion") ++
    ((if (readPolicyPurpose (definition.field? "purpose")).isSome then [] else ["bad_purpose"]) ++
      if (readPolicyEffectType (definition.field? "defaultEffect")).isSome then []
      else ["bad_default_effect"]))

def maxErrors : Nat := 100

def validateChildSafetyPolicyDefinition (definition : JsonValue) :
    Option ChildSafetyPolicyValidationResult :=
  if !definition.isObject then some ⟨false, ["not_an_object"], 0⟩
  else
    match definition.field? "rules" with
    | some (.arr rules) =>
      let tooMany := if policyLimits.maxRules < rules.length then ["too_many_rules"] else []
      let purpose := readPolicyPurpose (definition.field? "purpose")
      let fields := (purpose.map policyFieldsFor).getD []
      (rulesErrors fields 0 [] rules).map fun errors =>
        let errors := (headErrors definition ++ (tooMany ++ errors)).take maxErrors
        ⟨errors.isEmpty, errors, rules.length⟩
    | _ => some ⟨false, (headErrors definition ++ ["rules_not_array"]).take maxErrors, 0⟩

def isValidPolicyDefinition (definition : JsonValue) : Bool :=
  (validateChildSafetyPolicyDefinition definition).any ChildSafetyPolicyValidationResult.valid

end Tamanor.Core
