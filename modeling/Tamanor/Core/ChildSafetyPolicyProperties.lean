import Tamanor.Core.PolicyEvaluation

/-! What the validator of a policy definition admits. The language is stated over the leaves of a
condition; the one way out of it is a field name that every object inherits. -/

set_option autoImplicit false

namespace Tamanor.Core

open Library

structure PolicyLeaf where
  field : Option JsonValue
  operator : Option JsonValue
  value : Option JsonValue

namespace PolicyNode

mutual

def leaves : PolicyNode → List PolicyLeaf
  | .bare _ => []
  | .leaf field operator value => [⟨field, operator, value⟩]
  | .group _ nodes => leavesOf nodes

def leavesOf : List PolicyNode → List PolicyLeaf
  | [] => []
  | node :: rest => leaves node ++ leavesOf rest

end

mutual

def wellGrouped : PolicyNode → Prop
  | .bare _ => False
  | .leaf _ _ _ => True
  | .group kind nodes => (kind = "ALL" ∨ kind = "ANY") ∧ nodes ≠ [] ∧ allWellGrouped nodes

def allWellGrouped : List PolicyNode → Prop
  | [] => True
  | node :: rest => wellGrouped node ∧ allWellGrouped rest

end

mutual

def depth : PolicyNode → Nat
  | .bare _ | .leaf _ _ _ => 1
  | .group _ nodes => 1 + depthOf nodes

def depthOf : List PolicyNode → Nat
  | [] => 0
  | node :: rest => max (depth node) (depthOf rest)

end

mutual

def size : PolicyNode → Nat
  | .bare _ | .leaf _ _ _ => 1
  | .group _ nodes => 1 + sizeOf nodes

def sizeOf : List PolicyNode → Nat
  | [] => 0
  | node :: rest => size node + sizeOf rest

end

end PolicyNode

inductive TypedValue (descriptor : FieldDescriptor) : JsonValue → Prop
  | number {number} : descriptor.kind = some .number → TypedValue descriptor (.num (.finite number))
  | boolean {value} : descriptor.kind = some .boolean → TypedValue descriptor (.bool value)
  | enumerated {values text} : descriptor.kind = some .string →
      descriptor.enumValues = some values → text ∈ values → TypedValue descriptor (.str text)
  | text {text} : descriptor.kind = some .string → descriptor.enumValues = none →
      textLength text ≤ 128 → TypedValue descriptor (.str text)

inductive OperandAllowed (descriptor : FieldDescriptor) (operator : PolicyOperator) :
    Option JsonValue → Prop
  | nothing : operator.takesNoValue = true → OperandAllowed descriptor operator none
  | list {items} : operator.takesArray = true → items ≠ [] →
      items.length ≤ policyLimits.maxInValues → (∀ item ∈ items, TypedValue descriptor item) →
      OperandAllowed descriptor operator (some (.arr items))
  | single {value} : operator.takesNoValue = false → operator.takesArray = false →
      (operator.isNumeric = true → descriptor.kind = some .number) → TypedValue descriptor value →
      OperandAllowed descriptor operator (some value)

def LeafAllowed (fields : PolicyFields) (leaf : PolicyLeaf) : Prop :=
  ∃ name descriptor operator, propertyKey leaf.field = some name ∧
    fields.lookup name = some descriptor ∧ readPolicyOperator leaf.operator = some operator ∧
    OperandAllowed descriptor operator leaf.value

structure ConditionAllowed (fields : PolicyFields) (condition : PolicyNode) : Prop where
  leaves : ∀ leaf ∈ condition.leaves, LeafAllowed fields leaf
  groups : condition.wellGrouped
  depth : condition.depth ≤ policyLimits.maxNestingDepth
  size : condition.size ≤ policyLimits.maxConditionNodesPerRule

def OneOf (values : List String) (value : JsonValue) : Prop := ∃ text ∈ values, value = .str text

def payloadMembers : PolicyEffectType → List (String × (JsonValue → Prop))
  | .setRecommendedSeverity => [("severity", OneOf PolicyValues.severities)]
  | .setRecommendedUrgency => [("urgency", OneOf PolicyValues.urgencies)]
  | .setEscalationLevel => [("level", OneOf PolicyValues.escalationLevels)]
  | .proposeProtectionAction =>
    [("actionType", OneOf PolicyValues.protectionActionTypes),
      ("reasonCode", fun value =>
        ∃ text, value = .str text ∧ text ≠ "" ∧ textLength text ≤ 64),
      ("requiresApproval", fun value => ∃ flag, value = .bool flag)]
  | .allowAutomaticIntervention =>
    [("interventionType", OneOf PolicyValues.interventionTypes),
      ("maxSeverity", OneOf PolicyValues.severities),
      ("maxUrgency", OneOf PolicyValues.urgencies),
      ("prerequisites", fun value => ∃ items, value = .arr items ∧ items.length ≤ 10 ∧
        ∀ item ∈ items, ∃ text, item = .str text ∧ textLength text ≤ 64)]
  | _ => []

def EmptyPayload (payload : Option JsonValue) : Prop :=
  payload = none ∨ payload = some .null ∨ payload = some (.obj [])

def PayloadAllowed (type : PolicyEffectType) (payload : Option JsonValue) : Prop :=
  if payloadMembers type = [] then EmptyPayload payload
  else ∃ fields, payload = some (.obj fields) ∧
    (∀ field ∈ fields, field.1 ∈ (payloadMembers type).map Prod.fst) ∧
    ∀ member ∈ payloadMembers type, ∃ value, fields.lookup member.1 = some value ∧ member.2 value

def EffectAllowed (effect : JsonValue) : Prop :=
  ∃ type, readPolicyEffectType (effect.field? "type") = some type ∧
    PayloadAllowed type (effect.field? "payload")

structure RuleAllowed (fields : PolicyFields) (rule : JsonValue) : Prop where
  condition : ∃ condition, rule.field? "condition" = some condition ∧
    ConditionAllowed fields (readNode condition)
  effects : ∃ effects, rule.field? "effects" = some (.arr effects) ∧
    ∀ effect ∈ effects, EffectAllowed effect

structure DefinitionAllowed (definition : JsonValue) : Prop where
  rules : ∃ (purpose : ChildSafetyPolicyPurpose) (rules : List JsonValue) (ids : List String),
    readPolicyPurpose (definition.field? "purpose") = some purpose ∧
    definition.field? "rules" = some (.arr rules) ∧
    (∀ rule ∈ rules, RuleAllowed (policyFieldsFor purpose) rule) ∧
    rules.map (fun rule => asText (rule.field? "id")) = ids.map some ∧ ids.Nodup

/-- The evaluation does not depend on other facts than those of the table. -/
def ReadsAllowedFacts (definition : JsonValue) : Prop :=
  ∀ localeLess (input : ChildSafetyPolicyEvaluationInput) (facts : Facts),
    (∀ name ∈ (policyFieldsFor input.purpose).map Prod.fst, input.facts name = facts name) →
    evaluateChildSafetyPolicy localeLess { input with facts := facts } definition =
      evaluateChildSafetyPolicy localeLess input definition

/-- The leaf does not look up a member that every object inherits. -/
def PlainLeaf (leaf : PolicyLeaf) : Prop :=
  ∀ name, propertyKey leaf.field = some name → objectPrototypeKeys.contains name = false

/-- An effect without a payload of its own carries none. -/
def PlainEffect (effect : JsonValue) : Prop :=
  ∀ type, readPolicyEffectType (effect.field? "type") = some type → payloadMembers type = [] →
    EmptyPayload (effect.field? "payload")

def PlainDefinition (definition : JsonValue) : Prop :=
  ∀ rules, definition.field? "rules" = some (.arr rules) → ∀ rule ∈ rules,
    (∀ condition, rule.field? "condition" = some condition →
      ∀ leaf ∈ (readNode condition).leaves, PlainLeaf leaf) ∧
    ∀ effects, rule.field? "effects" = some (.arr effects) → ∀ effect ∈ effects, PlainEffect effect

/-! A condition that is walked without an error. -/

variable {rule name key : String} {descriptor : FieldDescriptor} {fields : PolicyFields}
  {payload effect definition : JsonValue} {type : PolicyEffectType} {index : Nat}
  {seen : List String} {left right : Facts}

theorem walkBounds_clean {depth count after : Nat} {inside : Walked}
    (clean : walkBounds rule depth count inside = some (after, [])) :
    depth ≤ policyLimits.maxNestingDepth ∧ count + 1 ≤ policyLimits.maxConditionNodesPerRule ∧
      inside = some (after, []) := by
  unfold walkBounds at clean
  split at clean
  · cases clean
  · split at clean
    · cases clean
    · exact ⟨by omega, by omega, clean⟩

structure NodeClean (fields : PolicyFields) (rule : String) (depth count after : Nat)
    (node : PolicyNode) : Prop where
  groups : node.wellGrouped
  leaves : ∀ leaf ∈ node.leaves,
    leafErrors fields rule leaf.field leaf.operator leaf.value = some []
  depth : depth + node.depth ≤ policyLimits.maxNestingDepth + 1
  size : after = count + node.size
  bound : after ≤ policyLimits.maxConditionNodesPerRule

structure NodesClean (fields : PolicyFields) (rule : String) (depth count after : Nat)
    (nodes : List PolicyNode) : Prop where
  groups : PolicyNode.allWellGrouped nodes
  leaves : ∀ leaf ∈ PolicyNode.leavesOf nodes,
    leafErrors fields rule leaf.field leaf.operator leaf.value = some []
  depth : depth + PolicyNode.depthOf nodes ≤ policyLimits.maxNestingDepth + 1
  size : after = count + PolicyNode.sizeOf nodes
  bound : after ≤ policyLimits.maxConditionNodesPerRule

mutual

theorem walk_clean (fields : PolicyFields) (rule : String) (node : PolicyNode)
    {depth count after : Nat}
    (clean : walk fields rule depth count node = some (after, [])) :
    NodeClean fields rule depth count after node := by
  cases node with
  | bare isNull =>
    rw [walk] at clean
    cases (walkBounds_clean clean).2.2
  | leaf field operator value =>
    rw [walk] at clean
    obtain ⟨shallow, few, errors⟩ := walkBounds_clean clean
    obtain ⟨found, none, counted⟩ := Option.map_eq_some_iff.1 errors
    cases counted
    refine ⟨trivial, ?_, ?_, rfl, few⟩
    · intro leaf member
      rw [PolicyNode.leaves, List.mem_singleton] at member
      rw [member]
      exact none
    · rw [PolicyNode.depth]
      omega
  | group kind nodes =>
    rw [walk] at clean
    obtain ⟨shallow, few, errors⟩ := walkBounds_clean clean
    obtain ⟨⟨reached, found⟩, walked, counted⟩ := Option.map_eq_some_iff.1 errors
    simp only [Prod.mk.injEq, List.append_eq_nil_iff] at counted
    obtain ⟨rfl, kindErrors, emptyErrors, rfl⟩ := counted
    have inner := walkNodes_clean fields rule nodes (by omega) few walked
    refine ⟨⟨?_, ?_, inner.groups⟩, inner.leaves, ?_, ?_, inner.bound⟩
    · by_contra other
      rw [if_neg other] at kindErrors
      cases kindErrors
    · rintro rfl
      cases emptyErrors
    · have below := inner.depth
      rw [PolicyNode.depth]
      omega
    · rw [inner.size, PolicyNode.size]
      omega

theorem walkNodes_clean (fields : PolicyFields) (rule : String) (nodes : List PolicyNode)
    {depth count after : Nat} (shallow : depth ≤ policyLimits.maxNestingDepth + 1)
    (few : count ≤ policyLimits.maxConditionNodesPerRule)
    (clean : walkNodes fields rule depth count nodes = some (after, [])) :
    NodesClean fields rule depth count after nodes := by
  cases nodes with
  | nil =>
    cases clean
    refine ⟨trivial, ?_, shallow, rfl, few⟩
    intro leaf member
    cases member
  | cons node rest =>
    rw [walkNodes] at clean
    obtain ⟨⟨between, firstErrors⟩, firstWalk, clean⟩ := Option.bind_eq_some_iff.1 clean
    obtain ⟨⟨reached, otherErrors⟩, otherWalk, counted⟩ := Option.map_eq_some_iff.1 clean
    simp only [Prod.mk.injEq, List.append_eq_nil_iff] at counted
    obtain ⟨rfl, rfl, rfl⟩ := counted
    have first := walk_clean fields rule node firstWalk
    have others := walkNodes_clean fields rule rest shallow first.bound otherWalk
    refine ⟨⟨first.groups, others.groups⟩, ?_, ?_, ?_, others.bound⟩
    · intro leaf member
      rw [PolicyNode.leavesOf, List.mem_append] at member
      rcases member with here | there
      · exact first.leaves leaf here
      · exact others.leaves leaf there
    · have firstDepth := first.depth
      have otherDepth := others.depth
      rw [PolicyNode.depthOf]
      omega
    · rw [others.size, first.size, PolicyNode.sizeOf]
      omega

end

theorem typedValue_iff (descriptor : FieldDescriptor) (kind : FieldKind)
    (known : descriptor.kind = some kind) (value : JsonValue) :
    leafValueOk descriptor (some value) = true ↔ TypedValue descriptor value := by
  constructor
  · intro accepted
    unfold leafValueOk at accepted
    cases kind with
    | number =>
      rw [known] at accepted
      cases value with
      | num number => cases number <;> first | exact .number known | cases accepted
      | _ => cases accepted
    | boolean =>
      rw [known] at accepted
      cases value <;> first | exact .boolean known | cases accepted
    | string =>
      rw [known] at accepted
      cases value with
      | str text =>
        dsimp only at accepted
        split at accepted
        next values found =>
          exact .enumerated known found (List.contains_iff_mem.1 accepted)
        next free => exact .text known free (of_decide_eq_true accepted)
      | _ => cases accepted
  · intro typed
    unfold leafValueOk
    cases typed with
    | number isNumber => rw [isNumber]
    | boolean isBoolean => rw [isBoolean]
    | enumerated isString found member =>
      rw [isString, found]
      exact List.contains_iff_mem.2 member
    | text isString free short =>
      rw [isString, free]
      exact decide_eq_true short

theorem operandAllowed_of_clean {operator : PolicyOperator} {kind : FieldKind}
    {value : Option JsonValue} (known : descriptor.kind = some kind)
    (clean : operandErrors rule descriptor operator value = []) :
    OperandAllowed descriptor operator value := by
  unfold operandErrors at clean
  split at clean
  next nothing =>
    cases value with
    | none => exact .nothing nothing
    | some value => cases clean
  next something =>
    obtain ⟨numeric, operand⟩ := List.append_eq_nil_iff.1 clean
    have compares : operator.isNumeric = true → descriptor.kind = some .number := by
      intro isNumeric
      by_contra other
      simp [isNumeric, other] at numeric
    split at operand
    next takesArray =>
      split at operand
      next items =>
        split at operand
        · cases operand
        next fits =>
          simp only [List.isEmpty_iff, not_or, Nat.not_lt] at fits
          refine .list takesArray fits.1 fits.2 ?_
          intro item member
          rw [List.map_eq_nil_iff, List.filter_eq_nil_iff] at operand
          refine (typedValue_iff descriptor kind known item).1 ?_
          simpa using operand item member
      · cases operand
    next takesOne =>
      cases value with
      | none =>
        split at operand
        next accepted =>
          unfold leafValueOk at accepted
          rw [known] at accepted
          cases kind <;> cases accepted
        · cases operand
      | some value =>
        refine .single (by simpa using something) (by simpa using takesOne) compares ?_
        refine (typedValue_iff descriptor kind known value).1 ?_
        by_contra refused
        simp [refused] at operand

section

variable (purpose : ChildSafetyPolicyPurpose)

theorem policyFieldsFor_own (found : (policyFieldsFor purpose).lookup name = some descriptor) :
    objectPrototypeKeys.contains name = false ∧ ∃ kind, descriptor.kind = some kind := by
  have all : ∀ entry ∈ policyFieldsFor purpose,
      objectPrototypeKeys.contains entry.1 = false ∧ entry.2.kind.isSome = true := by
    cases purpose <;> decide
  have own := all _ (Json.mem_of_lookup found)
  exact ⟨own.1, Option.isSome_iff_exists.1 own.2⟩

theorem leafAllowed_iff {leaf : PolicyLeaf}
    (clean : leafErrors (policyFieldsFor purpose) rule leaf.field leaf.operator leaf.value =
      some []) :
    LeafAllowed (policyFieldsFor purpose) leaf ↔ PlainLeaf leaf := by
  obtain ⟨name, key, clean⟩ := Option.map_eq_some_iff.1 clean
  constructor
  · rintro ⟨named, descriptor, operator, named_key, found, _⟩ other otherKey
    rw [named_key] at otherKey
    cases otherKey
    exact (policyFieldsFor_own purpose found).1
  · intro plain
    have own : fieldAt (policyFieldsFor purpose) name = (policyFieldsFor purpose).lookup name := by
      unfold fieldAt
      rw [plain name key]
      exact Option.or_none
    rw [own] at clean
    split at clean
    · cases clean
    next descriptor found =>
      split at clean
      · cases clean
      next operator known =>
        obtain ⟨kind, kinded⟩ := (policyFieldsFor_own purpose found).2
        exact ⟨name, descriptor, operator, key, found, known, operandAllowed_of_clean kinded clean⟩

theorem conditionAllowed_iff {condition : PolicyNode} {after : Nat}
    (clean : walk (policyFieldsFor purpose) rule 1 0 condition = some (after, [])) :
    ConditionAllowed (policyFieldsFor purpose) condition ↔
      ∀ leaf ∈ condition.leaves, PlainLeaf leaf := by
  have walked := walk_clean (policyFieldsFor purpose) rule condition clean
  constructor
  · intro allowed leaf member
    exact (leafAllowed_iff purpose (walked.leaves leaf member)).1 (allowed.leaves leaf member)
  · intro plain
    refine ⟨?_, walked.groups, ?_, ?_⟩
    · intro leaf member
      exact (leafAllowed_iff purpose (walked.leaves leaf member)).2 (plain leaf member)
    · have deep := walked.depth
      omega
    · have few := walked.bound
      have size := walked.size
      omega

end

theorem mem_ownOrder (fields : List (String × JsonValue)) (field : String × JsonValue) :
    field ∈ Json.ownOrder fields ↔ field ∈ fields :=
  (Json.ownOrder_perm fields).mem_iff

theorem mem_of_payloadOnlyKeys {fields : List (String × JsonValue)} {keys : List String}
    (clean : payloadOnlyKeys (.obj fields) keys = []) : ∀ field ∈ fields, field.1 ∈ keys := by
  intro field member
  unfold payloadOnlyKeys at clean
  rw [List.map_eq_nil_iff, List.filter_eq_nil_iff] at clean
  have listed := clean field.1 (List.mem_map_of_mem ((mem_ownOrder fields field).2 member))
  simpa using listed

theorem oneOf_of_enumKey {values : List String} (clean : enumKey payload key values = []) :
    ∃ value, payload.field? key = some value ∧ OneOf values value := by
  unfold enumKey at clean
  split at clean
  next accepted =>
    obtain ⟨text, read, member⟩ := (Option.any_eq_true _ _).1 accepted
    unfold asText at read
    split at read
    next found =>
      cases read
      exact ⟨_, found, _, List.contains_iff_mem.1 member, rfl⟩
    · cases read
  · cases clean

theorem fields_of_field? {value : JsonValue} (found : payload.field? key = some value) :
    ∃ fields, payload = .obj fields ∧ fields.lookup key = some value := by
  cases payload with
  | obj fields => exact ⟨fields, rfl, found⟩
  | _ => cases found

theorem written_payload {value : JsonValue}
    (found : (effectPayload effect).field? key = some value) :
    ∃ fields, effect.field? "payload" = some (.obj fields) ∧
      effectPayload effect = .obj fields := by
  obtain ⟨fields, same, value_of⟩ := fields_of_field? found
  refine ⟨fields, ?_, same⟩
  unfold effectPayload at same
  split at same
  · cases same
    cases value_of
  · cases same
    cases value_of
  next payload written => rw [written, same]

theorem payloadAllowed_of_members {fields : List (String × JsonValue)}
    (some_members : payloadMembers type ≠ [])
    (written : effect.field? "payload" = some (.obj fields))
    (only : payloadOnlyKeys (.obj fields) ((payloadMembers type).map Prod.fst) = [])
    (members : ∀ member ∈ payloadMembers type,
      ∃ value, (Json.obj fields).field? member.1 = some value ∧ member.2 value) :
    PayloadAllowed type (effect.field? "payload") := by
  rw [PayloadAllowed, if_neg some_members]
  exact ⟨fields, written, mem_of_payloadOnlyKeys only, members⟩

theorem payloadAllowed_of_single {values : List String}
    (single : payloadMembers type = [(key, OneOf values)])
    (clean : payloadOnlyKeys (effectPayload effect) [key] ++
      enumKey (effectPayload effect) key values = []) :
    PayloadAllowed type (effect.field? "payload") := by
  obtain ⟨only, allowed⟩ := List.append_eq_nil_iff.1 clean
  obtain ⟨value, found, _⟩ := oneOf_of_enumKey allowed
  obtain ⟨fields, written, same⟩ := written_payload found
  rw [same] at only allowed
  refine payloadAllowed_of_members ?_ written ?_ ?_
  · rw [single]
    exact List.cons_ne_nil _ _
  · rw [single]
    exact only
  · rw [single]
    simpa using oneOf_of_enumKey allowed

theorem reasonCode_of_clean (clean : reasonCodeErrors payload = []) :
    ∃ value, payload.field? "reasonCode" = some value ∧
      ∃ text, value = .str text ∧ text ≠ "" ∧ textLength text ≤ 64 := by
  unfold reasonCodeErrors at clean
  split at clean
  next accepted =>
    obtain ⟨text, read, bounded⟩ := (Option.any_eq_true _ _).1 accepted
    rw [Bool.and_eq_true] at bounded
    unfold asText at read
    split at read
    next found =>
      cases read
      exact ⟨_, found, _, rfl, of_decide_eq_true bounded.1, of_decide_eq_true bounded.2⟩
    · cases read
  · cases clean

theorem requiresApproval_of_clean (clean : requiresApprovalErrors payload = []) :
    ∃ value, payload.field? "requiresApproval" = some value ∧ ∃ flag, value = .bool flag := by
  unfold requiresApprovalErrors at clean
  split at clean
  next flag found => exact ⟨_, found, flag, rfl⟩
  · cases clean

theorem prerequisites_of_clean (clean : prerequisitesErrors payload = []) :
    ∃ value, payload.field? "prerequisites" = some value ∧
      ∃ items, value = .arr items ∧ items.length ≤ 10 ∧
        ∀ item ∈ items, ∃ text, item = .str text ∧ textLength text ≤ 64 := by
  unfold prerequisitesErrors at clean
  split at clean
  next items found =>
    split at clean
    next fits =>
      refine ⟨_, found, items, rfl, fits.1, ?_⟩
      intro item member
      obtain ⟨text, read, short⟩ :=
        (Option.any_eq_true _ _).1 (List.all_eq_true.1 fits.2 item member)
      cases item with
      | str written =>
        cases read
        exact ⟨text, rfl, of_decide_eq_true short⟩
      | _ => cases read
    · cases clean
  · cases clean

theorem effectAllowed_of_members (some_members : payloadMembers type ≠ [])
    (clean : effectPayloadSpec type (effectPayload effect) = []) :
    PayloadAllowed type (effect.field? "payload") := by
  cases type with
  | setRecommendedSeverity => exact payloadAllowed_of_single rfl clean
  | setRecommendedUrgency => exact payloadAllowed_of_single rfl clean
  | setEscalationLevel => exact payloadAllowed_of_single rfl clean
  | proposeProtectionAction =>
    simp only [effectPayloadSpec, List.append_eq_nil_iff] at clean
    obtain ⟨only, action, reason, approval⟩ := clean
    obtain ⟨value, found, _⟩ := oneOf_of_enumKey action
    obtain ⟨fields, written, same⟩ := written_payload found
    rw [same] at only action reason approval
    refine payloadAllowed_of_members some_members written only ?_
    intro member listed
    simp only [payloadMembers, List.mem_cons, List.not_mem_nil, or_false] at listed
    rcases listed with rfl | rfl | rfl
    · exact oneOf_of_enumKey action
    · exact reasonCode_of_clean reason
    · exact requiresApproval_of_clean approval
  | allowAutomaticIntervention =>
    simp only [effectPayloadSpec, List.append_eq_nil_iff] at clean
    obtain ⟨only, intervention, severity, urgency, prerequisites⟩ := clean
    obtain ⟨value, found, _⟩ := oneOf_of_enumKey intervention
    obtain ⟨fields, written, same⟩ := written_payload found
    rw [same] at only intervention severity urgency prerequisites
    refine payloadAllowed_of_members some_members written only ?_
    intro member listed
    simp only [payloadMembers, List.mem_cons, List.not_mem_nil, or_false] at listed
    rcases listed with rfl | rfl | rfl | rfl
    · exact oneOf_of_enumKey intervention
    · exact oneOf_of_enumKey severity
    · exact oneOf_of_enumKey urgency
    · exact prerequisites_of_clean prerequisites
  | _ => exact absurd rfl some_members

theorem effectAllowed_iff (clean : effectErrors rule index effect = []) :
    EffectAllowed effect ↔ PlainEffect effect := by
  unfold effectErrors at clean
  dsimp only at clean
  split at clean
  · cases clean
  next type known =>
    rw [List.map_eq_nil_iff] at clean
    constructor
    · rintro ⟨named, read, allowed⟩ other otherRead noMembers
      rw [read] at otherRead
      cases otherRead
      rwa [PayloadAllowed, if_pos noMembers] at allowed
    · intro plain
      refine ⟨type, known, ?_⟩
      by_cases noMembers : payloadMembers type = []
      · rw [PayloadAllowed, if_pos noMembers]
        exact plain type known noMembers
      · exact effectAllowed_of_members noMembers clean

structure RuleClean (fields : PolicyFields) (rule : JsonValue) : Prop where
  condition : ∃ name condition after, rule.field? "condition" = some condition ∧
    walk fields name 1 0 (readNode condition) = some (after, [])
  effects : ∃ name items, rule.field? "effects" = some (.arr items) ∧
    ∀ effect ∈ items, ∃ index, effectErrors name index effect = []

theorem effects_of_clean {effects : Option JsonValue} (clean : effectsErrors name effects = []) :
    ∃ items, effects = some (.arr items) ∧
      ∀ effect ∈ items, ∃ index, effectErrors name index effect = [] := by
  unfold effectsErrors at clean
  split at clean
  next items =>
    split at clean
    · cases clean
    · refine ⟨items, rfl, ?_⟩
      intro effect member
      obtain ⟨_, each⟩ := List.append_eq_nil_iff.1 clean
      obtain ⟨index, inside, same⟩ := List.getElem_of_mem member
      have indexed : (effect, index) ∈ items.zipIdx := by
        rw [List.mk_mem_zipIdx_iff_getElem?, List.getElem?_eq_getElem inside, same]
      exact ⟨index, List.flatMap_eq_nil_iff.1 each (effect, index) indexed⟩
  · cases clean

theorem ruleId_of_clean {after : List String} {id : Option JsonValue}
    (clean : ruleIdErrors name seen id = (after, [])) :
    ∃ text, asText id = some text ∧ after = text :: seen ∧ text ∉ seen := by
  unfold ruleIdErrors at clean
  split at clean
  · cases clean
  next text read =>
    split at clean
    · cases clean
    · obtain ⟨rfl, unseen⟩ := Prod.mk.injEq .. ▸ clean
      refine ⟨text, read, rfl, ?_⟩
      intro member
      rw [if_pos (List.contains_iff_mem.2 member)] at unseen
      cases unseen

theorem rule_of_clean {after : List String} {rule : JsonValue}
    (clean : ruleErrors fields index seen rule = some (after, [])) :
    RuleClean fields rule ∧
      ∃ text, asText (rule.field? "id") = some text ∧ after = text :: seen ∧ text ∉ seen := by
  unfold ruleErrors at clean
  dsimp only at clean
  split at clean
  · cases clean
  · obtain ⟨⟨reached, found⟩, walked, errors⟩ := Option.map_eq_some_iff.1 clean
    simp only [Prod.mk.injEq, List.append_eq_nil_iff] at errors
    obtain ⟨seenAfter, idErrors, _, _, _, effectErrors, rfl⟩ := errors
    refine ⟨⟨?_, ?_⟩, ruleId_of_clean (Prod.ext seenAfter idErrors)⟩
    · cases written : rule.field? "condition" with
      | none =>
        rw [written] at walked
        cases (walkBounds_clean walked).2.2
      | some condition =>
        rw [written] at walked
        exact ⟨_, condition, reached, rfl, walked⟩
    · obtain ⟨items, written, each⟩ := effects_of_clean effectErrors
      exact ⟨_, items, written, each⟩

theorem rules_of_clean {rules : List JsonValue}
    (clean : rulesErrors fields index seen rules = some []) :
    (∀ rule ∈ rules, RuleClean fields rule) ∧
      ∃ ids : List String, rules.map (fun rule => asText (rule.field? "id")) = ids.map some ∧
        ids.Nodup ∧ ∀ id ∈ ids, id ∉ seen := by
  induction rules generalizing index seen with
  | nil => exact ⟨nofun, [], rfl, List.nodup_nil, nofun⟩
  | cons rule rest ih =>
    rw [rulesErrors] at clean
    obtain ⟨⟨after, firstErrors⟩, first, clean⟩ := Option.bind_eq_some_iff.1 clean
    obtain ⟨others, rest_clean, errors⟩ := Option.map_eq_some_iff.1 clean
    obtain ⟨rfl, rfl⟩ := List.append_eq_nil_iff.1 errors
    obtain ⟨ruleClean, text, read, rfl, unseen⟩ := rule_of_clean first
    obtain ⟨restClean, ids, reads, distinct, fresh⟩ := ih rest_clean
    refine ⟨List.forall_mem_cons.2 ⟨ruleClean, restClean⟩, text :: ids, ?_, ?_, ?_⟩
    · rw [List.map_cons, List.map_cons, read, reads]
    · refine List.nodup_cons.2 ⟨?_, distinct⟩
      intro member
      exact fresh text member List.mem_cons_self
    · refine List.forall_mem_cons.2 ⟨unseen, ?_⟩
      intro id member there
      exact fresh id member (List.mem_cons_of_mem _ there)

structure DefinitionClean (definition : JsonValue) (purpose : ChildSafetyPolicyPurpose)
    (rules : List JsonValue) : Prop where
  named : readPolicyPurpose (definition.field? "purpose") = some purpose
  written : definition.field? "rules" = some (.arr rules)
  clean : ∀ rule ∈ rules, RuleClean (policyFieldsFor purpose) rule
  ids : ∃ ids : List String,
    rules.map (fun rule => asText (rule.field? "id")) = ids.map some ∧ ids.Nodup

theorem definition_of_valid (valid : isValidPolicyDefinition definition = true) :
    ∃ purpose rules, DefinitionClean definition purpose rules := by
  obtain ⟨result, validated, valid⟩ := (Option.any_eq_true _ _).1 valid
  unfold validateChildSafetyPolicyDefinition at validated
  split at validated
  · cases validated
    cases valid
  · split at validated
    next rules written =>
      obtain ⟨errors, checked, rfl⟩ := Option.map_eq_some_iff.1 validated
      have none := List.isEmpty_iff.1 valid
      rw [List.take_eq_nil_iff] at none
      have none := none.resolve_left (by decide)
      simp only [List.append_eq_nil_iff, headErrors] at none
      obtain ⟨⟨_, _, purposeErrors, _⟩, _, rfl⟩ := none
      cases known : readPolicyPurpose (definition.field? "purpose") with
      | none =>
        rw [known] at purposeErrors
        cases purposeErrors
      | some purpose =>
        rw [known] at checked
        obtain ⟨clean, ids, reads, distinct, _⟩ := rules_of_clean checked
        exact ⟨purpose, rules, known, written, clean, ids, reads, distinct⟩
    · cases validated
      cases valid

theorem definitionAllowed_iff (valid : isValidPolicyDefinition definition = true) :
    DefinitionAllowed definition ↔ PlainDefinition definition := by
  obtain ⟨purpose, rules, definitionClean⟩ := definition_of_valid valid
  constructor
  · rintro ⟨named, listed, ids, read, written, allowed, _⟩ others otherRules rule member
    rw [definitionClean.named] at read
    cases read
    rw [definitionClean.written] at written otherRules
    cases written
    cases otherRules
    obtain ⟨⟨condition, wrote, conditionAllowed⟩, effects, wroteEffects, each⟩ :=
      allowed rule member
    obtain ⟨⟨name, walked, after, walkedWrote, clean⟩, place, items, itemsWrote, itemsClean⟩ :=
      definitionClean.clean rule member
    refine ⟨?_, ?_⟩
    · intro given givenWrote
      rw [wrote] at givenWrote walkedWrote
      cases givenWrote
      cases walkedWrote
      exact (conditionAllowed_iff purpose clean).1 conditionAllowed
    · intro given givenWrote effect effectMember
      rw [wroteEffects] at givenWrote itemsWrote
      cases givenWrote
      cases itemsWrote
      obtain ⟨index, effectClean⟩ := itemsClean effect effectMember
      exact (effectAllowed_iff effectClean).1 (each effect effectMember)
  · intro plain
    obtain ⟨ids, reads, distinct⟩ := definitionClean.ids
    refine ⟨purpose, rules, ids, definitionClean.named, definitionClean.written, ?_, reads,
      distinct⟩
    intro rule member
    obtain ⟨⟨name, condition, after, wrote, clean⟩, place, items, itemsWrote, itemsClean⟩ :=
      definitionClean.clean rule member
    obtain ⟨plainLeaves, plainEffects⟩ := plain rules definitionClean.written rule member
    refine ⟨⟨condition, wrote, ?_⟩, items, itemsWrote, ?_⟩
    · exact (conditionAllowed_iff purpose clean).2 (plainLeaves condition wrote)
    · intro effect effectMember
      obtain ⟨index, effectClean⟩ := itemsClean effect effectMember
      exact (effectAllowed_iff effectClean).2 (plainEffects items itemsWrote effect effectMember)

/-! The evaluation of an allowed definition. -/

def SameFacts (fields : PolicyFields) (left right : Facts) : Prop :=
  ∀ name ∈ fields.map Prod.fst, left name = right name

theorem SameFacts.factAt (same : SameFacts fields left right)
    (listed : fields.lookup name = some descriptor) : factAt left name = factAt right name := by
  unfold Core.factAt
  rw [same name (List.mem_map_of_mem (Json.mem_of_lookup listed))]

theorem canonicalPolicyInput_congr {purpose : ChildSafetyPolicyPurpose}
    (same : SameFacts (policyFieldsFor purpose) left right) :
    canonicalPolicyInput purpose left = canonicalPolicyInput purpose right := by
  unfold canonicalPolicyInput
  dsimp only
  rw [List.filterMap_congr]
  intro name member
  rw [List.mem_insertionSort] at member
  unfold Core.factAt
  rw [same name member]

theorem evalLeaf_congr (same : SameFacts fields left right) {leaf : PolicyLeaf}
    (allowed : LeafAllowed fields leaf) :
    evalLeaf left leaf.field leaf.operator leaf.value =
      evalLeaf right leaf.field leaf.operator leaf.value := by
  obtain ⟨name, descriptor, operator, key, listed, _⟩ := allowed
  unfold evalLeaf
  rw [key, Option.map_some, Option.map_some, same.factAt listed]

mutual

theorem evalNode_congr {left right : Facts} (node : PolicyNode)
    (same : ∀ leaf ∈ node.leaves, evalLeaf left leaf.field leaf.operator leaf.value =
      evalLeaf right leaf.field leaf.operator leaf.value) :
    evalNode left node = evalNode right node := by
  cases node with
  | bare isNull => rw [evalNode, evalNode]
  | leaf field operator value =>
    rw [evalNode, evalNode]
    exact same ⟨field, operator, value⟩ (List.mem_singleton_self _)
  | group kind nodes =>
    rw [evalNode, evalNode, evalEvery_congr nodes same, evalSome_congr nodes same]

theorem evalEvery_congr {left right : Facts} (nodes : List PolicyNode)
    (same : ∀ leaf ∈ PolicyNode.leavesOf nodes, evalLeaf left leaf.field leaf.operator leaf.value =
      evalLeaf right leaf.field leaf.operator leaf.value) :
    evalEvery left nodes = evalEvery right nodes := by
  cases nodes with
  | nil => rw [evalEvery, evalEvery]
  | cons node rest =>
    obtain ⟨first, others⟩ := List.forall_mem_append.1 same
    rw [evalEvery, evalEvery, evalNode_congr node first, evalEvery_congr rest others]

theorem evalSome_congr {left right : Facts} (nodes : List PolicyNode)
    (same : ∀ leaf ∈ PolicyNode.leavesOf nodes, evalLeaf left leaf.field leaf.operator leaf.value =
      evalLeaf right leaf.field leaf.operator leaf.value) :
    evalSome left nodes = evalSome right nodes := by
  cases nodes with
  | nil => rw [evalSome, evalSome]
  | cons node rest =>
    obtain ⟨first, others⟩ := List.forall_mem_append.1 same
    rw [evalSome, evalSome, evalNode_congr node first, evalSome_congr rest others]

end

theorem run_congr (rules : List PolicyRule) (found : Matches)
    (same : ∀ rule ∈ rules, evalNode left rule.condition = evalNode right rule.condition) :
    rules.foldlM (Matches.run left) found = rules.foldlM (Matches.run right) found := by
  induction rules generalizing found with
  | nil => rfl
  | cons rule rest ih =>
    obtain ⟨first, others⟩ := List.forall_mem_cons.1 same
    have step : Matches.run left found rule = Matches.run right found rule := by
      unfold Matches.run
      rw [first]
    rw [List.foldlM_cons, List.foldlM_cons, step]
    exact congrArg _ (funext fun after => ih after others)

theorem readRule_condition {rule condition : JsonValue}
    (written : rule.field? "condition" = some condition) :
    (readRule rule).condition = readNode condition := by
  unfold readRule
  rw [written]
  rfl

theorem mem_orderedRules {rules : List JsonValue} {rule : PolicyRule}
    (member : rule ∈ orderedRules rules) : ∃ written ∈ rules, rule = readRule written := by
  unfold orderedRules at member
  rw [List.mem_insertionSort, List.mem_filter, List.mem_map] at member
  obtain ⟨⟨written, listed, same⟩, _⟩ := member
  exact ⟨written, listed, same.symm⟩

theorem ChildSafetyPolicyPurpose.value_injective :
    Function.Injective ChildSafetyPolicyPurpose.value := by
  intro first second same
  cases first <;> cases second <;> first | rfl | exact absurd same (by decide)

theorem readPolicyPurpose_value {value : Option JsonValue} {purpose : ChildSafetyPolicyPurpose}
    (read : readPolicyPurpose value = some purpose) : asText value = some purpose.value := by
  unfold readPolicyPurpose at read
  have same := List.find?_some read
  exact eq_of_beq same

theorem readsAllowedFacts (allowed : DefinitionAllowed definition) :
    ReadsAllowedFacts definition := by
  intro localeLess input facts same
  obtain ⟨purpose, rules, ids, read, written, rulesAllowed, _⟩ := allowed
  have canonical : canonicalPolicyInput input.purpose facts =
      canonicalPolicyInput input.purpose input.facts :=
    (canonicalPolicyInput_congr same).symm
  unfold evaluateChildSafetyPolicy
  dsimp only
  rw [canonical, written, readPolicyPurpose_value read]
  by_cases ours : purpose = input.purpose
  · subst ours
    have runs : (orderedRules rules).foldlM (Matches.run facts) ⟨[], [], [], []⟩ =
        (orderedRules rules).foldlM (Matches.run input.facts) ⟨[], [], [], []⟩ := by
      refine run_congr _ _ ?_
      intro rule member
      obtain ⟨wrote, listed, rfl⟩ := mem_orderedRules member
      obtain ⟨condition, conditionWritten, conditionAllowed⟩ :=
        (rulesAllowed wrote listed).condition
      rw [readRule_condition conditionWritten]
      exact (evalNode_congr _ fun leaf member =>
        evalLeaf_congr same (conditionAllowed.leaves leaf member)).symm
    rw [beq_self_eq_true]
    dsimp only
    rw [runs]
  · have other : (some purpose.value == some input.purpose.value) = false := by
      rw [beq_eq_false_iff_ne]
      intro equal
      exact ours (ChildSafetyPolicyPurpose.value_injective (Option.some.inj equal))
    rw [other]

/-- The language is kept exactly by the definitions that look up no inherited member and give no
payload to an effect that has none. -/
theorem validPolicy_allowed_iff (definition : JsonValue)
    (valid : isValidPolicyDefinition definition = true) :
    DefinitionAllowed definition ∧ ReadsAllowedFacts definition ↔ PlainDefinition definition := by
  constructor
  · rintro ⟨allowed, _⟩
    exact (definitionAllowed_iff valid).1 allowed
  · intro plain
    have allowed := (definitionAllowed_iff valid).2 plain
    exact ⟨allowed, readsAllowedFacts allowed⟩

def existsPolicy (field : String) : JsonValue :=
  .obj [("schemaVersion", .num schemaVersionNumber), ("purpose", .str "ESCALATION"),
    ("defaultEffect", .str "NO_ACTION"),
    ("rules", .arr [.obj
      [("id", .str "known"), ("priority", .num schemaVersionNumber), ("enabled", .bool true),
        ("explanationCode", .str "fact_known"),
        ("condition", .obj [("field", .str field), ("operator", .str "EXISTS")]),
        ("effects", .arr [.obj [("type", .str "REQUIRE_REVIEW")]])]])]

def unlistedFacts (constructor : Option Fact) : Facts := fun name =>
  if name = "constructor" then constructor else none

def unlistedInput (constructor : Option Fact) : ChildSafetyPolicyEvaluationInput :=
  ⟨.escalation, unlistedFacts constructor, "2026-01-01T00:00:00.000Z", false⟩

theorem existsPolicy_facts :
    isValidPolicyDefinition (existsPolicy "severity") = true ∧
      isValidPolicyDefinition (existsPolicy "constructor") = true ∧
      evaluateChildSafetyPolicy (fun left right => decide (left < right))
          (unlistedInput (some (.json .null))) (existsPolicy "constructor") ≠
        evaluateChildSafetyPolicy (fun left right => decide (left < right))
          (unlistedInput none) (existsPolicy "constructor") := by
  decide +kernel

theorem validPolicy_allowed_severity :
    DefinitionAllowed (existsPolicy "severity") ∧ ReadsAllowedFacts (existsPolicy "severity") := by
  refine (validPolicy_allowed_iff _ existsPolicy_facts.1).2 ?_
  intro rules written rule member
  cases written
  cases List.mem_singleton.1 member
  refine ⟨?_, ?_⟩
  · intro condition wrote leaf listed name key
    cases wrote
    cases List.mem_singleton.1 listed
    cases key
    decide
  · intro effects wrote effect listed type read _
    cases wrote
    cases List.mem_singleton.1 listed
    exact .inl rfl

/-- The rule on `constructor` is accepted, and reads a fact that is not of the table. -/
theorem not_validPolicy_allowed :
    ¬ ∀ definition, isValidPolicyDefinition definition = true →
      DefinitionAllowed definition ∧ ReadsAllowedFacts definition := by
  intro all
  obtain ⟨_, accepted, differs⟩ := existsPolicy_facts
  obtain ⟨_, reads⟩ := all (existsPolicy "constructor") accepted
  refine differs (reads _ (unlistedInput none) (unlistedFacts (some (.json .null))) ?_)
  have listed : ∀ name ∈ incidentFields.map Prod.fst, name ≠ "constructor" := by decide
  intro name member
  change unlistedFacts none name = unlistedFacts (some (.json .null)) name
  rw [unlistedFacts, unlistedFacts, if_neg (listed name member), if_neg (listed name member)]

end Tamanor.Core
