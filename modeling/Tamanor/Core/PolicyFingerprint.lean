import Tamanor.Core.PolicyPrecedence

/-! The canonical input against the decision that is taken on it (`child-safety-policy.ts` of the
core). The canonical text holds the facts of the table; a condition can also read a fact that is
named like a member that every object inherits. -/

set_option autoImplicit false

namespace Tamanor.Core

open Library

def Fact.isPlain : Fact → Bool
  | .undefined => true
  | .json value =>
    match value with
    | .null | .bool _ | .num (.finite _) | .str _ => true
    | _ => false
  | _ => false

def PlainFacts (facts : Facts) : Prop :=
  ∀ name fact, facts name = some fact → fact.isPlain = true

/-- Two records that differ only in facts named like a member that every object inherits. -/
def SameButInherited (left right : Facts) : Prop :=
  ∀ name, objectPrototypeKeys.contains name = false → left name = right name

def SameOutcome (localeLess : String → String → Bool) (definition : JsonValue)
    (input other : ChildSafetyPolicyEvaluationInput) : Prop :=
  ∃ first second, evaluateChildSafetyPolicy localeLess input definition = some first ∧
    evaluateChildSafetyPolicy localeLess other definition = some second ∧
    first.matchedRuleIds = second.matchedRuleIds ∧
    first.explanationCodes = second.explanationCodes ∧ first.decision = second.decision

structure FingerprintDecides (localeLess : String → String → Bool) (definition : JsonValue) :
    Prop where
  decides : ∀ input other, PlainFacts input.facts → PlainFacts other.facts →
    canonicalPolicyInput input.purpose input.facts =
      canonicalPolicyInput other.purpose other.facts →
    SameOutcome localeLess definition input other
  unlisted : ∀ (input : ChildSafetyPolicyEvaluationInput) facts, PlainFacts input.facts →
    PlainFacts facts → SameFacts (policyFieldsFor input.purpose) input.facts facts →
    canonicalPolicyInput input.purpose input.facts = canonicalPolicyInput input.purpose facts ∧
      SameOutcome localeLess definition input { input with facts := facts }

/-- No rule that is enabled has a condition whose truth rests on an inherited name. -/
def IgnoresInherited (definition : JsonValue) : Prop :=
  ∀ rules, definition.field? "rules" = some (.arr rules) → ∀ rule ∈ rules,
    (readRule rule).enabled = true → ∀ left right, PlainFacts left → PlainFacts right →
      SameButInherited left right →
        evalNode left (readRule rule).condition = evalNode right (readRule rule).condition

/-! The canonical text gives the facts of the table back. -/

theorem listed_not_inherited (purpose : ChildSafetyPolicyPurpose) :
    ∀ name ∈ (policyFieldsFor purpose).map Prod.fst, objectPrototypeKeys.contains name = false := by
  cases purpose <;> decide

theorem isPlain_factAt {facts : Facts} (plain : PlainFacts facts) {name : String}
    (own : objectPrototypeKeys.contains name = false) : (factAt facts name).isPlain = true := by
  unfold factAt
  rw [own]
  cases found : facts name with
  | none => rfl
  | some fact => exact plain name fact found

variable {fact : Fact} {purpose : ChildSafetyPolicyPurpose} {localeLess : String → String → Bool}
  {definition : JsonValue}

theorem finite_canonicalFact {value : JsonValue} (written : canonicalFact fact = some value) :
    value.finite = true := by
  unfold canonicalFact at written
  split at written <;> cases written <;> rfl

theorem canonicalFact_of_plain (plain : fact.isPlain = true) :
    (canonicalFact fact = none ∧ fact.isMissing = true) ∨
      ∃ value, canonicalFact fact = some value ∧ fact = .json value := by
  cases fact with
  | undefined => exact .inl ⟨rfl, rfl⟩
  | json value =>
    cases value with
    | null => exact .inl ⟨rfl, rfl⟩
    | bool _ | str _ => exact .inr ⟨_, rfl, rfl⟩
    | num number => cases number <;> first | exact .inr ⟨_, rfl, rfl⟩ | cases plain
    | _ => cases plain
  | _ => cases plain

theorem canonicalFact_inj {left right : Fact} (plain : left.isPlain = true)
    (plainToo : right.isPlain = true) (same : canonicalFact left = canonicalFact right) :
    left = right ∨ left.isMissing = true ∧ right.isMissing = true := by
  rcases canonicalFact_of_plain plain with ⟨none, missing⟩ | ⟨value, some, rfl⟩
  · rcases canonicalFact_of_plain plainToo with ⟨_, missingToo⟩ | ⟨value, some, _⟩
    · exact .inr ⟨missing, missingToo⟩
    · rw [none, some] at same
      cases same
  · rcases canonicalFact_of_plain plainToo with ⟨none, _⟩ | ⟨other, someToo, rfl⟩
    · rw [none, some] at same
      cases same
    · rw [some, someToo] at same
      cases same
      exact .inl rfl

theorem filterMap_names_inj {names : List String} {left right : String → Option JsonValue}
    (same : (names.filterMap fun name => (left name).map fun value => (name, value)) =
      names.filterMap fun name => (right name).map fun value => (name, value)) {name : String}
    (member : name ∈ names) : left name = right name := by
  have mem_iff (values : String → Option JsonValue) (value : JsonValue) :
      values name = some value ↔ (name, value) ∈
        names.filterMap fun name => (values name).map fun value => (name, value) := by
    simp [List.mem_filterMap, member]
  ext value
  rw [mem_iff, same, ← mem_iff]

theorem canonicalPolicyInput_inj {other : ChildSafetyPolicyPurpose} {left right : Facts}
    (plain : PlainFacts left) (plainToo : PlainFacts right)
    (same : canonicalPolicyInput purpose left = canonicalPolicyInput other right) :
    purpose = other ∧ ∀ name ∈ (policyFieldsFor purpose).map Prod.fst,
      factAt left name = factAt right name ∨
        (factAt left name).isMissing = true ∧ (factAt right name).isMissing = true := by
  have finite (purpose : ChildSafetyPolicyPurpose) (facts : Facts) (names : List String) :
      Json.finite (.obj [("p", .str purpose.value), ("e", .str childSafetyPolicyEngineVersion),
        ("s", .num schemaVersionNumber), ("f", .obj (names.filterMap fun name =>
          (canonicalFact (factAt facts name)).map fun value => (name, value)))]) = true := by
    have facts : Json.finiteFields (names.filterMap fun name =>
        (canonicalFact (factAt facts name)).map fun value => (name, value)) = true := by
      refine Json.finiteFields_iff.mpr fun field member => ?_
      obtain ⟨name, _, written⟩ := List.mem_filterMap.1 member
      obtain ⟨value, isFact, rfl⟩ := Option.map_eq_some_iff.1 written
      exact finite_canonicalFact isFact
    simp [Json.finite, Json.finiteFields, facts]
  have values := Json.erase_eq_of_print (String.ofList_injective same)
  rw [Json.erase_of_finite _ (finite _ _ _), Json.erase_of_finite _ (finite _ _ _)]
    at values
  simp only [Json.obj.injEq, List.cons.injEq, Prod.mk.injEq, Json.str.injEq, true_and,
    and_true] at values
  obtain ⟨purposes, facts⟩ := values
  obtain rfl := ChildSafetyPolicyPurpose.value_injective purposes
  refine ⟨rfl, ?_⟩
  intro name member
  have own := listed_not_inherited purpose name member
  refine canonicalFact_inj (isPlain_factAt plain own) (isPlain_factAt plainToo own) ?_
  exact filterMap_names_inj facts (List.mem_insertionSort _ |>.2 member)

/-! A leaf tells no more of a fact than the text does. -/

theorem not_strictEquals_of_missing {descriptor : FieldDescriptor} {value : JsonValue}
    (missing : fact.isMissing = true) (typed : TypedValue descriptor value) :
    fact.strictEquals (some value) = false := by
  unfold Fact.isMissing at missing
  split at missing
  · cases typed <;> rfl
  · cases typed <;> rfl
  · cases missing

theorem not_compares_of_missing (missing : fact.isMissing = true) (value : Option JsonValue)
    (test : JsonValue → JsonValue → Bool) :
    fact.compares value test = false := by
  unfold Fact.isMissing at missing
  split at missing
  · rfl
  · cases value <;> rfl
  · cases missing

theorem holds_of_missing {descriptor : FieldDescriptor} {operator : PolicyOperator}
    {value : Option JsonValue} {left right : Fact} (missing : left.isMissing = true)
    (missingToo : right.isMissing = true) (operand : OperandAllowed descriptor operator value) :
    operator.holds left value = operator.holds right value := by
  cases operand with
  | nothing takes =>
    cases operator <;> first
      | exact absurd takes (by decide)
      | simp [PolicyOperator.holds, missing, missingToo]
  | list takes _ _ typed =>
    have none {fact : Fact} (absent : fact.isMissing = true) {items : List JsonValue}
        (typed : ∀ item ∈ items, TypedValue descriptor item) :
        (items.any fun item => fact.strictEquals (some item)) = false := by
      rw [List.any_eq_false]
      intro item member
      rw [not_strictEquals_of_missing absent (typed item member)]
      exact Bool.false_ne_true
    cases operator <;> first
      | exact absurd takes (by decide)
      | simp [PolicyOperator.holds, includes, none missing typed, none missingToo typed]
  | single takesValue takesOne _ typed =>
    cases operator <;> first
      | exact absurd takesValue (by decide)
      | exact absurd takesOne (by decide)
      | simp [PolicyOperator.holds, not_strictEquals_of_missing missing typed,
          not_strictEquals_of_missing missingToo typed, not_compares_of_missing missing,
          not_compares_of_missing missingToo]

theorem evalLeaf_of_listed {left right : Facts}
    (listed : ∀ name ∈ (policyFieldsFor purpose).map Prod.fst,
      factAt left name = factAt right name ∨
        (factAt left name).isMissing = true ∧ (factAt right name).isMissing = true)
    (inherited : ∀ name, objectPrototypeKeys.contains name = true → left name = right name)
    {rule : String} {leaf : PolicyLeaf}
    (clean : leafErrors (policyFieldsFor purpose) rule leaf.field leaf.operator leaf.value =
      some []) :
    evalLeaf left leaf.field leaf.operator leaf.value =
      evalLeaf right leaf.field leaf.operator leaf.value := by
  obtain ⟨name, key, _⟩ := Option.map_eq_some_iff.1 clean
  unfold evalLeaf
  rw [key, Option.map_some, Option.map_some]
  cases own : objectPrototypeKeys.contains name with
  | true =>
    have same : factAt left name = factAt right name := by
      unfold factAt
      rw [inherited name own]
    rw [same]
  | false =>
    have plain : PlainLeaf leaf := by
      intro other otherKey
      rw [key] at otherKey
      cases otherKey
      exact own
    obtain ⟨named, descriptor, operator, namedKey, found, known, operand⟩ :=
      (leafAllowed_iff purpose clean).2 plain
    rw [key] at namedKey
    cases namedKey
    rw [known]
    rcases listed name (List.mem_map_of_mem (Json.mem_of_lookup found)) with same | ⟨missing, missingToo⟩
    · rw [same]
    · exact congrArg some (holds_of_missing missing missingToo operand)

/-! What the evaluation makes of the conditions. -/

section

variable (valid : isValidPolicyDefinition definition = true)
include valid

theorem sameOutcome_of_conditions {input other : ChildSafetyPolicyEvaluationInput}
    {rules : List JsonValue} (clean : DefinitionClean definition purpose rules)
    (ours : input.purpose = other.purpose)
    (same : purpose = input.purpose → ∀ rule ∈ rules, (readRule rule).enabled = true →
      evalNode input.facts (readRule rule).condition =
        evalNode other.facts (readRule rule).condition) :
    SameOutcome localeLess definition input other := by
  obtain ⟨first, evaluated, _⟩ := evaluate_of_valid localeLess input valid
  obtain ⟨second, evaluatedToo, _⟩ := evaluate_of_valid localeLess other valid
  refine ⟨first, second, evaluated, evaluatedToo, ?_⟩
  unfold evaluateChildSafetyPolicy at evaluated evaluatedToo
  rw [clean.written, readPolicyPurpose_value clean.named] at evaluated evaluatedToo
  rw [← ours] at evaluatedToo
  dsimp only at evaluated evaluatedToo
  cases here : some purpose.value == some input.purpose.value with
  | false =>
    rw [here] at evaluated evaluatedToo
    cases evaluated
    cases evaluatedToo
    exact ⟨rfl, rfl, rfl⟩
  | true =>
    rw [here] at evaluated evaluatedToo
    have purposes := ChildSafetyPolicyPurpose.value_injective (Option.some.inj (eq_of_beq here))
    have runs : (orderedRules rules).foldlM (Matches.run other.facts) ⟨[], [], [], []⟩ =
        (orderedRules rules).foldlM (Matches.run input.facts) ⟨[], [], [], []⟩ := by
      refine run_congr _ _ ?_
      intro rule member
      obtain ⟨written, listed, rfl⟩ := mem_orderedRules member
      have enabled : (readRule written).enabled = true := by
        rw [orderedRules, List.mem_insertionSort, List.mem_filter] at member
        exact member.2
      exact (same purposes written listed enabled).symm
    dsimp only at evaluated evaluatedToo
    rw [runs] at evaluatedToo
    obtain ⟨found, ran, rest⟩ := Option.bind_eq_some_iff.1 evaluated
    obtain ⟨decision, merged, returned⟩ := Option.bind_eq_some_iff.1 rest
    obtain ⟨foundToo, ranToo, rest⟩ := Option.bind_eq_some_iff.1 evaluatedToo
    obtain ⟨decisionToo, mergedToo, returnedToo⟩ := Option.bind_eq_some_iff.1 rest
    rw [ran] at ranToo
    cases ranToo
    rw [merged] at mergedToo
    cases mergedToo
    cases returned
    cases returnedToo
    exact ⟨rfl, rfl, rfl⟩

theorem ignoresInherited_of_decides (fingerprint : FingerprintDecides localeLess definition) :
    IgnoresInherited definition := by
  intro rules written rule member enabled left right plain plainToo alike
  obtain ⟨purpose, others, clean⟩ := definition_of_valid valid
  have same := clean.written
  rw [written] at same
  cases same
  obtain ⟨ids, reads, distinct⟩ := clean.ids
  have matches_ {left right : Facts} (plain : PlainFacts left) (plainToo : PlainFacts right)
      (alike : SameButInherited left right)
      (holds : evalNode left (readRule rule).condition = some true) :
      evalNode right (readRule rule).condition = some true := by
    let input : ChildSafetyPolicyEvaluationInput := ⟨purpose, left, "", false⟩
    obtain ⟨_, first, second, evaluated, evaluatedToo, sameIds, _⟩ := fingerprint.unlisted input
      right plain plainToo fun name listed => alike name (listed_not_inherited purpose name listed)
    have idsOf {input : ChildSafetyPolicyEvaluationInput}
        {result : ChildSafetyPolicyEvaluationResult}
        (evaluated : evaluateChildSafetyPolicy localeLess input definition = some result) :
        result.matchedRuleIds = (matchedRules input definition).map PolicyRule.id := by
      obtain ⟨found, again, ids, _⟩ := evaluate_of_valid localeLess input valid
      rw [evaluated] at again
      cases again
      exact ids
    have ours : (asText (definition.field? "purpose") == some purpose.value) = true := by
      rw [readPolicyPurpose_value clean.named]
      exact beq_self_eq_true _
    have inside : readRule rule ∈ matchedRules input definition :=
      (mem_matchedRules written).2 ⟨ours, ⟨rule, member, rfl⟩, enabled, holds⟩
    have listed := List.mem_map_of_mem (f := PolicyRule.id) inside
    rw [← idsOf evaluated, sameIds, idsOf evaluatedToo] at listed
    obtain ⟨found, there, sameId⟩ := List.mem_map.1 listed
    obtain ⟨_, ⟨source, sourceListed, rfl⟩, _, holdsToo⟩ := (mem_matchedRules written).1 there
    rw [eq_of_ruleId reads distinct sourceListed member sameId] at holdsToo
    exact holdsToo
  obtain ⟨truth, evaluated⟩ := Option.isSome_iff_exists.1
    (condition_isSome (clean.clean rule member) left)
  obtain ⟨truthToo, evaluatedToo⟩ := Option.isSome_iff_exists.1
    (condition_isSome (clean.clean rule member) right)
  have forth := matches_ plain plainToo alike
  have back := matches_ plainToo plain fun name own => (alike name own).symm
  rw [evaluated, evaluatedToo] at forth back ⊢
  cases truth <;> cases truthToo <;> simp_all

theorem sameOutcome_of_ignores (ignores : IgnoresInherited definition)
    {input other : ChildSafetyPolicyEvaluationInput} (plain : PlainFacts input.facts)
    (plainToo : PlainFacts other.facts)
    (same : canonicalPolicyInput input.purpose input.facts =
      canonicalPolicyInput other.purpose other.facts) :
    SameOutcome localeLess definition input other := by
  obtain ⟨purpose, rules, clean⟩ := definition_of_valid valid
  obtain ⟨purposes, listed⟩ := canonicalPolicyInput_inj plain plainToo same
  refine sameOutcome_of_conditions valid clean purposes ?_
  rintro rfl rule member enabled
  -- the facts of the table from the one side, and the inherited names from the other
  let between : Facts := fun name =>
    if objectPrototypeKeys.contains name then other.facts name else input.facts name
  have plainBetween : PlainFacts between := by
    intro name fact found
    dsimp only [between] at found
    split at found
    · exact plainToo name fact found
    · exact plain name fact found
  have alike : SameButInherited input.facts between := by
    intro name own
    dsimp only [between]
    rw [own, if_neg Bool.false_ne_true]
  rw [ignores rules clean.written rule member enabled _ _ plain plainBetween alike]
  obtain ⟨name, condition, after, wrote, walked⟩ := (clean.clean rule member).condition
  rw [readRule_condition wrote]
  refine evalNode_congr _ fun leaf inside => evalLeaf_of_listed ?_ ?_
    ((walk_clean _ _ _ walked).leaves leaf inside)
  · intro name listedName
    have own := listed_not_inherited _ name listedName
    have here : factAt between name = factAt input.facts name := by
      unfold factAt
      rw [alike name own]
    rw [here]
    exact listed name listedName
  · intro name inherited
    dsimp only [between]
    rw [inherited, if_pos rfl]

end

/-- The text of the input decides the evaluation of just those definitions in which no enabled
rule rests on an inherited name. -/
theorem fingerprintDecides_iff (localeLess : String → String → Bool) (definition : JsonValue)
    (valid : isValidPolicyDefinition definition = true) :
    FingerprintDecides localeLess definition ↔ IgnoresInherited definition := by
  refine ⟨ignoresInherited_of_decides valid, ?_⟩
  intro ignores
  refine ⟨fun _ _ plain plainToo => sameOutcome_of_ignores valid ignores plain plainToo, ?_⟩
  intro input facts plain plainToo same
  have texts := canonicalPolicyInput_congr same
  exact ⟨texts, sameOutcome_of_ignores valid ignores plain plainToo texts⟩

theorem ignoresInherited_severity : IgnoresInherited (existsPolicy "severity") := by
  intro rules written rule member _ left right _ _ alike
  cases written
  cases List.mem_singleton.1 member
  refine evalNode_congr _ fun leaf inside => ?_
  cases List.mem_singleton.1 inside
  have same : factAt left "severity" = factAt right "severity" := by
    unfold factAt
    rw [alike "severity" (by decide)]
  exact congrArg (fun fact : Fact => some (!fact.isMissing)) same

theorem fingerprintDecides_severity :
    FingerprintDecides (fun left right => decide (left < right)) (existsPolicy "severity") :=
  (fingerprintDecides_iff _ _ existsPolicy_facts.1).2 ignoresInherited_severity

/-- With the rule on `constructor` two decisions are taken on one text. -/
theorem not_fingerprintDecides :
    ¬ ∀ localeLess definition, isValidPolicyDefinition definition = true →
      FingerprintDecides localeLess definition := by
  intro all
  have valid := existsPolicy_facts.2.1
  have ignores := ignoresInherited_of_decides valid
    (all (fun left right => decide (left < right)) _ valid)
  have differs := ignores _ rfl _ (List.mem_singleton_self _) rfl (unlistedFacts none)
    (unlistedFacts (some (.json .null))) ?_ ?_ ?_
  · exact absurd differs (by decide)
  · intro name fact found
    unfold unlistedFacts at found
    split at found <;> cases found
  · intro name fact found
    unfold unlistedFacts at found
    split at found <;> cases found
    rfl
  · intro name own
    have other : name ≠ "constructor" := by
      rintro rfl
      exact absurd own (by decide)
    rw [unlistedFacts, unlistedFacts, if_neg other, if_neg other]

end Tamanor.Core
