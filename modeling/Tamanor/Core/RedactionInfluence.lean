import Tamanor.Core.RedactionPaths

/-! What a redaction lets through (`cyberbullying-redaction.ts`): payloads that differ in redacted
values only become the same, everything else stays, and no sensitive value is overlooked. -/

set_option autoImplicit false

namespace Tamanor.Core

open Library

/-! The transformation, with what it throws. -/

/-- Whether masking gets past a value: null is left as it is, and anything else is printed. -/
def prints (value : JsonValue) : Bool := value.isNull || value.display.isSome

def applyRule? (payload : JsonValue) (rule : RedactionRuleSpec) : Option JsonValue :=
  if rule.action = "mask_identifier" ∧ (getRedactableField rule.fieldPath).isSome ∧
      ¬(targetValues (pathSegments rule.fieldPath) payload).all prints then none
  else some (applyRule payload rule)

/-- The omissions to which others are pushed; what is neither missing nor an array has no `push`. -/
def omissionList : Option JsonValue → Option (List JsonValue)
  | none => some []
  | some .null => some []
  | some (.arr items) => some items
  | some _ => none

/-- A property of an array is not a part of the payload, and a value that is no object has none. -/
def pushOmissions (paths : List String) : JsonValue → Option JsonValue
  | .obj fields =>
    match omissionList (fields.lookup "omissions") with
    | some items =>
      some (.obj (setField "omissions" (.arr (items ++ paths.map omissionOf)) fields))
    | none => if paths = [] then some (.obj fields) else none
  | .arr items => some (.arr items)
  | _ => none

structure RedactionSummary where
  removed : List String
  replaced : List String
  masked : List String
  kept : List String
  affectedClassifications : List FieldClassification
  ruleCount : Nat
deriving DecidableEq

def appliedRules (rules : List RedactionRuleSpec) : List RedactionRuleSpec :=
  (inOrder rules).filter fun rule => (getRedactableField rule.fieldPath).isSome

def RedactionSummary.of (rules : List RedactionRuleSpec) : RedactionSummary :=
  let pathsOf (action : String) :=
    ((appliedRules rules).filter fun rule => rule.action = action).map (·.fieldPath)
  { removed := removedPaths rules
    replaced := pathsOf "replace_with_label"
    masked := pathsOf "mask_identifier"
    kept := ((appliedRules rules).filter fun rule =>
      rule.action ∉ ["remove", "replace_with_label", "mask_identifier"]).map (·.fieldPath)
    affectedClassifications := ((appliedRules rules).filterMap fun rule =>
      (getRedactableField rule.fieldPath).map (·.classification)).eraseDups
    ruleCount := rules.length }

def applyComplianceRedactions? (source : JsonValue) (rules : List RedactionRuleSpec) :
    Option (JsonValue × RedactionSummary) := do
  let redacted ← (inOrder rules).foldlM applyRule? source
  let payload ← pushOmissions (removedPaths rules) redacted
  return (payload, .of rules)

structure UnresolvedFields where
  highlySensitive : List String
  sensitive : List String

def unresolvedOf (classification : FieldClassification) (source : JsonValue)
    (ruleFieldPaths : List String) : List String :=
  (complianceRedactableFields.filter fun field =>
    field.classification == classification && !ruleFieldPaths.contains field.fieldPath &&
      (targetValues (pathSegments field.fieldPath) source).any fun value => !value.isNull).map
    (·.fieldPath)

def computeUnresolvedSensitiveFields (source : JsonValue) (ruleFieldPaths : List String) :
    UnresolvedFields where
  highlySensitive := unresolvedOf .highlySensitive source ruleFieldPaths
  sensitive := unresolvedOf .sensitive source ruleFieldPaths

def Accepted (rule : RedactionRuleSpec) : Prop :=
  ∃ (reasonNote : Option String) (reportType : ComplianceReportType) (schemaVersion : String),
    validateRedactionRule rule.fieldPath rule.action rule.reasonCode reasonNote reportType
      schemaVersion = none

def Registered (fieldPath : String) : Prop :=
  ∃ field ∈ complianceRedactableFields, field.fieldPath = fieldPath

variable {rule : RedactionRuleSpec} {rules ordered : List RedactionRuleSpec}
  {field : RedactableField} {fieldPath : String} {value twin : JsonValue}
  {related : JsonValue → JsonValue → Prop}

theorem registry_apart :
    ∀ field ∈ complianceRedactableFields, ∀ other ∈ complianceRedactableFields,
      field.fieldPath = other.fieldPath ∨
        apart (pathSegments field.fieldPath) (pathSegments other.fieldPath) = true := by
  decide +kernel

theorem registry_omissions :
    ∀ field ∈ complianceRedactableFields, field.requiredInFinal = false ∧
      apart [("omissions", false)] (pathSegments field.fieldPath) = true := by
  decide +kernel

theorem Registered.apart {other : String} (registered : Registered fieldPath)
    (otherRegistered : Registered other) (different : fieldPath ≠ other) :
    apart (pathSegments fieldPath) (pathSegments other) = true := by
  obtain ⟨field, isField, rfl⟩ := registered
  obtain ⟨other, isOther, rfl⟩ := otherRegistered
  exact (registry_apart field isField other isOther).resolve_left different

theorem Accepted.redactable (accepted : Accepted rule) :
    ∃ field ∈ complianceRedactableFields, field.fieldPath = rule.fieldPath ∧
      getRedactableField rule.fieldPath = some field ∧ rule.action ∈ redactionActions := by
  obtain ⟨note, reportType, schemaVersion, accepts⟩ := accepted
  unfold validateRedactionRule at accepts
  split at accepts
  · cases accepts
  next field found =>
    refine ⟨field, List.mem_of_find?_eq_some found, ?_, found, ?_⟩
    · simpa using List.find?_some found
    · by_contra other
      simp only [other, Bool.not_eq_true', decide_false, if_true, List.contains_eq_mem,
        Bool.not_false] at accepts
      split at accepts <;> cases accepts

theorem Accepted.registered (accepted : Accepted rule) : Registered rule.fieldPath := by
  obtain ⟨field, isField, same, -⟩ := accepted.redactable
  exact ⟨field, isField, same⟩

/-- What a rule makes of a value in which its path ends; a removed one is gone. -/
def redaction (rule : RedactionRuleSpec) (field : RedactableField) (value : JsonValue) :
    Option JsonValue :=
  if rule.action = "remove" then none else some (redactValue rule field value)

theorem redactFields_eq (optional : field.requiredInFinal = false) :
    redactFields rule field = alterField (redaction rule field) := by
  funext name fields
  unfold redactFields redaction
  by_cases removes : rule.action = "remove"
  · simp only [removes, optional, if_true]
    unfold alterField
    rw [← List.filterMap_eq_filter]
    refine List.filterMap_congr fun entry _ => ?_
    by_cases same : entry.1 = name <;> simp [same]
  · simp only [removes, if_false]
    exact onField_eq ..

theorem Accepted.alters (accepted : Accepted rule) :
    ∃ field ∈ complianceRedactableFields, field.fieldPath = rule.fieldPath ∧ ∀ payload,
      applyRule payload rule = alterAt (redaction rule field) (pathSegments rule.fieldPath)
        payload := by
  obtain ⟨field, isField, same, found, -⟩ := accepted.redactable
  refine ⟨field, isField, same, fun payload => ?_⟩
  unfold applyRule
  simp only [found]
  rw [redactFields_eq (registry_omissions field isField).1]
  rfl

theorem redaction_remove (removes : rule.action = "remove") :
    redaction rule field value = none := if_pos removes

theorem redaction_replace (replaces : rule.action = "replace_with_label") :
    redaction rule field value =
      some (.str (rule.replacementMarkerKey.getD field.defaultMarker)) := by
  simp [redaction, redactValue, replaces]

theorem redaction_keep (keeps : rule.action = "keep") :
    redaction rule field value = some value := by
  simp [redaction, redactValue, keeps]

theorem redaction_mask (masks : rule.action = "mask_identifier") (text : String) :
    redaction rule field (.str text) =
      some (.str (String.ofList (maskIdentifier text.toList))) := by
  simp [redaction, redactValue, masks, Json.isNull, Json.display]

def Steady (related : JsonValue → JsonValue → Prop) (rule : RedactionRuleSpec) : Prop :=
  ∀ field value twin, related value twin →
    Option.Rel related (redaction rule field value) (redaction rule field twin)

def Decides (related : JsonValue → JsonValue → Prop) (rule : RedactionRuleSpec) : Prop :=
  ∀ field value twin, related value twin → redaction rule field value = redaction rule field twin

theorem differAt_applyRule (accepted : Accepted rule) (registered : Registered fieldPath)
    (steady : rule.fieldPath = fieldPath → Steady related rule)
    (differ : DifferAt related (pathSegments fieldPath) value twin) :
    DifferAt related (pathSegments fieldPath) (applyRule value rule)
      (applyRule twin rule) := by
  obtain ⟨field, -, -, alters⟩ := accepted.alters
  rw [alters, alters]
  by_cases same : rule.fieldPath = fieldPath
  · rw [same]
    exact differ.alterAt (steady same field)
  · exact differ.alterAt_apart (registered.apart accepted.registered (Ne.symm same))

/-- By induction on the rules. -/
theorem differAt_foldl (accepted : ∀ rule ∈ ordered, Accepted rule)
    (registered : Registered fieldPath)
    (steady : ∀ rule ∈ ordered, rule.fieldPath = fieldPath → Steady related rule)
    (differ : DifferAt related (pathSegments fieldPath) value twin) :
    DifferAt related (pathSegments fieldPath) (ordered.foldl applyRule value)
      (ordered.foldl applyRule twin) := by
  induction ordered generalizing value twin with
  | nil => exact differ
  | cons rule ordered ih =>
    obtain ⟨acceptedHere, acceptedLater⟩ := List.forall_mem_cons.1 accepted
    obtain ⟨steadyHere, steadyLater⟩ := List.forall_mem_cons.1 steady
    exact ih acceptedLater steadyLater
      (differAt_applyRule acceptedHere registered steadyHere differ)

theorem applyRule_eq (accepted : Accepted rule) (decides : Decides related rule)
    (differ : DifferAt related (pathSegments rule.fieldPath) value twin) :
    applyRule value rule = applyRule twin rule := by
  obtain ⟨field, -, -, alters⟩ := accepted.alters
  rw [alters, alters]
  refine eq_of_differAt (differ.alterAt fun value twin here => ?_)
  rw [decides field value twin here]
  cases redaction rule field twin with
  | none => exact .none
  | some kept => exact .some rfl

theorem foldl_applyRule_eq (accepted : ∀ rule ∈ ordered, Accepted rule) (isRule : rule ∈ ordered)
    (decides : Decides related rule)
    (steady : ∀ other ∈ ordered, other.fieldPath = rule.fieldPath → Steady related other)
    (differ : DifferAt related (pathSegments rule.fieldPath) value twin) :
    ordered.foldl applyRule value = ordered.foldl applyRule twin := by
  obtain ⟨before, after, rfl⟩ := List.append_of_mem isRule
  have acceptedRule := accepted rule isRule
  have differHere := differAt_foldl
    (fun other member => accepted other (List.mem_append_left _ member)) acceptedRule.registered
    (fun other member => steady other (List.mem_append_left _ member)) differ
  rw [List.foldl_append, List.foldl_append, List.foldl_cons, List.foldl_cons,
    applyRule_eq acceptedRule decides differHere]

theorem foldlM_applyRule? {redacted : JsonValue}
    (runs : ordered.foldlM applyRule? value = some redacted) :
    ordered.foldl applyRule value = redacted := by
  induction ordered generalizing value with
  | nil => exact Option.some.inj runs
  | cons rule ordered ih =>
    rw [List.foldlM_cons] at runs
    obtain ⟨next, applies, runs⟩ := Option.bind_eq_some_iff.1 runs
    unfold applyRule? at applies
    split at applies
    · cases applies
    · rw [List.foldl_cons, Option.some.inj applies]
      exact ih runs

theorem all_eq_of_related {test : JsonValue → Bool} {first second : List JsonValue}
    (agree : ∀ value twin, related value twin → test value = test twin)
    (both : List.Forall₂ related first second) : first.all test = second.all test := by
  induction both with
  | nil => rfl
  | cons here _ ih => rw [List.all_cons, List.all_cons, agree _ _ here, ih]

theorem applyRule?_isSome (accepted : Accepted rule) (registered : Registered fieldPath)
    (agree : rule.fieldPath = fieldPath → rule.action = "mask_identifier" →
      ∀ value twin, related value twin → prints value = prints twin)
    (differ : DifferAt related (pathSegments fieldPath) value twin) :
    applyRule? value rule = some (applyRule value rule) ∧
        applyRule? twin rule = some (applyRule twin rule) ∨
      applyRule? value rule = none ∧ applyRule? twin rule = none := by
  unfold applyRule?
  by_cases masks : rule.action = "mask_identifier"
  · have same : (targetValues (pathSegments rule.fieldPath) value).all prints =
        (targetValues (pathSegments rule.fieldPath) twin).all prints := by
      by_cases here : rule.fieldPath = fieldPath
      · rw [here]
        exact all_eq_of_related (agree here masks) differ.targetValues
      · rw [differ.targetValues_apart (registered.apart accepted.registered (Ne.symm here))]
    rw [same]
    split
    · exact .inr ⟨rfl, rfl⟩
    · exact .inl ⟨rfl, rfl⟩
  · exact .inl ⟨if_neg fun throws => masks throws.1, if_neg fun throws => masks throws.1⟩

theorem foldlM_applyRule?_eq (accepted : ∀ rule ∈ ordered, Accepted rule) (isRule : rule ∈ ordered)
    (decides : Decides related rule)
    (steady : ∀ other ∈ ordered, other.fieldPath = rule.fieldPath → Steady related other)
    (agree : ∀ other ∈ ordered, other.fieldPath = rule.fieldPath →
      other.action = "mask_identifier" → ∀ value twin, related value twin →
        prints value = prints twin)
    (differ : DifferAt related (pathSegments rule.fieldPath) value twin) :
    ordered.foldlM applyRule? value = ordered.foldlM applyRule? twin := by
  induction ordered generalizing value twin with
  | nil => cases isRule
  | cons next ordered ih =>
    obtain ⟨acceptedNext, acceptedLater⟩ := List.forall_mem_cons.1 accepted
    obtain ⟨steadyNext, steadyLater⟩ := List.forall_mem_cons.1 steady
    obtain ⟨agreeNext, agreeLater⟩ := List.forall_mem_cons.1 agree
    have acceptedRule := accepted rule isRule
    rw [List.foldlM_cons, List.foldlM_cons]
    obtain ⟨first, second⟩ | ⟨first, second⟩ :=
      applyRule?_isSome acceptedNext acceptedRule.registered agreeNext differ
    · rw [first, second]
      obtain rfl | later := List.mem_cons.1 isRule
      · rw [applyRule_eq acceptedNext decides differ]
      · exact ih acceptedLater later steadyLater agreeLater
          (differAt_applyRule acceptedNext acceptedRule.registered steadyNext differ)
    · rw [first, second]

/-! Identifiers that agree at their ends. -/

/-- Both are longer than eight code units, and their first four and last four are the same. -/
def AgreeOnEnds (first second : String) : Prop :=
  let units (text : String) := Text.codeUnits text.toList
  8 < (units first).length ∧ 8 < (units second).length ∧
    (units first).take 4 = (units second).take 4 ∧
    (units first).drop ((units first).length - 4) = (units second).drop ((units second).length - 4)

def SameWhenMasked (value twin : JsonValue) : Prop :=
  value = twin ∨ ∃ first second, value = .str first ∧ twin = .str second ∧ AgreeOnEnds first second

variable {code : Char → List Nat} {limit : Nat}

theorem eq_of_code_fits {char other : Char} {rest others : List Nat}
    (free : ∀ char other, code char <+: code other → char = other)
    (fits : (code char).length ≤ limit)
    (same : (code char ++ rest).take limit = (code other ++ others).take limit) : char = other := by
  have starts : code char <+: code other ++ others := by
    have begins : code char <+: (code char ++ rest).take limit :=
      List.prefix_take_iff.2 ⟨List.prefix_append .., fits⟩
    rw [same] at begins
    exact (List.prefix_take_iff.1 begins).1
  obtain shorter | longer := List.prefix_or_prefix_of_prefix starts (List.prefix_append ..)
  · exact free char other shorter
  · exact (free other char longer).symm

theorem sliceUnits_eq_nil (size : ∀ char, (code char).length = (Text.codeUnits [char]).length)
    {text : Text} (none : (text.flatMap code).take limit = []) : sliceUnits limit text = [] := by
  cases text with
  | nil => rfl
  | cons char rest =>
    have wide : 0 < (Text.codeUnits [char]).length := by
      rw [Text.codeUnits_cons]
      split <;> simp
    have nonempty : code char ≠ [] := fun empty => by
      rw [← size, empty] at wide
      cases wide
    have zero : limit = 0 := by
      rw [List.flatMap_cons, List.take_eq_nil_iff] at none
      exact none.resolve_right fun empty => nonempty (List.append_eq_nil_iff.1 empty).1
    rw [sliceUnits, if_neg (by omega)]

/-- By induction on the first text, for a code in which no character begins another. -/
theorem sliceUnits_congr (size : ∀ char, (code char).length = (Text.codeUnits [char]).length)
    (free : ∀ char other, code char <+: code other → char = other) {first second : Text}
    (same : (first.flatMap code).take limit = (second.flatMap code).take limit) :
    sliceUnits limit first = sliceUnits limit second := by
  induction first generalizing second limit with
  | nil => exact (sliceUnits_eq_nil size (by simpa using same.symm)).symm
  | cons char rest ih =>
    cases second with
    | nil => exact sliceUnits_eq_nil size (by simpa using same)
    | cons other others =>
      rw [List.flatMap_cons, List.flatMap_cons] at same
      rw [sliceUnits, sliceUnits]
      simp only [← size]
      by_cases fits : (code char).length ≤ limit
      · obtain rfl := eq_of_code_fits free fits same
        rw [if_pos fits, if_pos fits]
        rw [List.take_append, List.take_append, List.append_cancel_left_eq] at same
        rw [ih same]
      · have otherwise : ¬(code other).length ≤ limit := fun otherFits => by
          obtain rfl := eq_of_code_fits free otherFits same.symm
          exact fits otherFits
        rw [if_neg fits, if_neg otherwise]

theorem codeUnits_prefix_free (char other : Char) :
    (Text.codeUnits [char] <+: Text.codeUnits [other] → char = other) ∧
      ((Text.codeUnits [char]).reverse <+: (Text.codeUnits [other]).reverse → char = other) := by
  have valid : char.toNat < 0xD800 ∨ 0xDFFF < char.toNat ∧ char.toNat < 0x110000 := char.valid
  have otherValid : other.toNat < 0xD800 ∨ 0xDFFF < other.toNat ∧ other.toNat < 0x110000 :=
    other.valid
  rw [← Char.toNat_inj, Text.codeUnits_cons, Text.codeUnits_cons]
  split <;> split <;>
    simp only [Text.codeUnits, List.flatMap_nil, List.append_nil, List.reverse_cons,
      List.reverse_nil, List.nil_append, List.singleton_append, List.cons_prefix_cons,
      List.prefix_nil, List.nil_prefix, and_true, reduceCtorEq, and_false,
      false_implies] <;>
    omega

theorem codeUnits_eq_flatMap (text : Text) :
    Text.codeUnits text = text.flatMap fun char => Text.codeUnits [char] := by
  unfold Text.codeUnits
  exact congrArg (text.flatMap ·) (funext fun char => by rw [List.flatMap_singleton])

theorem maskIdentifier_eq {first second : String} (agree : AgreeOnEnds first second) :
    maskIdentifier first.toList = maskIdentifier second.toList := by
  obtain ⟨long, otherLong, starts, ends⟩ := agree
  have start : sliceUnits 4 first.toList = sliceUnits 4 second.toList := by
    refine sliceUnits_congr (fun _ => rfl)
      (fun char other => (codeUnits_prefix_free char other).1) ?_
    rw [← codeUnits_eq_flatMap, ← codeUnits_eq_flatMap]
    exact starts
  have stop : lastUnits 4 first.toList = lastUnits 4 second.toList := by
    refine congrArg List.reverse (sliceUnits_congr (fun _ => List.length_reverse)
      (fun char other => (codeUnits_prefix_free char other).2) ?_)
    have reversed (text : Text) :
        (text.reverse.flatMap fun char => (Text.codeUnits [char]).reverse) =
          (Text.codeUnits text).reverse := by
      rw [codeUnits_eq_flatMap, List.reverse_flatMap]
      rfl
    rw [reversed, reversed, List.take_reverse, List.take_reverse]
    exact congrArg List.reverse ends
  unfold maskIdentifier
  rw [if_neg (Nat.not_le.2 long), if_neg (Nat.not_le.2 otherLong), start, stop]

/-! What rules make of the values at the end of their paths. -/

theorem mem_inOrder : rule ∈ inOrder rules ↔ rule ∈ rules :=
  (List.perm_insertionSort _ _).mem_iff

theorem prints_redactValue (printed : prints value = true) :
    prints (redactValue rule field value) = true := by
  unfold redactValue
  split
  · rfl
  split
  · rfl
  · exact printed

theorem steady_true : Steady (fun _ _ => True) rule := by
  intro field value twin _
  unfold redaction
  split
  · exact .none
  · exact .some trivial

theorem steady_prints {masked : Prop} :
    Steady (fun value twin => masked → prints value = true ∧ prints twin = true) rule := by
  intro field value twin print
  unfold redaction
  split
  · exact .none
  · exact .some fun isMasked =>
      ⟨prints_redactValue (print isMasked).1, prints_redactValue (print isMasked).2⟩

theorem steady_printed : Steady (fun found twin => found = twin ∧ prints found = true) rule := by
  rintro field value _ ⟨rfl, printed⟩
  unfold redaction
  split
  · exact .none
  · exact .some ⟨rfl, prints_redactValue printed⟩

theorem decides_of_hides (hides : rule.action = "remove" ∨ rule.action = "replace_with_label") :
    Decides related rule := by
  intro field value twin _
  obtain removes | replaces := hides
  · rw [redaction_remove removes, redaction_remove removes]
  · rw [redaction_replace replaces, redaction_replace replaces]

theorem decides_of_masks (masks : rule.action = "mask_identifier") :
    Decides SameWhenMasked rule := by
  rintro field value twin (rfl | ⟨first, second, rfl, rfl, agree⟩)
  · rfl
  · rw [redaction_mask masks, redaction_mask masks, maskIdentifier_eq agree]

theorem steady_of_decides {kept : JsonValue → JsonValue → Prop} (refl : ∀ value, kept value value)
    (decides : Decides kept rule) : Steady kept rule := by
  intro field value twin here
  rw [decides field value twin here]
  cases redaction rule field twin with
  | none => exact .none
  | some kept => exact .some (refl kept)

theorem steady_sameWhenMasked (accepted : Accepted rule) : Steady SameWhenMasked rule := by
  obtain ⟨-, -, -, -, isAction⟩ := accepted.redactable
  simp only [redactionActions, List.mem_cons, List.not_mem_nil, or_false] at isAction
  obtain removes | replaces | masks | keeps := isAction
  · exact steady_of_decides (fun _ => .inl rfl) (decides_of_hides (.inl removes))
  · exact steady_of_decides (fun _ => .inl rfl) (decides_of_hides (.inr replaces))
  · exact steady_of_decides (fun _ => .inl rfl) (decides_of_masks masks)
  · intro field value twin here
    rw [redaction_keep keeps, redaction_keep keeps]
    exact .some here

theorem SameWhenMasked.prints (same : SameWhenMasked value twin) :
    Core.prints value = Core.prints twin := by
  obtain rfl | ⟨first, second, rfl, rfl, -⟩ := same
  · rfl
  · rfl

section
variable {source payload first second : JsonValue} {summary : RedactionSummary}
  {fields : List (String × JsonValue)}

theorem applyComplianceRedactions?_eq_some :
    applyComplianceRedactions? source rules = some (payload, summary) ↔
      ∃ redacted, (inOrder rules).foldlM applyRule? source = some redacted ∧
        pushOmissions (removedPaths rules) redacted = some payload ∧
        RedactionSummary.of rules = summary := by
  simp [applyComplianceRedactions?, Option.bind_eq_some_iff]

theorem hidden_of_returns (accepted : ∀ rule ∈ rules, Accepted rule) (isRule : rule ∈ rules)
    (hides : rule.action = "remove" ∨ rule.action = "replace_with_label")
    (differ : DifferAt (fun _ _ => True) (pathSegments rule.fieldPath) first second)
    {result other : JsonValue × RedactionSummary}
    (returns : applyComplianceRedactions? first rules = some result)
    (otherReturns : applyComplianceRedactions? second rules = some other) : result = other := by
  obtain ⟨redacted, runs, pushes, summarized⟩ := applyComplianceRedactions?_eq_some.1 returns
  obtain ⟨otherRedacted, otherRuns, otherPushes, otherSummarized⟩ :=
    applyComplianceRedactions?_eq_some.1 otherReturns
  have same := foldl_applyRule_eq (fun rule member => accepted rule (mem_inOrder.1 member))
    (mem_inOrder.2 isRule) (decides_of_hides hides) (fun _ _ _ => steady_true) differ
  rw [foldlM_applyRule? runs, foldlM_applyRule? otherRuns] at same
  rw [same] at pushes
  exact Prod.ext (Option.some.inj (pushes.symm.trans otherPushes))
    (summarized.symm.trans otherSummarized)

/-- What a rule of a path decides is the same in two payloads that differ at its end, as long as
masking throws at both or at none. -/
theorem applyComplianceRedactions?_eq (accepted : ∀ rule ∈ rules, Accepted rule)
    (isRule : rule ∈ rules) (decides : Decides related rule)
    (steady : ∀ other ∈ rules, Steady related other)
    (agree : ∀ other ∈ rules, other.fieldPath = rule.fieldPath →
      other.action = "mask_identifier" → ∀ value twin, related value twin →
        prints value = prints twin)
    (differ : DifferAt related (pathSegments rule.fieldPath) first second) :
    applyComplianceRedactions? first rules = applyComplianceRedactions? second rules := by
  unfold applyComplianceRedactions?
  rw [foldlM_applyRule?_eq (fun rule member => accepted rule (mem_inOrder.1 member))
    (mem_inOrder.2 isRule) decides (fun other member _ => steady other (mem_inOrder.1 member))
    (fun other member => agree other (mem_inOrder.1 member)) differ]

def Printable (rules : List RedactionRuleSpec) (source : JsonValue) : Prop :=
  ∀ rule ∈ rules, rule.action = "mask_identifier" →
    EveryTarget (fun value => prints value = true) (pathSegments rule.fieldPath) source

theorem foldlM_applyRule?_eq_some (accepted : ∀ rule ∈ ordered, Accepted rule)
    (printable : Printable ordered source) :
    ordered.foldlM applyRule? source = some (ordered.foldl applyRule source) := by
  induction ordered generalizing source with
  | nil => rfl
  | cons rule ordered ih =>
    obtain ⟨acceptedHere, acceptedLater⟩ := List.forall_mem_cons.1 accepted
    obtain ⟨printed, printedLater⟩ := List.forall_mem_cons.1 printable
    have applies : applyRule? source rule = some (applyRule source rule) := by
      refine if_neg fun throws => throws.2.2 ?_
      exact List.all_eq_true.2 (printed throws.1).targetValues
    rw [List.foldlM_cons, applies]
    refine ih acceptedLater fun other isOther masks => ?_
    exact differAt_applyRule acceptedHere (acceptedLater other isOther).registered
      (fun _ => steady_printed) (printedLater other isOther masks)

theorem Registered.segments (registered : Registered fieldPath) :
    ∃ name starred rest, pathSegments fieldPath = (name, starred) :: rest ∧ name ≠ "omissions" := by
  obtain ⟨field, isField, rfl⟩ := registered
  have parts := (registry_omissions field isField).2
  revert parts
  cases pathSegments field.fieldPath with
  | nil => exact nofun
  | cons segment rest =>
    obtain ⟨name, starred⟩ := segment
    intro parts
    refine ⟨name, starred, rest, rfl, fun same => ?_⟩
    subst same
    exact (apart_cons_self parts).2.1 rfl

theorem foldl_applyRule_obj (accepted : ∀ rule ∈ ordered, Accepted rule) :
    ∃ redacted, ordered.foldl applyRule (.obj fields) = .obj redacted ∧
      redacted.lookup "omissions" = fields.lookup "omissions" := by
  induction ordered generalizing fields with
  | nil => exact ⟨fields, rfl, rfl⟩
  | cons rule ordered ih =>
    obtain ⟨acceptedHere, acceptedLater⟩ := List.forall_mem_cons.1 accepted
    obtain ⟨field, -, -, alters⟩ := acceptedHere.alters
    obtain ⟨name, starred, rest, segments, different⟩ := acceptedHere.registered.segments
    rw [List.foldl_cons, alters, segments, alterAt_cons]
    obtain ⟨redacted, runs, kept⟩ := @ih _ acceptedLater
    exact ⟨redacted, runs, kept.trans (lookup_alterField_other different)⟩

theorem applyComplianceRedactions?_isSome (accepted : ∀ rule ∈ rules, Accepted rule)
    (printable : Printable rules (.obj fields))
    (listed : (omissionList (fields.lookup "omissions")).isSome = true) :
    (applyComplianceRedactions? (.obj fields) rules).isSome = true := by
  have acceptedInOrder : ∀ rule ∈ inOrder rules, Accepted rule :=
    fun rule member => accepted rule (mem_inOrder.1 member)
  have runs := foldlM_applyRule?_eq_some acceptedInOrder
    fun rule member => printable rule (mem_inOrder.1 member)
  obtain ⟨redacted, same, kept⟩ := @foldl_applyRule_obj _ fields acceptedInOrder
  obtain ⟨items, found⟩ := Option.isSome_iff_exists.1 listed
  rw [same] at runs
  simp [applyComplianceRedactions?, runs, pushOmissions, kept, found]

theorem lookup_setField {name : String} :
    (setField name value fields).lookup name = some value := by
  unfold setField
  split
  next present =>
    induction fields with
    | nil => cases present
    | cons entry fields ih =>
      obtain ⟨key, before⟩ := entry
      by_cases same : key = name
      · simp [onField, same]
      · have unequal : (name == key) = false := beq_eq_false_iff_ne.2 (Ne.symm same)
        rw [onField, List.map_cons, if_neg same, List.lookup_cons, unequal]
        exact ih (by simpa [same] using present)
  next absent =>
    have missing : fields.lookup name = none := by
      refine List.lookup_eq_none_iff.2 fun entry member => ?_
      have different : entry.1 ≠ name := fun same =>
        absent (List.any_eq_true.2 ⟨entry, member, decide_eq_true same⟩)
      exact bne_iff_ne.2 different.symm
    simp [List.lookup_append, missing]

theorem alterField_setField {name : String} :
    alterField (descend false [] fun _ => none) name (setField name value fields) =
      alterField (descend false [] fun _ => none) name fields := by
  unfold setField
  split
  · rw [onField_eq, alterField_alterField]
    rfl
  · unfold alterField
    rw [List.filterMap_append]
    simp [descend]

section

variable (accepted : ∀ rule ∈ rules, Accepted rule)
include accepted

theorem pushes_of_returns
    (returns : applyComplianceRedactions? (.obj fields) rules = some (payload, summary)) :
    ∃ redacted, (inOrder rules).foldl applyRule (.obj fields) = .obj redacted ∧
      redacted.lookup "omissions" = fields.lookup "omissions" ∧
      pushOmissions (removedPaths rules) (.obj redacted) = some payload := by
  obtain ⟨left, runs, pushes, -⟩ := applyComplianceRedactions?_eq_some.1 returns
  obtain ⟨redacted, same, kept⟩ := @foldl_applyRule_obj _ fields
    fun rule member => accepted rule (mem_inOrder.1 member)
  obtain rfl : left = .obj redacted := (foldlM_applyRule? runs).symm.trans same
  exact ⟨redacted, same, kept, pushes⟩

theorem field?_omissions
    (returns : applyComplianceRedactions? (.obj fields) rules = some (payload, summary)) :
    payload.field? "omissions" =
      match omissionList (fields.lookup "omissions") with
      | some items => some (.arr (items ++ (removedPaths rules).map omissionOf))
      | none => fields.lookup "omissions" := by
  obtain ⟨redacted, -, kept, pushes⟩ := pushes_of_returns accepted returns
  rw [pushOmissions, kept] at pushes
  cases listed : omissionList (fields.lookup "omissions") with
  | none =>
    simp only [listed] at pushes
    split at pushes
    · obtain rfl := Option.some.inj pushes
      exact kept
    · cases pushes
  | some items =>
    simp only [listed] at pushes
    obtain rfl := Option.some.inj pushes
    exact lookup_setField

theorem eq_applyComplianceRedactions {items : List JsonValue}
    (listed : omissionList (fields.lookup "omissions") = some items)
    (returns : applyComplianceRedactions? (.obj fields) rules = some (payload, summary)) :
    payload = applyComplianceRedactions (.obj fields) rules := by
  obtain ⟨redacted, same, kept, pushes⟩ := pushes_of_returns accepted returns
  simp only [pushOmissions, kept, listed, Option.some.injEq] at pushes
  rw [← pushes, applyComplianceRedactions, same, addOmissions, kept]
  congr 5
  revert listed
  cases fields.lookup "omissions" with
  | none => exact fun listed => (Option.some.inj listed).symm
  | some found =>
    cases found with
    | null => exact fun listed => (Option.some.inj listed).symm
    | arr items => exact fun listed => (Option.some.inj listed).symm
    | _ => exact nofun

end

def blank (removed : List String) (fieldPath : String) (_ : JsonValue) : Option JsonValue :=
  if removed.contains fieldPath then none else some .null

def blankAt (removed : List String) (payload : JsonValue) (rule : RedactionRuleSpec) : JsonValue :=
  alterAt (blank removed rule.fieldPath) (pathSegments rule.fieldPath) payload

def withoutOmissions (payload : JsonValue) : JsonValue :=
  alterAt (fun _ => none) [("omissions", false)] payload

def unredacted (rules : List RedactionRuleSpec) (payload : JsonValue) : JsonValue :=
  (rules.filter fun rule => rule.action ≠ "keep").foldl (blankAt (removedPaths rules))
    (withoutOmissions payload)

section

variable (accepted : Accepted rule) (isRule : rule ∈ rules)
include accepted isRule

theorem mem_removedPaths (removes : rule.action = "remove") :
    rule.fieldPath ∈ removedPaths rules := by
  obtain ⟨field, -, -, found, -⟩ := accepted.redactable
  unfold removedPaths
  refine List.mem_map.2 ⟨rule, List.mem_filter.2 ⟨mem_inOrder.2 isRule, ?_⟩, rfl⟩
  simp [removes, found]

theorem redaction_bind_blank :
    (redaction rule field value).bind (blank (removedPaths rules) rule.fieldPath) =
      blank (removedPaths rules) rule.fieldPath value := by
  unfold redaction
  split
  next removes =>
    have isRemoved := mem_removedPaths accepted isRule removes
    simp [blank, isRemoved]
  · rfl

theorem blankAt_applyRule {other : RedactionRuleSpec} (otherAccepted : Accepted other) :
    blankAt (removedPaths rules) (applyRule payload rule) other =
      if other.fieldPath = rule.fieldPath then blankAt (removedPaths rules) payload other
      else applyRule (blankAt (removedPaths rules) payload other) rule := by
  obtain ⟨field, -, -, alters⟩ := accepted.alters
  unfold blankAt
  rw [alters, alters]
  split
  next same =>
    rw [same, alterAt_alterAt]
    congr 1
    exact funext fun value => redaction_bind_blank accepted isRule
  next different =>
    exact alterAt_comm (otherAccepted.registered.apart accepted.registered different)

end

/-- By induction on the rules: the first one at the same path blanks what the rule has changed. -/
theorem foldl_blankAt_applyRule (accepted : ∀ other ∈ rules, Accepted other)
    (isRule : rule ∈ rules) (within : ∀ other ∈ ordered, other ∈ rules) (isHere : rule ∈ ordered) :
    ordered.foldl (blankAt (removedPaths rules)) (applyRule payload rule) =
      ordered.foldl (blankAt (removedPaths rules)) payload := by
  induction ordered generalizing payload with
  | nil => cases isHere
  | cons other ordered ih =>
    obtain ⟨isOther, withinLater⟩ := List.forall_mem_cons.1 within
    rw [List.foldl_cons, List.foldl_cons,
      blankAt_applyRule (accepted rule isRule) isRule (accepted other isOther)]
    split
    · rfl
    next different =>
      have later := (List.mem_cons.1 isHere).resolve_left fun same => different (same ▸ rfl)
      exact ih withinLater later

theorem withoutOmissions_applyRule (accepted : Accepted rule) :
    withoutOmissions (applyRule payload rule) = applyRule (withoutOmissions payload) rule := by
  obtain ⟨field, isField, same, alters⟩ := accepted.alters
  rw [alters, alters]
  exact alterAt_comm (same ▸ (registry_omissions field isField).2)

theorem unredacted_applyRule (accepted : ∀ other ∈ rules, Accepted other) (isRule : rule ∈ rules) :
    unredacted rules (applyRule payload rule) = unredacted rules payload := by
  have acceptedRule := accepted rule isRule
  by_cases keeps : rule.action = "keep"
  · obtain ⟨field, -, -, alters⟩ := acceptedRule.alters
    have kept : redaction rule field = some := funext fun value => redaction_keep keeps
    rw [alters, kept, alterAt_some]
  · unfold unredacted
    rw [withoutOmissions_applyRule acceptedRule]
    exact foldl_blankAt_applyRule accepted isRule
      (fun other member => (List.mem_filter.1 member).1)
      (List.mem_filter.2 ⟨isRule, by simpa using keeps⟩)

theorem unredacted_foldl (accepted : ∀ other ∈ rules, Accepted other)
    (within : ∀ rule ∈ ordered, rule ∈ rules) :
    unredacted rules (ordered.foldl applyRule payload) = unredacted rules payload := by
  induction ordered generalizing payload with
  | nil => rfl
  | cons rule ordered ih =>
    obtain ⟨isRule, withinLater⟩ := List.forall_mem_cons.1 within
    rw [List.foldl_cons, ih withinLater, unredacted_applyRule accepted isRule]

theorem withoutOmissions_pushOmissions {paths : List String}
    (pushes : pushOmissions paths source = some payload) :
    withoutOmissions payload = withoutOmissions source := by
  cases source with
  | obj fields =>
    rw [pushOmissions] at pushes
    split at pushes
    · obtain rfl := Option.some.inj pushes
      unfold withoutOmissions
      rw [alterAt_cons, alterAt_cons]
      exact congrArg Json.obj alterField_setField
    · split at pushes
      · rw [Option.some.inj pushes]
      · cases pushes
  | arr items => rw [Option.some.inj pushes]
  | _ => cases pushes

theorem unredacted_eq (accepted : ∀ other ∈ rules, Accepted other)
    (returns : applyComplianceRedactions? source rules = some (payload, summary)) :
    unredacted rules payload = unredacted rules source := by
  obtain ⟨redacted, runs, pushes, -⟩ := applyComplianceRedactions?_eq_some.1 returns
  have same : unredacted rules payload = unredacted rules redacted := by
    unfold unredacted
    rw [withoutOmissions_pushOmissions pushes]
  rw [same, ← foldlM_applyRule? runs,
    unredacted_foldl accepted fun rule member => mem_inOrder.1 member]

theorem mem_paths_of_unresolvedOf {classification : FieldClassification} {paths : List String}
    (resolved : unresolvedOf classification source paths = [])
    (isField : field ∈ complianceRedactableFields)
    (classified : field.classification = classification)
    (isTarget : value ∈ targetValues (pathSegments field.fieldPath) source)
    (there : value.isNull = false) : field.fieldPath ∈ paths := by
  by_contra unaddressed
  have unresolved := List.filter_eq_nil_iff.1 (List.map_eq_nil_iff.1 resolved) field isField
  have present : (targetValues (pathSegments field.fieldPath) source).any
      fun value => !value.isNull := List.any_eq_true.2 ⟨value, isTarget, by rw [there]; rfl⟩
  simp [classified, unaddressed, present] at unresolved

end

/-! What a redaction is relied upon for. -/

/-- The values that two payloads may differ in: where a rule masks them, both print. -/
def PrintsWhereMasked (rules : List RedactionRuleSpec) (fieldPath : String)
    (value twin : JsonValue) : Prop :=
  (∃ rule ∈ rules, rule.fieldPath = fieldPath ∧ rule.action = "mask_identifier") →
    prints value = true ∧ prints twin = true

structure SoundRedaction (rules : List RedactionRuleSpec) : Prop where
  /-- A removed or replaced value has no influence on what is returned. -/
  hidden : ∀ rule ∈ rules, rule.action = "remove" ∨ rule.action = "replace_with_label" →
    ∀ first second result other,
      DifferAt (fun _ _ => True) (pathSegments rule.fieldPath) first second →
        applyComplianceRedactions? first rules = some result →
          applyComplianceRedactions? second rules = some other → result = other
  /-- It has none on whether anything is returned, unless it is masked and does not print. -/
  hiddenThrow : ∀ rule ∈ rules, rule.action = "remove" ∨ rule.action = "replace_with_label" →
    ∀ first second,
      DifferAt (PrintsWhereMasked rules rule.fieldPath) (pathSegments rule.fieldPath) first second →
        applyComplianceRedactions? first rules = applyComplianceRedactions? second rules
  /-- Of a long identifier that is masked the ends alone have. -/
  masked : ∀ rule ∈ rules, rule.action = "mask_identifier" → ∀ first second,
    DifferAt SameWhenMasked (pathSegments rule.fieldPath) first second →
      applyComplianceRedactions? first rules = applyComplianceRedactions? second rules
  kept : ∀ source payload summary,
    applyComplianceRedactions? source rules = some (payload, summary) →
      unredacted rules payload = unredacted rules source
  /-- The removed paths are appended to the omissions; what is no list is left as it is. -/
  omissions : ∀ fields payload summary,
    applyComplianceRedactions? (.obj fields) rules = some (payload, summary) →
      payload.field? "omissions" =
        match omissionList (fields.lookup "omissions") with
        | some items => some (.arr (items ++ (removedPaths rules).map omissionOf))
        | none => fields.lookup "omissions"
  total : ∀ fields items payload summary,
    omissionList (fields.lookup "omissions") = some items →
      applyComplianceRedactions? (.obj fields) rules = some (payload, summary) →
        payload = applyComplianceRedactions (.obj fields) rules
  returns : ∀ fields, Printable rules (.obj fields) →
    (omissionList (fields.lookup "omissions")).isSome = true →
      (applyComplianceRedactions? (.obj fields) rules).isSome = true
  addressed : ∀ source,
    let unresolved := computeUnresolvedSensitiveFields source (rules.map (·.fieldPath))
    unresolved.highlySensitive = [] → unresolved.sensitive = [] →
      ∀ field ∈ complianceRedactableFields,
        field.classification = .sensitive ∨ field.classification = .highlySensitive →
          ∀ value ∈ targetValues (pathSegments field.fieldPath) source, value.isNull = false →
            ∃ rule ∈ rules, rule.fieldPath = field.fieldPath

theorem soundRedaction (accepted : ∀ rule ∈ rules, Accepted rule) : SoundRedaction rules where
  hidden rule isRule hides _ _ _ _ differ returns otherReturns :=
    hidden_of_returns accepted isRule hides differ returns otherReturns
  hiddenThrow rule isRule hides _ _ differ := by
    refine applyComplianceRedactions?_eq accepted isRule (decides_of_hides hides)
      (fun _ _ => steady_prints) (fun other isOther same masks value twin print => ?_) differ
    obtain ⟨printed, twinPrinted⟩ := print ⟨other, isOther, same, masks⟩
    rw [printed, twinPrinted]
  masked rule isRule masks _ _ differ :=
    applyComplianceRedactions?_eq accepted isRule (decides_of_masks masks)
      (fun other isOther => steady_sameWhenMasked (accepted other isOther))
      (fun _ _ _ _ _ _ same => same.prints) differ
  kept _ _ _ returns := unredacted_eq accepted returns
  omissions _ _ _ returns := field?_omissions accepted returns
  total _ _ _ _ listed returns := eq_applyComplianceRedactions accepted listed returns
  returns _ printable listed := applyComplianceRedactions?_isSome accepted printable listed
  addressed source := by
    intro unresolved highly sensitive field isField classified value isTarget there
    have addressed : field.fieldPath ∈ rules.map (·.fieldPath) := by
      obtain isSensitive | isHighly := classified
      · exact mem_paths_of_unresolvedOf sensitive isField isSensitive isTarget there
      · exact mem_paths_of_unresolvedOf highly isField isHighly isTarget there
    exact List.mem_map.1 addressed

def maskThenRemove : List RedactionRuleSpec :=
  [⟨"protectedSubject.displayLabel", "mask_identifier", "MINOR_PROTECTION", none, 0⟩,
    ⟨"protectedSubject.displayLabel", "remove", "MINOR_PROTECTION", none, 1⟩]

def labelled (label : JsonValue) : JsonValue :=
  .obj [("protectedSubject", .obj [("displayLabel", label)]), ("omissions", .arr [])]

theorem accepted_maskThenRemove : ∀ rule ∈ maskThenRemove, Accepted rule := by
  have accepts : ∀ rule ∈ maskThenRemove, validateRedactionRule rule.fieldPath rule.action
      rule.reasonCode none .caseSummary "1.0.0" = none := by decide +kernel
  exact fun rule isRule => ⟨none, .caseSummary, "1.0.0", accepts rule isRule⟩

theorem soundRedaction_maskThenRemove : SoundRedaction maskThenRemove :=
  soundRedaction accepted_maskThenRemove

/-- Whether the call returns tells a value that is removed from one that is removed. -/
theorem not_hidden_unprintable :
    (∀ rule ∈ maskThenRemove, Accepted rule) ∧
      (∃ rule ∈ maskThenRemove, rule.action = "remove" ∧
        DifferAt (fun _ _ => True) (pathSegments rule.fieldPath)
          (labelled (.obj [("toString", .null)])) (labelled (.str "x"))) ∧
      applyComplianceRedactions? (labelled (.obj [("toString", .null)])) maskThenRemove = none ∧
      (applyComplianceRedactions? (labelled (.str "x")) maskThenRemove).isSome = true := by
  refine ⟨accepted_maskThenRemove, ⟨_, List.mem_cons_of_mem _ (List.mem_singleton_self _), rfl, ?_⟩,
    Option.isNone_iff_eq_none.1 (by decide +kernel), by decide +kernel⟩
  have segments : pathSegments "protectedSubject.displayLabel" =
      [("protectedSubject", false), ("displayLabel", false)] := by decide +kernel
  rw [segments]
  have inside : DifferAt (fun _ _ => True) [("displayLabel", false)]
      (.obj [("displayLabel", .obj [("toString", .null)])]) (.obj [("displayLabel", .str "x")]) :=
    differAt_obj.2 (.cons ⟨rfl, by simp [Descends]⟩ .nil)
  exact differAt_obj.2 (.cons ⟨rfl, by simpa [Descends] using inside⟩
    (.cons ⟨rfl, by simp⟩ .nil))

end Tamanor.Core
