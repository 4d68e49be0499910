import Tamanor.Core.ChildSafetyIntegration
import Tamanor.Library.JsonSchema

/-! The envelopes that the validation of the integration protocol lets through
(`child-safety-integration.ts`), and the string that is signed for them. -/

set_option autoImplicit false

namespace Tamanor.Core

open Library Library.Json

def IsIdentifier (max : Nat) : Json ℚ → Prop :=
  IsText fun text => text ≠ "" ∧ units text ≤ max ∧ ∀ char ∈ text.toList, isOpaqueChar char = true

def IsOneOf (values : List String) : Json ℚ → Prop := IsText fun text => text ∈ values

def IsBounded (max : Nat) : Json ℚ → Prop := IsText fun text => units text ≤ max

variable (parseDate : String → Option Int)

def IsDate : Json ℚ → Prop :=
  IsText fun text => units text ≤ 40 ∧ (parseDate text).isSome = true

def signalMembers : List (Member ℚ) :=
  [⟨"externalSignalId", true, IsIdentifier maxIdLen⟩,
    ⟨"signalType", true, IsOneOf partnerRiskTypes⟩, ⟨"riskFamily", false, IsBounded 32⟩,
    ⟨"confidenceBand", true, IsOneOf partnerConfidenceBands⟩,
    ⟨"severityHint", false, IsOneOf partnerSeverityHints⟩,
    ⟨"urgencyHint", false, IsOneOf partnerUrgencyHints⟩]

def classificationMembers : List (Member ℚ) :=
  [⟨"classifierType", true, IsOneOf partnerClassifierTypes⟩,
    ⟨"classifierVersion", true, IsText fun text => text ≠ "" ∧ units text ≤ 64⟩,
    ⟨"modelVersion", false, IsBounded 64⟩, ⟨"ruleVersion", false, IsBounded 64⟩,
    ⟨"classificationMethod", true, IsOneOf partnerClassificationMethods⟩,
    ⟨"evaluatedAt", true, IsDate parseDate⟩]

def subjectMembers : List (Member ℚ) :=
  [⟨"pseudonymousSubjectId", true, IsIdentifier maxOpaqueLen⟩,
    ⟨"pseudonymousActorId", false, IsIdentifier maxOpaqueLen⟩,
    ⟨"ageBand", false, IsOneOf partnerAgeBands⟩]

def contextMembers : List (Member ℚ) :=
  ⟨"conversationContextId", false, IsIdentifier maxOpaqueLen⟩ ::
    (countFields.map fun field =>
      ⟨field, false, fun value => ∃ count : Nat, value = .num count ∧ count ≤ 100000⟩) ++
    flagFields.map fun field => ⟨field, false, fun value => ∃ flag, value = .bool flag⟩

def textMembers : List (Member ℚ) :=
  [⟨"protocol", true, IsOneOf [childSafetySignalProtocol]⟩,
    ⟨"protocolVersion", true, IsOneOf supportedProtocolVersions⟩] ++
  (["eventId", "idempotencyKey", "partnerId", "applicationId", "installationId", "nonce"].map
    fun field => ⟨field, true, IsIdentifier maxIdLen⟩) ++
  ["occurredAt", "sentAt"].map fun field => ⟨field, true, IsDate parseDate⟩

def partMembers : List (Member ℚ) :=
  [⟨"signal", true, Accepts signalMembers⟩,
    ⟨"classification", true, Accepts (classificationMembers parseDate)⟩,
    ⟨"subject", true, Accepts subjectMembers⟩, ⟨"context", false, Accepts contextMembers⟩]

def envelopeMembers : List (Member ℚ) :=
  textMembers parseDate ++ partMembers parseDate

def isControl (char : Char) : Bool :=
  decide (char.toNat < 0x20) || (decide (0x7F ≤ char.toNat) && decide (char.toNat < 0xA0))

def signedFields : List String :=
  ["protocolVersion", "applicationId", "installationId", "eventId", "idempotencyKey", "sentAt",
    "nonce"]

def textField (envelope : Json ℚ) (field : String) : String :=
  ((envelope.field? field).bind asString?).getD ""

def signingParts (envelope : Json ℚ) (method path bodyHashHex : String) : SigningParts where
  method := method
  path := path
  protocolVersion := textField envelope "protocolVersion"
  applicationId := textField envelope "applicationId"
  installationId := textField envelope "installationId"
  eventId := textField envelope "eventId"
  idempotencyKey := textField envelope "idempotencyKey"
  sentAt := textField envelope "sentAt"
  nonce := textField envelope "nonce"
  bodyHashHex := bodyHashHex

def IsHex (text : String) : Prop := ∀ char ∈ text.toList, char ∈ "0123456789abcdef".toList

structure SoundSignal (parseDate : String → Option Int) (envelope : Json ℚ) : Prop where
  shape : Accepts (envelopeMembers parseDate) envelope
  clean : ∀ key ∈ envelope.keys, key.toLower ∉ prohibitedFieldKeys
  printable : ∀ field ∈ signedFields, ∀ char ∈ (textField envelope field).toList,
    isControl char = false

/-- Nothing that the validation takes for an object or a date is something else: the context is no
array, and the text of `sentAt` is printable. -/
structure PlainSignal (envelope : Json ℚ) : Prop where
  context : ∀ items, envelope.field? "context" ≠ some (.arr items)
  sentAt : ∀ char ∈ (textField envelope "sentAt").toList, isControl char = false

section
variable {toLowerCase toUpperCase : String → String} {parseDate : String → Option Int}
  {envelope other object value : Json ℚ} {fields : List (String × Json ℚ)} {given : Option (Json ℚ)}
  {name code : String} {max : Nat}

theorem isOneOf_spec {values : List String} (passes : isOneOf values given = true) :
    ∃ value, given = some value ∧ IsOneOf values value := by
  unfold isOneOf at passes
  split at passes
  next text => exact ⟨_, rfl, text, rfl, by simpa using passes⟩
  · cases passes

theorem isOpaqueId_spec (passes : isOpaqueId max given = true) :
    ∃ value, given = some value ∧ IsIdentifier max value := by
  unfold isOpaqueId at passes
  split at passes
  next text =>
    simp only [Bool.and_eq_true, decide_eq_true_eq, List.all_eq_true] at passes
    exact ⟨_, rfl, text, rfl, passes.1.1, passes.1.2, passes.2⟩
  · cases passes

theorem isIso_spec (passes : isIso parseDate given = true) :
    ∃ value, given = some value ∧ IsDate parseDate value := by
  unfold isIso at passes
  split at passes
  next text =>
    simp only [Bool.and_eq_true, decide_eq_true_eq] at passes
    exact ⟨_, rfl, text, rfl, passes⟩
  · cases passes

theorem isShortText_spec (passes : isShortText max given = true) :
    ∃ value, given = some value ∧ IsBounded max value := by
  unfold isShortText at passes
  split at passes
  next text => exact ⟨_, rfl, text, rfl, of_decide_eq_true passes⟩
  · cases passes

theorem isCount_spec (passes : isCount given = true) :
    ∃ value, given = some value ∧ ∃ count : Nat, value = .num count ∧ count ≤ 100000 := by
  unfold isCount at passes
  split at passes
  next number =>
    simp only [Bool.and_eq_true, decide_eq_true_eq] at passes
    obtain ⟨⟨whole, positive⟩, bounded⟩ := passes
    obtain ⟨count, isCount⟩ := Int.eq_ofNat_of_zero_le (Rat.num_nonneg.2 positive)
    have isNumber : number = count := by
      rw [← Rat.coe_int_num_of_den_eq_one whole, isCount, Int.cast_natCast]
    refine ⟨_, rfl, count, congrArg Json.num isNumber, ?_⟩
    rw [isNumber, maxCount] at bounded
    exact_mod_cast bounded
  · cases passes

theorem isFlag_spec (passes : isFlag given = true) :
    ∃ value, given = some value ∧ ∃ flag, value = .bool flag := by
  unfold isFlag at passes
  split at passes
  next flag => exact ⟨_, rfl, flag, rfl⟩
  · cases passes

theorem failed_nil {passes : Bool} (fine : failed passes code = []) : passes = true := by
  cases passes with
  | true => rfl
  | false => cases fine

theorem fits_of_failed {check : Option (Json ℚ) → Bool} {Allows : Json ℚ → Prop} {required : Bool}
    (spec : ∀ {given}, check given = true → ∃ value, given = some value ∧ Allows value)
    (fine : failed (check ((Json.obj fields).field? name)) code = []) :
    (⟨name, required, Allows⟩ : Member ℚ).Fits (.obj fields) :=
  Member.fits_required (spec (failed_nil fine))

theorem fits_of_failedIfGiven {check : Option (Json ℚ) → Bool} {Allows : Json ℚ → Prop}
    (spec : ∀ {given}, check given = true → ∃ value, given = some value ∧ Allows value)
    (fine : failedIfGiven ((Json.obj fields).field? name) check code = []) :
    (⟨name, false, Allows⟩ : Member ℚ).Fits (.obj fields) := by
  have passes := failed_nil fine
  refine ⟨nofun, fun value found => ?_⟩
  rw [found] at passes
  obtain ⟨_, isValue, allows⟩ := spec (by simpa using passes)
  obtain rfl := Option.some.inj isValue
  exact allows

theorem declared_of_onlyKeys {allowed : List String} {label : String}
    (fine : onlyKeys object allowed label = []) : ∀ key ∈ objectKeys object, key ∈ allowed := by
  intro key occurs
  have none := List.filter_eq_nil_iff.1 (List.map_eq_nil_iff.1 fine) key occurs
  simpa using none

section

variable (distinct : (fields.map Prod.fst).Nodup)
include distinct

theorem accepts_signal (fine : signalErrors (.obj fields) = []) :
    Accepts signalMembers (.obj fields) := by
  simp only [signalErrors, List.append_eq_nil_iff] at fine
  obtain ⟨⟨⟨⟨⟨⟨keys, id⟩, type⟩, confidence⟩, severity⟩, urgency⟩, family⟩ := fine
  refine (accepts_iff distinct (by decide)).2 ⟨declared_of_onlyKeys keys, ?_⟩
  · simp only [signalMembers, List.forall_mem_cons, List.not_mem_nil, false_imp_iff, implies_true,
      and_true]
    exact ⟨fits_of_failed isOpaqueId_spec id, fits_of_failed isOneOf_spec type,
      fits_of_failedIfGiven isShortText_spec family, fits_of_failed isOneOf_spec confidence,
      fits_of_failedIfGiven isOneOf_spec severity, fits_of_failedIfGiven isOneOf_spec urgency⟩

theorem accepts_subject (fine : subjectErrors (.obj fields) = []) :
    Accepts subjectMembers (.obj fields) := by
  simp only [subjectErrors, List.append_eq_nil_iff] at fine
  obtain ⟨⟨⟨keys, subject⟩, actor⟩, ageBand⟩ := fine
  refine (accepts_iff distinct (by decide)).2 ⟨declared_of_onlyKeys keys, ?_⟩
  · simp only [subjectMembers, List.forall_mem_cons, List.not_mem_nil, false_imp_iff, implies_true,
      and_true]
    exact ⟨fits_of_failed isOpaqueId_spec subject, fits_of_failedIfGiven isOpaqueId_spec actor,
      fits_of_failedIfGiven isOneOf_spec ageBand⟩

theorem accepts_classification (fine : classificationErrors parseDate (.obj fields) = []) :
    Accepts (classificationMembers parseDate) (.obj fields) := by
  simp only [classificationErrors, List.append_eq_nil_iff, List.flatMap_eq_nil_iff,
    List.forall_mem_cons, List.not_mem_nil, false_imp_iff, implies_true, and_true] at fine
  obtain ⟨⟨⟨⟨⟨keys, type⟩, method⟩, version, model, rule⟩, named⟩, evaluated⟩ := fine
  refine (accepts_iff distinct (by simp [classificationMembers])).2 ⟨declared_of_onlyKeys keys, ?_⟩
  · simp only [classificationMembers, List.forall_mem_cons, List.not_mem_nil, false_imp_iff,
      implies_true, and_true]
    refine ⟨fits_of_failed isOneOf_spec type, ?_, fits_of_failedIfGiven isShortText_spec model,
      fits_of_failedIfGiven isShortText_spec rule, fits_of_failed isOneOf_spec method,
      fits_of_failed isIso_spec evaluated⟩
    have nonempty := failed_nil named
    split at nonempty
    next text found =>
      have bounded := (fits_of_failedIfGiven isShortText_spec version).allowed _ found
      obtain ⟨_, ⟨⟩, bounded⟩ := bounded
      exact Member.fits_required ⟨_, found, text, rfl, of_decide_eq_true nonempty, bounded⟩
    · cases nonempty

theorem accepts_context (fine : contextErrors (.obj fields) = []) :
    Accepts contextMembers (.obj fields) := by
  simp only [contextErrors, isObject, if_true, List.append_eq_nil_iff,
    List.flatMap_eq_nil_iff] at fine
  obtain ⟨⟨⟨keys, id⟩, counts⟩, flags⟩ := fine
  refine (accepts_iff distinct (by decide)).2 ⟨declared_of_onlyKeys keys, ?_⟩
  · intro member isMember
    rcases List.mem_append.1 isMember with isMember | isFlag
    · rcases List.mem_cons.1 isMember with rfl | isCount
      · exact fits_of_failedIfGiven isOpaqueId_spec id
      · obtain ⟨field, listed, rfl⟩ := List.mem_map.1 isCount
        exact fits_of_failedIfGiven isCount_spec (counts field listed)
    · obtain ⟨field, listed, rfl⟩ := List.mem_map.1 isFlag
      exact fits_of_failedIfGiven isFlag_spec (flags field listed)

end

theorem part_spec {missing : String} {errors : Json ℚ → List String}
    (fine : partErrors given missing errors = []) :
    ∃ value, given = some value ∧ isObject value = true ∧ errors value = [] := by
  unfold partErrors at fine
  split at fine
  next value =>
    split at fine
    next object => exact ⟨value, rfl, object, fine⟩
    · cases fine
  · cases fine

/-- What an envelope without errors has passed; the search for prohibited names is not needed. -/
structure PassedChecks (parseDate : String → Option Int) (envelope : Json ℚ) : Prop where
  keys : onlyKeys envelope topKeys "envelope" = []
  protocol : isOneOf [childSafetySignalProtocol] (envelope.field? "protocol") = true
  version : isOneOf supportedProtocolVersions (envelope.field? "protocolVersion") = true
  ids : ∀ field ∈ ["eventId", "idempotencyKey", "partnerId", "applicationId", "installationId",
    "nonce"], isOpaqueId maxIdLen (envelope.field? field) = true
  occurredAt : isIso parseDate (envelope.field? "occurredAt") = true
  sentAt : isIso parseDate (envelope.field? "sentAt") = true
  signal : partErrors (envelope.field? "signal") "missing_signal" signalErrors = []
  classification : partErrors (envelope.field? "classification") "missing_classification"
    (classificationErrors parseDate) = []
  subject : partErrors (envelope.field? "subject") "missing_subject" subjectErrors = []
  context : ∀ value, envelope.field? "context" = some value → contextErrors value = []

theorem passedChecks (valid : validateSignalEnvelope toLowerCase parseDate envelope = []) :
    ∃ fields, envelope = .obj fields ∧ PassedChecks parseDate envelope := by
  unfold validateSignalEnvelope at valid
  split at valid
  next fields =>
    dsimp only at valid
    rw [List.take_eq_nil_iff, or_iff_right (by decide)] at valid
    simp only [List.append_eq_nil_iff, List.flatMap_eq_nil_iff] at valid
    obtain ⟨⟨⟨⟨⟨⟨⟨⟨⟨⟨_, keys⟩, protocol⟩, version⟩, ids⟩, occurredAt⟩, sentAt⟩, signal⟩,
      classification⟩, subject⟩, context⟩ := valid
    refine ⟨fields, rfl, keys, failed_nil protocol, failed_nil version,
      fun field listed => failed_nil (ids field listed), failed_nil occurredAt, failed_nil sentAt,
      signal, classification, subject, fun value found => ?_⟩
    rw [found] at context
    exact context
  · cases valid

theorem PassedChecks.idChars {field : String} (passed : PassedChecks parseDate envelope)
    (listed : field ∈ ["eventId", "idempotencyKey", "partnerId", "applicationId",
      "installationId", "nonce"]) :
    ∀ char ∈ (textField envelope field).toList, isOpaqueChar char = true := by
  obtain ⟨_, found, text, rfl, -, -, chars⟩ := isOpaqueId_spec (passed.ids field listed)
  rw [textField, found]
  exact chars

theorem control_of_opaque {char : Char} (isOpaque : isOpaqueChar char = true) :
    isControl char = false := by
  simp only [isOpaqueChar, Bool.or_eq_true, Bool.and_eq_true, decide_eq_true_eq, beq_iff_eq,
    Char.le_def, UInt32.le_iff_toNat_le] at isOpaque
  have printable : 0x20 ≤ char.toNat ∧ char.toNat < 0x7F := by
    rcases isOpaque with (((((⟨low, high⟩ | ⟨low, high⟩) | ⟨low, high⟩) | rfl) | rfl) | rfl) | rfl
    · exact ⟨le_trans (by decide) low, lt_of_le_of_lt high (by decide)⟩
    · exact ⟨le_trans (by decide) low, lt_of_le_of_lt high (by decide)⟩
    · exact ⟨le_trans (by decide) low, lt_of_le_of_lt high (by decide)⟩
    all_goals decide
  simp only [isControl, Bool.or_eq_false_iff, Bool.and_eq_false_iff, decide_eq_false_iff_not]
  omega

theorem isControl_newline : isControl '\n' = true := by decide

/-- The texts that are signed have no control character, but for that of `sentAt`. -/
theorem PassedChecks.printable {field : String} (passed : PassedChecks parseDate envelope)
    (signed : field ∈ signedFields) (other : field ≠ "sentAt") :
    ∀ char ∈ (textField envelope field).toList, isControl char = false := by
  by_cases version : field = "protocolVersion"
  · subst version
    obtain ⟨_, found, text, rfl, supported⟩ := isOneOf_spec passed.version
    obtain rfl := List.mem_singleton.1 supported
    have clean : ("1.0".toList.all fun char => !isControl char) = true := by decide
    rw [textField, found]
    exact fun char occurs => by simpa using List.all_eq_true.1 clean char occurs
  · have identifier : field ∈ ["eventId", "idempotencyKey", "partnerId", "applicationId",
        "installationId", "nonce"] := by
      simp only [signedFields, List.mem_cons, List.not_mem_nil, or_false] at signed
      simp only [List.mem_cons, List.not_mem_nil, or_false]
      tauto
    exact fun char occurs => control_of_opaque (passed.idChars identifier char occurs)

/-- The parts whose ends the reader must find have no line break. -/
structure OneLined (parts : SigningParts) : Prop where
  ids : ∀ text ∈ [parts.protocolVersion, parts.applicationId, parts.installationId, parts.eventId,
    parts.idempotencyKey, parts.nonce, parts.bodyHashHex], '\n' ∉ text.toList

theorem signingString_inj {first second : SigningParts} (sameMethod : first.method = second.method)
    (samePath : first.path = second.path) (lines : OneLined first) (lines' : OneLined second)
    (same : buildSigningString toUpperCase first = buildSigningString toUpperCase second) :
    first = second := by
  obtain ⟨method, path, version, application, installation, event, key, sentAt, nonce, hash⟩ :=
    first
  obtain ⟨_, _, version', application', installation', event', key', sentAt', nonce', hash'⟩ :=
    second
  obtain rfl := sameMethod
  obtain rfl := samePath
  have clean := lines.ids
  have clean' := lines'.ids
  simp only [List.forall_mem_cons, List.not_mem_nil, false_imp_iff, implies_true,
    and_true] at clean clean'
  obtain ⟨cleanVersion, cleanApplication, cleanInstallation, cleanEvent, cleanKey, cleanNonce,
    cleanHash⟩ := clean
  obtain ⟨cleanVersion', cleanApplication', cleanInstallation', cleanEvent', cleanKey', cleanNonce',
    cleanHash'⟩ := clean'
  have newline : "\n".toList = ['\n'] := rfl
  have texts := congrArg String.toList same
  simp only [buildSigningString, String.toList_intercalate, List.map_cons, List.map_nil, newline,
    List.intercalate_cons_cons, List.intercalate_singleton, List.append_assoc,
    List.singleton_append, List.append_cancel_left_eq, List.cons.injEq, true_and] at texts
  obtain ⟨versions, texts⟩ := Text.separator_append_inj cleanVersion cleanVersion' texts
  obtain ⟨applications, texts⟩ := Text.separator_append_inj cleanApplication cleanApplication' texts
  obtain ⟨installations, texts⟩ :=
    Text.separator_append_inj cleanInstallation cleanInstallation' texts
  obtain ⟨events, texts⟩ := Text.separator_append_inj cleanEvent cleanEvent' texts
  obtain ⟨keys, texts⟩ := Text.separator_append_inj cleanKey cleanKey' texts
  rw [← List.cons_append, ← List.append_assoc, ← List.cons_append, ← List.append_assoc] at texts
  obtain ⟨texts, hashes⟩ := Text.append_separator_inj cleanHash cleanHash' texts
  obtain ⟨times, nonces⟩ := Text.append_separator_inj cleanNonce cleanNonce' texts
  simp only [String.toList_inj]
    at versions applications installations events keys hashes times nonces
  rw [versions, applications, installations, events, keys, times, nonces, hashes]

theorem PassedChecks.oneLined {method path bodyHashHex : String}
    (passed : PassedChecks parseDate envelope) (hash : '\n' ∉ bodyHashHex.toList) :
    OneLined (signingParts envelope method path bodyHashHex) := by
  have line {field : String} (signed : field ∈ signedFields) (different : field ≠ "sentAt") :
      '\n' ∉ (textField envelope field).toList := by
    intro occurs
    have control := passed.printable signed different _ occurs
    rw [isControl_newline] at control
    cases control
  constructor
  simp only [signingParts, List.forall_mem_cons, List.not_mem_nil, false_imp_iff, implies_true,
    and_true]
  exact ⟨line (by decide) (by decide), line (by decide) (by decide), line (by decide) (by decide),
    line (by decide) (by decide), line (by decide) (by decide), line (by decide) (by decide), hash⟩

theorem names_clean : ∀ key ∈ topKeys ++ signalKeys ++ classificationKeys ++ subjectKeys ++
    contextKeys, key.toLower ∉ prohibitedFieldKeys := by
  decide +kernel

theorem mem_names {members : List (Member ℚ)} {key : String} (accepts : Accepts members value)
    (leaves : ∀ member ∈ members, ∀ inner, member.Allows inner → inner.keys = [])
    (occurs : key ∈ value.keys) : key ∈ members.map Member.name := by
  rcases accepts.mem_keys occurs with isName | ⟨member, isMember, inner, allows, inside⟩
  · exact isName
  · rw [leaves member isMember inner allows] at inside
    cases inside

theorem signal_leaves : ∀ member ∈ signalMembers, ∀ inner, member.Allows inner →
    inner.keys = [] := by
  simp only [signalMembers, List.forall_mem_cons, List.not_mem_nil, false_imp_iff, implies_true,
    and_true]
  exact ⟨fun _ => keys_of_isText, fun _ => keys_of_isText, fun _ => keys_of_isText,
    fun _ => keys_of_isText, fun _ => keys_of_isText, fun _ => keys_of_isText⟩

theorem classification_leaves : ∀ member ∈ classificationMembers parseDate, ∀ inner,
    member.Allows inner → inner.keys = [] := by
  simp only [classificationMembers, List.forall_mem_cons, List.not_mem_nil, false_imp_iff,
    implies_true, and_true]
  exact ⟨fun _ => keys_of_isText, fun _ => keys_of_isText, fun _ => keys_of_isText,
    fun _ => keys_of_isText, fun _ => keys_of_isText, fun _ => keys_of_isText⟩

theorem subject_leaves : ∀ member ∈ subjectMembers, ∀ inner, member.Allows inner →
    inner.keys = [] := by
  simp only [subjectMembers, List.forall_mem_cons, List.not_mem_nil, false_imp_iff, implies_true,
    and_true]
  exact ⟨fun _ => keys_of_isText, fun _ => keys_of_isText, fun _ => keys_of_isText⟩

theorem context_leaves : ∀ member ∈ contextMembers, ∀ inner, member.Allows inner →
    inner.keys = [] := by
  intro member isMember inner allows
  rcases List.mem_append.1 isMember with isMember | isFlag
  · rcases List.mem_cons.1 isMember with rfl | isCount
    · exact keys_of_isText allows
    · obtain ⟨field, -, rfl⟩ := List.mem_map.1 isCount
      obtain ⟨count, rfl, -⟩ := allows
      rfl
  · obtain ⟨field, -, rfl⟩ := List.mem_map.1 isFlag
    obtain ⟨flag, rfl⟩ := allows
    rfl

theorem text_leaves : ∀ member ∈ textMembers parseDate, ∀ inner, member.Allows inner →
    inner.keys = [] := by
  intro member isMember inner allows
  rcases List.mem_append.1 isMember with isMember | isDate
  · rcases List.mem_append.1 isMember with isMember | isIdentifier
    · simp only [List.mem_cons, List.not_mem_nil, or_false] at isMember
      rcases isMember with rfl | rfl <;> exact keys_of_isText allows
    · obtain ⟨field, -, rfl⟩ := List.mem_map.1 isIdentifier
      exact keys_of_isText allows
  · obtain ⟨field, -, rfl⟩ := List.mem_map.1 isDate
    exact keys_of_isText allows

theorem keys_declared {key : String} (shape : Accepts (envelopeMembers parseDate) envelope)
    (occurs : key ∈ envelope.keys) :
    key ∈ topKeys ++ signalKeys ++ classificationKeys ++ subjectKeys ++ contextKeys := by
  simp only [List.mem_append]
  rcases shape.mem_keys occurs with isName | ⟨member, isMember, inner, allows, inside⟩
  · have names : ∀ name ∈ (envelopeMembers parseDate).map Member.name, name ∈ topKeys := by
      simp [envelopeMembers, textMembers, partMembers, topKeys]
    exact .inl (.inl (.inl (.inl (names key isName))))
  · rcases List.mem_append.1 isMember with isText | isPart
    · rw [text_leaves member isText inner allows] at inside
      cases inside
    · simp only [partMembers, List.mem_cons, List.not_mem_nil, or_false] at isPart
      rcases isPart with rfl | rfl | rfl | rfl
      · exact .inl (.inl (.inl (.inr (mem_names allows signal_leaves inside))))
      · exact .inl (.inl (.inr (mem_names allows classification_leaves inside)))
      · exact .inl (.inr (mem_names allows subject_leaves inside))
      · exact .inr (mem_names allows context_leaves inside)

theorem distinct_field (distinct : envelope.distinct) (found : envelope.field? name = some value) :
    value.distinct := by
  cases envelope with
  | obj fields =>
    have member := (Table.lookup_eq_some_iff distinct.1).1 found
    exact distinctFields_iff.1 distinct.2 _ member
  | _ => cases found

theorem accepts_part {errors : Json ℚ → List String} {members : List (Member ℚ)} {missing : String}
    (distinct : envelope.distinct) (asks : ∀ items, errors (.arr items) ≠ [])
    (accepts : ∀ fields, (fields.map Prod.fst).Nodup → errors (.obj fields) = [] →
      Accepts members (.obj fields))
    (fine : partErrors (envelope.field? name) missing errors = []) :
    ∃ value, envelope.field? name = some value ∧ Accepts members value := by
  obtain ⟨value, found, object, none⟩ := part_spec fine
  refine ⟨value, found, ?_⟩
  cases value with
  | obj fields => exact accepts fields (distinct_field distinct found).1 none
  | arr items => exact absurd none (asks items)
  | _ => cases object

theorem accepts_envelope (distinct : (Json.obj fields).distinct)
    (passed : PassedChecks parseDate (.obj fields))
    (plain : ∀ items, (Json.obj fields).field? "context" ≠ some (.arr items)) :
    Accepts (envelopeMembers parseDate) (.obj fields) := by
  have names : ∀ name ∈ topKeys, name ∈ (envelopeMembers parseDate).map Member.name := by
    simp [envelopeMembers, textMembers, partMembers, topKeys]
  refine (accepts_iff distinct.1 (by simp [envelopeMembers, textMembers, partMembers])).2
    ⟨fun key occurs => names key (declared_of_onlyKeys passed.keys key occurs), ?_⟩
  intro member isMember
  rcases List.mem_append.1 isMember with isText | isPart
  · rcases List.mem_append.1 isText with isText | isDate
    · rcases List.mem_append.1 isText with isText | isIdentifier
      · simp only [List.mem_cons, List.not_mem_nil, or_false] at isText
        rcases isText with rfl | rfl
        · exact Member.fits_required (isOneOf_spec passed.protocol)
        · exact Member.fits_required (isOneOf_spec passed.version)
      · obtain ⟨field, listed, rfl⟩ := List.mem_map.1 isIdentifier
        exact Member.fits_required (isOpaqueId_spec (passed.ids field listed))
    · simp only [List.map_cons, List.map_nil, List.mem_cons, List.not_mem_nil, or_false] at isDate
      rcases isDate with rfl | rfl
      · exact Member.fits_required (isIso_spec passed.occurredAt)
      · exact Member.fits_required (isIso_spec passed.sentAt)
  · simp only [partMembers, List.mem_cons, List.not_mem_nil, or_false] at isPart
    rcases isPart with rfl | rfl | rfl | rfl
    · exact Member.fits_required (accepts_part distinct
        (fun items => by simp [signalErrors, field?, isOpaqueId, failed])
        (fun _ => accepts_signal) passed.signal)
    · exact Member.fits_required (accepts_part distinct
        (fun items => by simp [classificationErrors, field?, isOneOf, failed])
        (fun _ => accepts_classification) passed.classification)
    · exact Member.fits_required (accepts_part distinct
        (fun items => by simp [subjectErrors, field?, isOpaqueId, failed])
        (fun _ => accepts_subject) passed.subject)
    · refine ⟨fun required => absurd required Bool.false_ne_true, fun value found => ?_⟩
      have fine := passed.context value found
      cases value with
      | obj inner => exact accepts_context (distinct_field distinct found).1 fine
      | arr items => exact absurd found (plain items)
      | _ => cases fine

theorem context_of_shape (distinct : envelope.distinct)
    (shape : Accepts (envelopeMembers parseDate) envelope) (items : List (Json ℚ)) :
    envelope.field? "context" ≠ some (.arr items) := by
  intro found
  have listed : ⟨"context", false, Accepts contextMembers⟩ ∈ envelopeMembers parseDate :=
    List.mem_append_right _ (by simp [partMembers])
  have names : ((envelopeMembers parseDate).map Member.name).Nodup := by
    simp [envelopeMembers, textMembers, partMembers]
  cases envelope with
  | obj fields => exact (((accepts_iff distinct.1 names).1 shape).2 _ listed).allowed _ found
  | _ => exact shape.elim

/-- A valid envelope is sound exactly if its context is no array and its `sentAt` is printable; the
strings that are signed for two valid envelopes are the same for the same parts only. -/
theorem soundSignal_iff (distinct : envelope.distinct)
    (valid : validateSignalEnvelope toLowerCase parseDate envelope = []) :
    (SoundSignal parseDate envelope ↔ PlainSignal envelope) ∧
      ∀ other, validateSignalEnvelope toLowerCase parseDate other = [] →
        ∀ method path bodyHashHex otherHashHex, IsHex bodyHashHex → IsHex otherHashHex →
          buildSigningString toUpperCase (signingParts envelope method path bodyHashHex) =
            buildSigningString toUpperCase (signingParts other method path otherHashHex) →
          signingParts envelope method path bodyHashHex =
            signingParts other method path otherHashHex := by
  obtain ⟨fields, rfl, passed⟩ := passedChecks valid
  refine ⟨⟨fun sound => ?_, fun plain => ?_⟩, ?_⟩
  · exact ⟨context_of_shape distinct sound.shape, sound.printable "sentAt" (by decide)⟩
  · have shape := accepts_envelope distinct passed plain.context
    refine ⟨shape, fun key occurs => names_clean key (keys_declared shape occurs), ?_⟩
    intro field signed
    by_cases sentAt : field = "sentAt"
    · exact sentAt ▸ plain.sentAt
    · exact passed.printable signed sentAt
  · intro other otherValid method path bodyHashHex otherHashHex hex otherHex same
    obtain ⟨_, -, otherPassed⟩ := passedChecks otherValid
    have line {text : String} (isHex : IsHex text) : '\n' ∉ text.toList :=
      fun occurs => absurd (isHex _ occurs) (by decide)
    exact signingString_inj rfl rfl (passed.oneLined (line hex))
      (otherPassed.oneLined (line otherHex)) same

end

def parseNewYear (text : String) : Option Int :=
  if text = "2026-01-01T00:00:00Z" then some 1767225600000 else none

def newYearEnvelope (context : Json ℚ) : Json ℚ :=
  .obj [("protocol", .str "tamanor-child-safety-signal"), ("protocolVersion", .str "1.0"),
    ("eventId", .str "e1"), ("idempotencyKey", .str "k1"), ("partnerId", .str "p1"),
    ("applicationId", .str "a1"), ("installationId", .str "i1"),
    ("occurredAt", .str "2026-01-01T00:00:00Z"), ("sentAt", .str "2026-01-01T00:00:00Z"),
    ("nonce", .str "n1"),
    ("signal", .obj [("externalSignalId", .str "s1"), ("signalType", .str "GROOMING"),
      ("confidenceBand", .str "high")]),
    ("classification", .obj [("classifierType", .str "ml_model"), ("classifierVersion", .str "1"),
      ("classificationMethod", .str "automated"), ("evaluatedAt", .str "2026-01-01T00:00:00Z")]),
    ("subject", .obj [("pseudonymousSubjectId", .str "u1")]), ("context", context)]

theorem distinct_newYear {context : Json ℚ} (distinct : context.distinct) :
    (newYearEnvelope context).distinct := by
  simp [newYearEnvelope, Json.distinct, distinctFields, distinct]

theorem soundSignal_iff_newYear :
    (SoundSignal parseNewYear (newYearEnvelope (.obj [("threatFlag", .bool true)])) ↔
        PlainSignal (newYearEnvelope (.obj [("threatFlag", .bool true)]))) ∧
      ∀ other, validateSignalEnvelope String.toLower parseNewYear other = [] →
        ∀ method path bodyHashHex otherHashHex, IsHex bodyHashHex → IsHex otherHashHex →
          buildSigningString String.toUpper (signingParts
              (newYearEnvelope (.obj [("threatFlag", .bool true)])) method path bodyHashHex) =
            buildSigningString String.toUpper (signingParts other method path otherHashHex) →
          signingParts (newYearEnvelope (.obj [("threatFlag", .bool true)])) method path
              bodyHashHex = signingParts other method path otherHashHex :=
  @soundSignal_iff String.toLower String.toUpper parseNewYear _
    (distinct_newYear (by simp [Json.distinct, distinctFields])) (by decide +kernel)

/-- An empty list is accepted as the context. -/
theorem not_soundSignal_array :
    validateSignalEnvelope String.toLower parseNewYear (newYearEnvelope (.arr [])) = [] ∧
      ¬ SoundSignal parseNewYear (newYearEnvelope (.arr [])) := by
  refine ⟨by decide +kernel, fun sound => ?_⟩
  exact context_of_shape (distinct_newYear (by simp [Json.distinct, distinctItems])) sound.shape [] rfl

end Tamanor.Core
