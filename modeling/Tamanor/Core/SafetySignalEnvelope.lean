import Tamanor.Core.ChildSafetyIntegration
import Tamanor.Library.JsonSchema

/-! The strict allowlist of a safety signal (`child-safety-signal.ts`): what the validator looks
at, and what an envelope is. -/

set_option autoImplicit false

namespace Tamanor.Core

open Library Library.Json

def allSafetySignalCodes : List String :=
  ["AGE_PROBE", "PARENTAL_MONITORING_PROBE", "SECRECY_REQUEST", "INTIMATE_IMAGE_REQUEST",
    "OFF_PLATFORM_MOVE", "MEETING_PROPOSAL", "THREAT", "SELF_HARM_ENCOURAGEMENT",
    "COERCIVE_CONTROL", "COMPLIANCE_THREAT", "FINANCIAL_SCAM", "CREDENTIAL_REQUEST",
    "PAYMENT_DEMAND", "TRUST_EXPLOITATION"]

def allRiskTypes : List String :=
  ["GROOMING", "SEXUAL_SOLICITATION", "SEXTORTION", "MEETING_ATTEMPT", "CYBERBULLYING", "THREAT",
    "IDENTITY_MANIPULATION", "COERCION", "SCAM_EXPLOITATION"]

def safetySeverities : List String := ["low", "medium", "high", "critical"]

def safetyUrgencies : List String := ["routine", "elevated", "immediate"]

def safetySignalAllowedFields : List String :=
  ["contractVersion", "eventId", "sourcePlatform", "sourceEnvironment",
    "protectedProfileReference", "conversationReferenceHash", "actorReferenceHash", "riskType",
    "severity", "urgency", "confidence", "signalCodes", "detectedAt", "taxonomyVersion",
    "detectorVersion", "nonce", "signature"]

def safetySignalForbiddenFields : List String :=
  ["message", "text", "body", "content", "transcript", "image", "video", "audio", "attachment",
    "filename", "email", "phone", "username", "displayName", "platformUserId", "accessToken",
    "refreshToken", "latitude", "longitude"]

inductive SafetySignalValidationErrorCode where
  | forbiddenField | unknownField | missingRequired | invalidValue | notObject
deriving DecidableEq

structure SafetySignalValidationError where
  code : SafetySignalValidationErrorCode
  field : String
deriving DecidableEq

structure SafetySignalValidation where
  ok : Bool
  errors : List SafetySignalValidationError
deriving DecidableEq

/-- `undefined` and `null`. -/
def isMissing : Option (Json ℚ) → Bool
  | none | some .null => true
  | some _ => false

/-- `0..1`. -/
def isConfidence : Option (Json ℚ) → Bool
  | some (.num value) => decide (0 ≤ value) && decide (value ≤ 1)
  | _ => false

def isCodeList : Option (Json ℚ) → Bool
  | some (.arr items) => items.all fun item => isOneOf allSafetySignalCodes (some item)
  | _ => false

def invalidValue (obj : Json ℚ) (passes : Option (Json ℚ) → Bool) (field : String) :
    List SafetySignalValidationError :=
  let value := obj.field? field
  if value.isNone || passes value then [] else [⟨.invalidValue, field⟩]

def safetySignalErrors (obj : Json ℚ) : List SafetySignalValidationError :=
  ((objectKeys obj).flatMap fun key =>
    if safetySignalForbiddenFields.contains key then [⟨.forbiddenField, key⟩]
    else if safetySignalAllowedFields.contains key then []
    else [⟨.unknownField, key⟩]) ++
  (safetySignalAllowedFields.flatMap fun field =>
    if isMissing (obj.field? field) then [⟨.missingRequired, field⟩] else []) ++
  invalidValue obj (isOneOf allRiskTypes) "riskType" ++
  invalidValue obj isConfidence "confidence" ++
  invalidValue obj isCodeList "signalCodes"

def validateSafetySignalEnvelope : Json ℚ → SafetySignalValidation
  | .obj fields =>
    let errors := safetySignalErrors (.obj fields)
    ⟨errors.isEmpty, errors⟩
  | _ => ⟨false, [⟨.notObject, "$"⟩]⟩

def stringMember (name : String) : Member ℚ := ⟨name, true, IsText fun _ => True⟩

def enumMember (name : String) (values : List String) : Member ℚ :=
  ⟨name, true, IsText fun text => text ∈ values⟩

/-- The members that are only counted: no value of theirs is looked at. -/
def unseenMembers : List (Member ℚ) :=
  (["contractVersion", "eventId", "sourcePlatform", "sourceEnvironment",
    "protectedProfileReference", "conversationReferenceHash", "actorReferenceHash", "detectedAt",
    "taxonomyVersion", "detectorVersion", "nonce", "signature"].map stringMember) ++
  [enumMember "severity" safetySeverities, enumMember "urgency" safetyUrgencies]

def seenMembers : List (Member ℚ) :=
  [enumMember "riskType" allRiskTypes,
    ⟨"confidence", true, fun value => ∃ number, value = .num number ∧ 0 ≤ number ∧ number ≤ 1⟩,
    ⟨"signalCodes", true, IsListOf (IsText fun text => text ∈ allSafetySignalCodes)⟩]

/-- `SafetySignalEnvelope`. -/
def safetySignalEnvelope : List (Member ℚ) := seenMembers ++ unseenMembers

structure SoundEnvelope (raw : Json ℚ) : Prop where
  envelope : Accepts safetySignalEnvelope raw
  clean : ∀ key ∈ raw.keys, key ∉ safetySignalForbiddenFields

/-! What an accepted value is known to be. -/

section
variable {raw : Json ℚ} {fields : List (String × Json ℚ)} {field : String}

theorem isText_of_isOneOf {values : List String} {value : Json ℚ}
    (passes : isOneOf values (some value) = true) : IsText (fun text => text ∈ values) value := by
  cases value with
  | str text => exact ⟨text, rfl, by simpa [isOneOf] using passes⟩
  | _ => cases passes

theorem of_invalidValue {passes : Option (Json ℚ) → Bool}
    (fine : invalidValue raw passes field = []) {value : Json ℚ}
    (given : raw.field? field = some value) :
    passes (some value) = true := by
  unfold invalidValue at fine
  dsimp only at fine
  rw [given] at fine
  simpa using fine

structure Checked (obj : Json ℚ) : Prop where
  declared : ∀ key ∈ objectKeys obj, key ∈ safetySignalAllowedFields
  present : ∀ field ∈ safetySignalAllowedFields, isMissing (obj.field? field) = false
  riskType : invalidValue obj (isOneOf allRiskTypes) "riskType" = []
  confidence : invalidValue obj isConfidence "confidence" = []
  signalCodes : invalidValue obj isCodeList "signalCodes" = []

theorem checked_of_accepted (accepted : (validateSafetySignalEnvelope raw).ok = true) :
    ∃ fields, raw = .obj fields ∧ Checked raw := by
  unfold validateSafetySignalEnvelope at accepted
  split at accepted
  next fields =>
    have none := List.isEmpty_iff.1 accepted
    unfold safetySignalErrors at none
    simp only [List.append_eq_nil_iff, List.flatMap_eq_nil_iff] at none
    obtain ⟨⟨⟨⟨declared, present⟩, riskType⟩, confidence⟩, signalCodes⟩ := none
    refine ⟨fields, rfl, fun key member => ?_, fun field member => ?_, riskType, confidence,
      signalCodes⟩
    · have fine := declared key member
      split at fine
      · cases fine
      · split at fine
        next allowed => simpa using allowed
        · cases fine
    · have fine := present field member
      split at fine
      · cases fine
      next given => exact Bool.eq_false_of_not_eq_true given
  · cases accepted

theorem Checked.given (checked : Checked raw) (allowed : field ∈ safetySignalAllowedFields) :
    (raw.field? field).isSome = true := by
  have present := checked.present field allowed
  cases found : raw.field? field with
  | none => rw [found] at present; cases present
  | some value => rfl

theorem Checked.seen (checked : Checked raw) : ∀ member ∈ seenMembers, ∀ value,
    raw.field? member.name = some value → member.Allows value := by
  intro member listed value given
  simp only [seenMembers, List.mem_cons, List.not_mem_nil, or_false] at listed
  rcases listed with rfl | rfl | rfl
  · exact isText_of_isOneOf (of_invalidValue checked.riskType given)
  · have passes := of_invalidValue checked.confidence given
    cases value with
    | num number =>
      simp only [isConfidence, Bool.and_eq_true, decide_eq_true_eq] at passes
      exact ⟨number, rfl, passes⟩
    | _ => cases passes
  · have passes := of_invalidValue checked.signalCodes given
    cases value with
    | arr items =>
      have codes := List.all_eq_true.1 passes
      exact ⟨items, rfl, fun item listed => isText_of_isOneOf (codes item listed)⟩
    | _ => cases passes

theorem envelope_names : (safetySignalEnvelope.map Member.name).Nodup ∧
    (∀ name ∈ safetySignalAllowedFields, name ∈ safetySignalEnvelope.map Member.name) ∧
    (∀ name ∈ safetySignalEnvelope.map Member.name, name ∈ safetySignalAllowedFields) ∧
    ∀ name ∈ safetySignalEnvelope.map Member.name, name ∉ safetySignalForbiddenFields := by
  decide

theorem envelope_leaves : ∀ member ∈ safetySignalEnvelope, ∀ inner, member.Allows inner →
    inner.keys = [] := by
  intro member isMember inner allows
  rcases List.mem_append.1 isMember with seen | unseen
  · simp only [seenMembers, List.mem_cons, List.not_mem_nil, or_false] at seen
    rcases seen with rfl | rfl | rfl
    · exact keys_of_isText allows
    · obtain ⟨number, rfl, -⟩ := allows
      rfl
    · exact keys_of_isListOf (fun _ => keys_of_isText) allows
  · rcases List.mem_append.1 unseen with texts | enums
    · obtain ⟨name, -, rfl⟩ := List.mem_map.1 texts
      exact keys_of_isText allows
    · simp only [List.mem_cons, List.not_mem_nil, or_false] at enums
      rcases enums with rfl | rfl <;> exact keys_of_isText allows

/-- An accepted value is an envelope, and free of what is forbidden, exactly if the fourteen members
that the validator does not look at are of their types. -/
theorem soundEnvelope_iff (distinct : (objectKeys raw).Nodup)
    (accepted : (validateSafetySignalEnvelope raw).ok = true) :
    SoundEnvelope raw ↔ ∀ member ∈ unseenMembers, ∀ value,
      raw.field? member.name = some value → member.Allows value := by
  obtain ⟨fields, rfl, checked⟩ := checked_of_accepted accepted
  obtain ⟨names, declared, listed, clean⟩ := envelope_names
  have accepts := @accepts_iff ℚ fields safetySignalEnvelope distinct names
  constructor
  · intro sound member unseen
    obtain ⟨envelope, -⟩ := sound
    exact ((accepts.1 envelope).2 member (List.mem_append_right _ unseen)).allowed
  · intro unseen
    have envelope : Accepts safetySignalEnvelope (.obj fields) := by
      refine accepts.2 ⟨fun name occurs => declared name (checked.declared name occurs), ?_⟩
      intro member isMember
      refine ⟨fun _ => checked.given (listed _ (List.mem_map_of_mem isMember)), ?_⟩
      rcases List.mem_append.1 isMember with seen | isUnseen
      · exact checked.seen member seen
      · exact unseen member isUnseen
    refine ⟨envelope, fun key occurs => ?_⟩
    rcases envelope.mem_keys occurs with isName | ⟨member, isMember, inner, allows, inside⟩
    · exact clean key isName
    · rw [envelope_leaves member isMember inner allows] at inside
      cases inside

end

def envelopeWith (eventId : Json ℚ) : Json ℚ :=
  .obj [("contractVersion", .str "safety-signal-v1"), ("eventId", eventId),
    ("sourcePlatform", .str "p"), ("sourceEnvironment", .str "prod"),
    ("protectedProfileReference", .str "r"), ("conversationReferenceHash", .str "c"),
    ("actorReferenceHash", .str "a"), ("riskType", .str "GROOMING"), ("severity", .str "high"),
    ("urgency", .str "routine"), ("confidence", .num 1), ("signalCodes", .arr [.str "AGE_PROBE"]),
    ("detectedAt", .str "2026-01-01T00:00:00Z"), ("taxonomyVersion", .str "v2"),
    ("detectorVersion", .str "d1"), ("nonce", .str "n"), ("signature", .str "s")]

theorem soundEnvelope_iff_text :
    SoundEnvelope (envelopeWith (.str "e1")) ↔ ∀ member ∈ unseenMembers, ∀ value,
      (envelopeWith (.str "e1")).field? member.name = some value → member.Allows value :=
  soundEnvelope_iff (by decide) (by decide)

/-- A message rides inside the event id. -/
theorem not_soundEnvelope_message :
    (validateSafetySignalEnvelope (envelopeWith (.obj [("message", .str "hi")]))).ok = true ∧
      ¬ SoundEnvelope (envelopeWith (.obj [("message", .str "hi")])) := by
  refine ⟨by decide, fun sound => ?_⟩
  exact sound.clean "message" (by decide) (by decide)

end Tamanor.Core
