import Tamanor.Core.BusinessContacts
import Tamanor.Core.CyberbullyingCompliance

/-! Redaction drafts, export authorizations and export packages (`cyberbullying-redaction.ts` of
the core package): their statuses, the fields that may be redacted, the transformation of a
payload, and what is hashed. -/

set_option autoImplicit false

namespace Tamanor.Library.JsonNumber

def ofNat (value : Nat) : JsonNumber where
  text := Nat.toDigits 10 value
  nonempty := Nat.toDigits_ne_nil
  printed := by
    rw [List.all_eq_true]
    intro digit member
    have isDigit := Nat.isDigit_of_mem_toDigits (by decide) (by decide) member
    unfold isNumberChar
    rw [isDigit]
    rfl

def ofInt : Int → JsonNumber
  | .ofNat value => ofNat value
  | .negSucc value =>
    { text := '-' :: (ofNat (value + 1)).text
      nonempty := List.cons_ne_nil _ _
      printed := by
        rw [List.all_cons, (ofNat (value + 1)).printed]
        rfl }

end Tamanor.Library.JsonNumber

namespace Tamanor.Library.JsNumber

def ofNat (value : Nat) : JsNumber := JsonNumber.ofNat value

def ofInt (value : Int) : JsNumber := JsonNumber.ofInt value

end Tamanor.Library.JsNumber

namespace Tamanor.Core

open Library

inductive RedactionDraftStatus where
  | draft | submitted | approved | rejected | superseded | cancelled
deriving DecidableEq

inductive ExportAuthorizationStatus where
  | requested | approved | rejected | cancelled | expired | consumed
deriving DecidableEq

def ExportAuthorizationStatus.value : ExportAuthorizationStatus → String
  | .requested => "requested"
  | .approved => "approved"
  | .rejected => "rejected"
  | .cancelled => "cancelled"
  | .expired => "expired"
  | .consumed => "consumed"

def redactionActions : List String := ["remove", "replace_with_label", "mask_identifier", "keep"]

def redactionReasons : List String :=
  ["PERSONAL_DATA", "MINOR_PROTECTION", "CONTACT_DATA", "LOCATION_DATA", "CONFIDENTIAL_NOTE",
    "ALLEGED_ACTOR_DATA", "INTERNAL_SECURITY_DATA", "LEGAL_RESTRICTION", "DATA_MINIMIZATION",
    "OUT_OF_SCOPE", "OTHER"]

def redactionReasonRequiresNote (reason : String) : Bool := reason == "OTHER"

def redactionRejectionReasons : List String :=
  ["INCOMPLETE_REDACTION", "EXCESSIVE_REDACTION", "WRONG_RECIPIENT_SCOPE",
    "REQUIRED_FIELD_REMOVED", "SENSITIVE_FIELD_UNRESOLVED", "INCORRECT_REASON",
    "SOURCE_REPORT_OUTDATED", "OTHER"]

def exportPurposes : List String :=
  ["INTERNAL_CASE_REVIEW", "LEGAL_REVIEW", "LAW_ENFORCEMENT_REQUEST", "SCHOOL_SAFETY_REVIEW",
    "GUARDIAN_REQUEST", "PLATFORM_REPORTING", "REGULATORY_REQUEST", "OTHER"]

def recipientTypes : List String :=
  ["INTERNAL_AUTHORIZED_USER", "LEGAL_COUNSEL", "LAW_ENFORCEMENT", "SCHOOL_AUTHORITY", "GUARDIAN",
    "PLATFORM_TRUST_SAFETY", "REGULATOR", "OTHER"]

def exportAuthorizationTtlHours : Int := 168

inductive FieldClassification where
  | publicSafe | internal | sensitive | highlySensitive
deriving DecidableEq

structure RedactableField where
  fieldPath : String
  classification : FieldClassification
  allowedActions : List String
  requiredInFinal : Bool
  defaultMarker : String
  applicableReportTypes : List ComplianceReportType
  schemaVersions : List String

/-- Every field is for both types of report and the one schema, and none is required. -/
def redactable (fieldPath : String) (classification : FieldClassification)
    (allowedActions : List String) (defaultMarker : String) : RedactableField :=
  ⟨fieldPath, classification, allowedActions, false, defaultMarker,
    [.caseSummary, .evidencePackage], ["1.0.0"]⟩

def identifierActions : List String := ["mask_identifier", "replace_with_label", "keep"]

def complianceRedactableFields : List RedactableField :=
  [redactable "protectedSubject.displayLabel" .highlySensitive
      ["remove", "replace_with_label", "mask_identifier", "keep"] "REDACTED_MINOR_DATA",
    redactable "assignments.primaryReviewerUserId" .internal identifierActions
      "REDACTED_INTERNAL",
    redactable "assignments.participants[*].userId" .internal identifierActions
      "REDACTED_INTERNAL",
    redactable "assignments.participants[*].subjectLabel" .sensitive
      ["remove", "replace_with_label", "mask_identifier", "keep"] "REDACTED_PERSONAL_DATA",
    redactable "detections[*].confidence" .internal ["remove", "keep"] "REDACTED_INTERNAL",
    redactable "evidenceInventory[*].submittedByUserId" .internal identifierActions
      "REDACTED_INTERNAL",
    redactable "custodySummary[*].actorUserId" .internal identifierActions "REDACTED_INTERNAL",
    redactable "chronology[*].actorUserId" .internal identifierActions "REDACTED_INTERNAL",
    redactable "caseManagement.tasks[*].assigneeUserId" .internal identifierActions
      "REDACTED_INTERNAL",
    redactable "slaAndEscalation.activeEscalation.targetUserId" .internal identifierActions
      "REDACTED_INTERNAL",
    redactable "slaAndEscalation.activeEscalation.escalatedByUserId" .internal identifierActions
      "REDACTED_INTERNAL"]

def getRedactableField (fieldPath : String) : Option RedactableField :=
  complianceRedactableFields.find? fun field => field.fieldPath == fieldPath

inductive RedactionRuleError where
  | unknownField | actionNotAllowed | requiredFieldRemove | invalidReason | missingNote

def hasNote (note : Option String) : Bool := Text.trim (note.getD "").toList != []

def validateRedactionRule (fieldPath action reasonCode : String) (reasonNote : Option String)
    (reportType : ComplianceReportType) (schemaVersion : String) : Option RedactionRuleError :=
  match getRedactableField fieldPath with
  | none => some .unknownField
  | some field =>
    if !field.applicableReportTypes.contains reportType ||
        !field.schemaVersions.contains schemaVersion then some .unknownField
    else if !redactionActions.contains action then some .actionNotAllowed
    else if !field.allowedActions.contains action then some .actionNotAllowed
    else if action == "remove" && field.requiredInFinal then some .requiredFieldRemove
    else if !redactionReasons.contains reasonCode then some .invalidReason
    else if redactionReasonRequiresNote reasonCode && !hasNote reasonNote then
      some .missingNote
    else none

structure RedactionRuleSpec where
  fieldPath : String
  action : String
  reasonCode : String
  replacementMarkerKey : Option String
  order : Int
deriving DecidableEq

/-- The last characters of a text that fit into a number of UTF-16 code units. -/
def lastUnits (limit : Nat) (text : Text) : Text := (sliceUnits limit text.reverse).reverse

def maskIdentifier (value : Text) : Text :=
  let length := (Text.codeUnits value).length
  if length ≤ 8 then
    sliceUnits 1 value ++ (List.replicate (max 1 (length - 2)) '•' ++ lastUnits 1 value)
  else sliceUnits 4 value ++ (List.replicate 4 '•' ++ lastUnits 4 value)

/-- The segments of a path, and whether a segment stands for the items of an array. -/
def pathSegments (fieldPath : String) : List (String × Bool) :=
  (fieldPath.toList.splitOn '.').map fun segment =>
    if "[*]".toList.isSuffixOf segment then
      (String.ofList (segment.take (segment.length - 3)), true)
    else (String.ofList segment, false)

def onField (name : String) (change : JsonValue → JsonValue)
    (fields : List (String × JsonValue)) : List (String × JsonValue) :=
  fields.map fun field => if field.1 = name then (field.1, change field.2) else field

def setField (name : String) (value : JsonValue) (fields : List (String × JsonValue)) :
    List (String × JsonValue) :=
  if fields.any fun field => field.1 = name then onField name (fun _ => value) fields
  else fields ++ [(name, value)]

/-- Change the objects in which a path ends, by the name of its last segment. -/
def updateTargets
    (update : String → List (String × JsonValue) → List (String × JsonValue)) :
    List (String × Bool) → JsonValue → JsonValue
  | [], value => value
  | (name, true) :: rest, .obj fields =>
    .obj (onField name (fun found =>
      match found with
      | .arr items => .arr (items.map (updateTargets update rest))
      | other => other) fields)
  | [(name, false)], .obj fields => .obj (update name fields)
  | (name, false) :: rest, .obj fields =>
    .obj (onField name (updateTargets update rest) fields)
  | _ :: _, value => value

def targetValues : List (String × Bool) → JsonValue → List JsonValue
  | [], _ => []
  | (name, true) :: rest, value =>
    match value.field? name with
    | some (.arr items) => items.flatMap (targetValues rest)
    | _ => []
  | [(name, false)], value => (value.field? name).toList
  | (name, false) :: rest, value =>
    match value.field? name with
    | some found => targetValues rest found
    | none => []

variable (rule : RedactionRuleSpec)

def redactValue (field : RedactableField) (value : JsonValue) : JsonValue :=
  if rule.action = "replace_with_label" then
    .str (rule.replacementMarkerKey.getD field.defaultMarker)
  else if rule.action = "mask_identifier" && !value.isNull then
    .str (String.ofList (maskIdentifier (value.display.getD [])))
  else value

def redactFields (field : RedactableField) (name : String) (fields : List (String × JsonValue)) :
    List (String × JsonValue) :=
  if rule.action = "remove" then
    if field.requiredInFinal then fields
    else fields.filter fun entry => entry.1 ≠ name
  else onField name (redactValue rule field) fields

def applyRule (payload : JsonValue) (rule : RedactionRuleSpec) : JsonValue :=
  match getRedactableField rule.fieldPath with
  | none => payload
  | some field => updateTargets (redactFields rule field) (pathSegments rule.fieldPath) payload

def inOrder (rules : List RedactionRuleSpec) : List RedactionRuleSpec :=
  rules.insertionSort fun first second => first.order ≤ second.order

def removedPaths (rules : List RedactionRuleSpec) : List String :=
  ((inOrder rules).filter fun rule =>
    rule.action = "remove" && (getRedactableField rule.fieldPath).isSome).map (·.fieldPath)

def omissionOf (path : String) : JsonValue :=
  .obj [("path", .str path), ("reason", .str "UNSUPPORTED_FIELD")]

def addOmissions (paths : List String) : JsonValue → JsonValue
  | .obj fields =>
    let omissions :=
      match fields.lookup "omissions" with
      | some (.arr items) => items
      | _ => []
    .obj (setField "omissions" (.arr (omissions ++ paths.map omissionOf)) fields)
  | value => value

def applyComplianceRedactions (source : JsonValue) (rules : List RedactionRuleSpec) : JsonValue :=
  addOmissions (removedPaths rules) ((inOrder rules).foldl applyRule source)

def unresolvedHighlySensitive (source : JsonValue) (rulePaths : List String) : List String :=
  (complianceRedactableFields.filter fun field =>
    field.classification == .highlySensitive && !rulePaths.contains field.fieldPath &&
      (targetValues (pathSegments field.fieldPath) source).any fun value => !value.isNull).map
    (·.fieldPath)

/-- Assigning to a field of a section; it throws where there is no such object. -/
def assignIn (sectionName name : String) (value : JsonValue) : JsonValue → Option JsonValue
  | .obj fields =>
    match fields.lookup sectionName with
    | some (.obj inner) =>
      some (.obj (setField sectionName (.obj (setField name value inner)) fields))
    | some (.arr items) => some (.obj (setField sectionName (.arr items) fields))
    | _ => none
  | _ => none

def ruleHashInput : JsonValue :=
  .obj [("fieldPath", .str rule.fieldPath), ("action", .str rule.action),
    ("reasonCode", .str rule.reasonCode),
    ("replacementMarkerKey", textOrNull rule.replacementMarkerKey),
    ("order", .num (.ofInt rule.order))]

def buildRedactionRuleSetHashInput (sourceReportId sourceSnapshotHash : String)
    (draftRevision : Nat) (rules : List RedactionRuleSpec) : JsonValue :=
  .obj [("sourceReportId", .str sourceReportId), ("sourceSnapshotHash", .str sourceSnapshotHash),
    ("draftRevision", .num (.ofNat draftRevision)),
    ("rules", .arr ((inOrder rules).map ruleHashInput))]

/-- The facts of an authorization; times are printed as texts. -/
structure AuthorizationFacts where
  authorizationId : String
  reportId : String
  reportHash : String
  purposeCode : String
  recipientType : String
  requestedByUserId : String
  approvedByUserId : Option String
  requestedAt : String
  approvedAt : Option String
  expiresAt : String
  status : String

def buildAuthorizationHashInput (facts : AuthorizationFacts) : JsonValue :=
  .obj [("authorizationId", .str facts.authorizationId), ("reportId", .str facts.reportId),
    ("reportHash", .str facts.reportHash), ("purposeCode", .str facts.purposeCode),
    ("recipientType", .str facts.recipientType),
    ("requestedByUserId", .str facts.requestedByUserId),
    ("approvedByUserId", textOrNull facts.approvedByUserId),
    ("requestedAt", .str facts.requestedAt), ("approvedAt", textOrNull facts.approvedAt),
    ("expiresAt", .str facts.expiresAt), ("status", .str facts.status)]

structure ManifestFacts where
  manifestIdentity : Option JsonValue
  reportHash : String
  authorizationHash : String
  redactionRuleSetHash : Option String
  purposeCode : String
  recipientType : String
  preparedAt : String
  packageVersion : Nat
  previousManifestHash : Option String
  manifestPayload : JsonValue

def buildManifestHashInput (facts : ManifestFacts) : JsonValue :=
  .obj (property "manifestIdentity" facts.manifestIdentity ++
    [("reportHash", .str facts.reportHash), ("authorizationHash", .str facts.authorizationHash),
      ("redactionRuleSetHash", textOrNull facts.redactionRuleSetHash),
      ("purposeCode", .str facts.purposeCode), ("recipientType", .str facts.recipientType),
      ("preparedAt", .str facts.preparedAt),
      ("packageVersion", .num (.ofNat facts.packageVersion)),
      ("previousManifestHash", textOrNull facts.previousManifestHash),
      ("manifestPayload", facts.manifestPayload)])

end Tamanor.Core
