import Mathlib.Algebra.Order.Ring.Rat
import Tamanor.Library.Json

/-! The integration signal protocol (`child-safety-integration.ts` of the core): the strict
validation of an envelope, the canonical texts that are hashed and signed, and the mapping of a
partner's risk to a canonical one. -/

set_option autoImplicit false

namespace Tamanor.Core

open Library

def childSafetySignalProtocol : String := "tamanor-child-safety-signal"

def supportedProtocolVersions : List String := ["1.0"]

def isSupportedProtocolVersion (version : String) : Bool :=
  supportedProtocolVersions.contains version

def maxEnvelopeBytes : Nat := 32 * 1024

def integrationClockSkewMs : Int := 5 * 60 * 1000

def maxIdLen : Nat := 128

def maxOpaqueLen : Nat := 128

def maxCount : ℚ := 100000

def partnerRiskTypes : List String :=
  ["GROOMING", "SEXUAL_SOLICITATION", "SEXTORTION", "OFF_PLATFORM_MIGRATION", "MEETING_ATTEMPT",
    "CYBERBULLYING", "THREAT", "HARASSMENT", "COERCION", "IMPERSONATION", "SELF_HARM_CONCERN",
    "OTHER_REVIEW_REQUIRED"]

def partnerConfidenceBands : List String := ["low", "medium", "high"]

def partnerSeverityHints : List String := ["low", "medium", "high", "critical"]

def partnerUrgencyHints : List String := ["routine", "elevated", "immediate"]

def partnerClassifierTypes : List String := ["ml_model", "rule_engine", "human_review", "hybrid"]

def partnerClassificationMethods : List String := ["automated", "assisted", "manual"]

def partnerAgeBands : List String := ["under_10", "age_10_12", "age_13_15", "age_16_17"]

/-- Names under which raw content, personal data or a credential would stand. -/
def prohibitedFieldKeys : List String :=
  ["message", "messagetext", "text", "body", "content", "transcript", "conversation", "chatlog",
    "image", "images", "video", "audio", "file", "attachment", "media", "screenshot", "thumbnail",
    "url", "link", "href", "location", "latitude", "longitude", "geo", "coordinates", "address",
    "email", "phone", "phonenumber", "name", "firstname", "lastname", "fullname", "realname",
    "username", "handle", "displayname", "dob", "dateofbirth", "birthdate", "ssn", "nationalid",
    "guardian", "guardianname", "guardianemail", "guardianphone", "parent",
    "password", "passcode", "pin", "token", "accesstoken", "refreshtoken", "apikey", "secret",
    "sessioncookie", "cookie", "authorization", "credential", "privatekey", "deviceid", "imei",
    "ipaddress", "ip", "useragent", "macaddress"]

def topKeys : List String :=
  ["protocol", "protocolVersion", "eventId", "idempotencyKey", "partnerId", "applicationId",
    "installationId", "occurredAt", "sentAt", "nonce", "signal", "classification", "subject",
    "context"]

def signalKeys : List String :=
  ["externalSignalId", "signalType", "riskFamily", "confidenceBand", "severityHint", "urgencyHint"]

def classificationKeys : List String :=
  ["classifierType", "classifierVersion", "modelVersion", "ruleVersion", "classificationMethod",
    "evaluatedAt"]

def subjectKeys : List String := ["pseudonymousSubjectId", "pseudonymousActorId", "ageBand"]

def countFields : List String :=
  ["repeatedSignalCount", "recentRelatedSignalCount", "distinctActorCount"]

def flagFields : List String :=
  ["offPlatformMigrationFlag", "meetingAttemptFlag", "immediateDangerFlag", "coercionFlag",
    "threatFlag", "partnerAlreadyBlockedContact", "partnerAlreadyRestrictedAccount",
    "partnerWarningDisplayed", "partnerHumanReviewRequested"]

def contextKeys : List String := "conversationContextId" :: countFields ++ flagFields

def units (text : String) : Nat := (Text.codeUnits text.toList).length

/-- `typeof value === "object"`, without null. -/
def isObject : Json ℚ → Bool
  | .obj _ | .arr _ => true
  | _ => false

/-- `Object.keys`. -/
def objectKeys : Json ℚ → List String
  | .obj fields => fields.map Prod.fst
  | .arr items => (List.range items.length).map toString
  | _ => []

def isOneOf (allowed : List String) : Option (Json ℚ) → Bool
  | some (.str value) => allowed.contains value
  | _ => false

def isOpaqueChar (char : Char) : Bool :=
  ('A' ≤ char && char ≤ 'Z') || ('a' ≤ char && char ≤ 'z') || ('0' ≤ char && char ≤ '9') ||
    char == '.' || char == '_' || char == ':' || char == '-'

def isOpaqueId (max : Nat) : Option (Json ℚ) → Bool
  | some (.str value) =>
    decide (value ≠ "") && decide (units value ≤ max) && value.toList.all isOpaqueChar
  | _ => false

def isIso (parseDate : String → Option Int) : Option (Json ℚ) → Bool
  | some (.str value) => decide (units value ≤ 40) && (parseDate value).isSome
  | _ => false

def isShortText (max : Nat) : Option (Json ℚ) → Bool
  | some (.str value) => decide (units value ≤ max)
  | _ => false

def isCount : Option (Json ℚ) → Bool
  | some (.num value) => decide (value.den = 1) && decide (0 ≤ value) && decide (value ≤ maxCount)
  | _ => false

def isFlag : Option (Json ℚ) → Bool
  | some (.bool _) => true
  | _ => false

mutual

def containsProhibitedKey (toLowerCase : String → String) (depth : Nat) : Json ℚ → Option String
  | .obj fields => if 6 < depth then none else prohibitedInFields toLowerCase depth fields
  | .arr items => if 6 < depth then none else prohibitedInItems toLowerCase depth items
  | _ => none

def prohibitedInItems (toLowerCase : String → String) (depth : Nat) : List (Json ℚ) → Option String
  | [] => none
  | item :: rest =>
    (containsProhibitedKey toLowerCase (depth + 1) item).or
      (prohibitedInItems toLowerCase depth rest)

def prohibitedInFields (toLowerCase : String → String) (depth : Nat) :
    List (String × Json ℚ) → Option String
  | [] => none
  | (name, value) :: rest =>
    if prohibitedFieldKeys.contains (toLowerCase name) then some name
    else
      (containsProhibitedKey toLowerCase (depth + 1) value).or
        (prohibitedInFields toLowerCase depth rest)

end

def failed (passes : Bool) (code : String) : List String := if passes then [] else [code]

def failedIfGiven (value : Option (Json ℚ)) (passes : Option (Json ℚ) → Bool) (code : String) :
    List String := failed (value.isNone || passes value) code

def onlyKeys (object : Json ℚ) (allowed : List String) (label : String) : List String :=
  ((objectKeys object).filter fun key => !allowed.contains key).map fun key =>
    label ++ "_unknown_key:" ++ key

def signalErrors (signal : Json ℚ) : List String :=
  onlyKeys signal signalKeys "signal" ++
    failed (isOpaqueId maxIdLen (signal.field? "externalSignalId")) "bad_externalSignalId" ++
    failed (isOneOf partnerRiskTypes (signal.field? "signalType")) "bad_signalType" ++
    failed (isOneOf partnerConfidenceBands (signal.field? "confidenceBand"))
      "bad_confidenceBand" ++
    failedIfGiven (signal.field? "severityHint") (isOneOf partnerSeverityHints)
      "bad_severityHint" ++
    failedIfGiven (signal.field? "urgencyHint") (isOneOf partnerUrgencyHints) "bad_urgencyHint" ++
    failedIfGiven (signal.field? "riskFamily") (isShortText 32) "bad_riskFamily"

def classificationErrors (parseDate : String → Option Int) (classification : Json ℚ) : List String :=
  onlyKeys classification classificationKeys "classification" ++
    failed (isOneOf partnerClassifierTypes (classification.field? "classifierType"))
      "bad_classifierType" ++
    failed (isOneOf partnerClassificationMethods (classification.field? "classificationMethod"))
      "bad_classificationMethod" ++
    (["classifierVersion", "modelVersion", "ruleVersion"].flatMap fun field =>
      failedIfGiven (classification.field? field) (isShortText 64) ("bad_" ++ field)) ++
    failed (match classification.field? "classifierVersion" with
      | some (.str version) => decide (version ≠ "")
      | _ => false) "missing_classifierVersion" ++
    failed (isIso parseDate (classification.field? "evaluatedAt")) "bad_evaluatedAt"

def subjectErrors (subject : Json ℚ) : List String :=
  onlyKeys subject subjectKeys "subject" ++
    failed (isOpaqueId maxOpaqueLen (subject.field? "pseudonymousSubjectId"))
      "bad_pseudonymousSubjectId" ++
    failedIfGiven (subject.field? "pseudonymousActorId") (isOpaqueId maxOpaqueLen)
      "bad_pseudonymousActorId" ++
    failedIfGiven (subject.field? "ageBand") (isOneOf partnerAgeBands) "bad_ageBand"

def contextErrors (context : Json ℚ) : List String :=
  if isObject context then
    onlyKeys context contextKeys "context" ++
      failedIfGiven (context.field? "conversationContextId") (isOpaqueId maxOpaqueLen)
        "bad_conversationContextId" ++
      (countFields.flatMap fun field =>
        failedIfGiven (context.field? field) isCount ("bad_" ++ field)) ++
      (flagFields.flatMap fun field =>
        failedIfGiven (context.field? field) isFlag ("bad_" ++ field))
  else ["bad_context"]

def partErrors (part : Option (Json ℚ)) (missing : String) (errors : Json ℚ → List String) :
    List String :=
  match part with
  | some value => if isObject value then errors value else [missing]
  | none => [missing]

/-- The errors of an envelope, of which sixty are kept; it is valid if there is none. -/
def validateSignalEnvelope (toLowerCase : String → String) (parseDate : String → Option Int) :
    Json ℚ → List String
  | .obj fields =>
    let envelope := Json.obj fields
    (((containsProhibitedKey toLowerCase 0 envelope).toList.map ("prohibited_field:" ++ ·)) ++
      onlyKeys envelope topKeys "envelope" ++
      failed (isOneOf [childSafetySignalProtocol] (envelope.field? "protocol")) "bad_protocol" ++
      failed (isOneOf supportedProtocolVersions (envelope.field? "protocolVersion"))
        "unsupported_protocol_version" ++
      (["eventId", "idempotencyKey", "partnerId", "applicationId", "installationId",
          "nonce"].flatMap fun field =>
        failed (isOpaqueId maxIdLen (envelope.field? field)) ("bad_" ++ field)) ++
      failed (isIso parseDate (envelope.field? "occurredAt")) "bad_occurredAt" ++
      failed (isIso parseDate (envelope.field? "sentAt")) "bad_sentAt" ++
      partErrors (envelope.field? "signal") "missing_signal" signalErrors ++
      partErrors (envelope.field? "classification") "missing_classification"
        (classificationErrors parseDate) ++
      partErrors (envelope.field? "subject") "missing_subject" subjectErrors ++
      (((envelope.field? "context").map contextErrors).getD [])).take 60
  | _ => ["not_an_object"]

/-! The texts that are hashed and signed. -/

/-- A field of an object that is printed with sorted fields; `undefined` is printed as it is. -/
def printedField (printNumber : ℚ → String) (name : String) (value : Option (Json ℚ)) : String :=
  String.ofList (Json.quote name) ++ ":" ++ (value.map (Json.canonical printNumber)).getD "undefined"

/-- `canonicalRequestContent`, whose names stand in the order in which they are sorted. -/
def canonicalRequestContent (printNumber : ℚ → String) (envelope : Json ℚ) : String :=
  "\x7b" ++ ",".intercalate
    [printedField printNumber "classification" (envelope.field? "classification"),
      printedField printNumber "context" (some ((envelope.field? "context").getD .null)),
      printedField printNumber "eventId" (envelope.field? "eventId"),
      printedField printNumber "protocolVersion" (envelope.field? "protocolVersion"),
      printedField printNumber "signal" (envelope.field? "signal"),
      printedField printNumber "subject" (envelope.field? "subject")] ++ "\x7d"

structure SigningParts where
  method : String
  path : String
  protocolVersion : String
  applicationId : String
  installationId : String
  eventId : String
  idempotencyKey : String
  sentAt : String
  nonce : String
  bodyHashHex : String

def buildSigningString (toUpperCase : String → String) (parts : SigningParts) : String :=
  "\n".intercalate
    ["TAMANOR-CS-SIGNAL-V1", toUpperCase parts.method, parts.path, parts.protocolVersion,
      parts.applicationId, parts.installationId, parts.eventId, parts.idempotencyKey, parts.sentAt,
      parts.nonce, parts.bodyHashHex]

def mapPartnerRiskToCanonical (risk : String) : Option String :=
  if risk = "GROOMING" ∨ risk = "OFF_PLATFORM_MIGRATION" then some "GROOMING"
  else if risk = "SEXUAL_SOLICITATION" then some "SEXUAL_SOLICITATION"
  else if risk = "SEXTORTION" then some "SEXTORTION"
  else if risk = "MEETING_ATTEMPT" then some "MEETING_ATTEMPT"
  else if risk = "CYBERBULLYING" ∨ risk = "HARASSMENT" then some "CYBERBULLYING"
  else if risk = "THREAT" ∨ risk = "COERCION" then some "THREAT"
  else if risk = "IMPERSONATION" then some "IDENTITY_MANIPULATION"
  else none

def mapSeverity (severityHint : Option String) (confidenceBand : String) : String :=
  match severityHint with
  | some hint =>
    if partnerSeverityHints.contains hint then hint
    else if confidenceBand = "high" then "high"
    else if confidenceBand = "medium" then "medium" else "low"
  | none =>
    if confidenceBand = "high" then "high"
    else if confidenceBand = "medium" then "medium" else "low"

end Tamanor.Core
