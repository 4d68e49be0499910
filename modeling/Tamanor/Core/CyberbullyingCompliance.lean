import Tamanor.Library.CanonicalJson

/-! Compliance reports (`cyberbullying-compliance.ts` of the core package and the hash functions
of the db package): the canonical text of a report, its hash, and the verification of a report
and of a chain of them. The digest is SHA-256 in hexadecimal. -/

set_option autoImplicit false

namespace Tamanor.Core

open Library

def complianceSchemaVersion : String := "1.0.0"

def supportedComplianceSchemaVersions : List String := [complianceSchemaVersion]

def isSupportedComplianceSchema (schemaVersion : String) : Bool :=
  supportedComplianceSchemaVersions.contains schemaVersion

inductive ComplianceReportType where
  | caseSummary | evidencePackage
deriving DecidableEq

def ComplianceReportType.value : ComplianceReportType → String
  | .caseSummary => "cyberbullying_case_summary"
  | .evidencePackage => "cyberbullying_evidence_package"

inductive RedactionState where
  | unredactedInternal | redactionRequired | redacted
deriving DecidableEq

def RedactionState.value : RedactionState → String
  | .unredactedInternal => "unredacted_internal"
  | .redactionRequired => "redaction_required"
  | .redacted => "redacted"

inductive ComplianceVerificationStatus where
  | verified | invalid | unsupportedSchema | chainIncomplete
deriving DecidableEq

def ComplianceVerificationStatus.value : ComplianceVerificationStatus → String
  | .verified => "verified"
  | .invalid => "invalid"
  | .unsupportedSchema => "unsupported_schema"
  | .chainIncomplete => "chain_incomplete"

def isOwnField (name : String) : Bool := name != "__proto__"

def sortKeysDeep (value : JsonValue) : JsonValue := value.arrange isOwnField

def canonicalStringify (value : JsonValue) : Text := (sortKeysDeep value).print

def textOrNull : Option String → JsonValue
  | none => .null
  | some value => .str value

/-- A property that is undefined is left out. -/
def property (name : String) (value : Option JsonValue) : List (String × JsonValue) :=
  value.toList.map fun value => (name, value)

/-- Reading a property of what is undefined or null throws. -/
def readProperty (value : Option JsonValue) (name : String) : Option (Option JsonValue) :=
  match value with
  | none | some .null => none
  | some value => some (value.field? name)

/-- `buildComplianceHashInput`; it throws where a section is missing. -/
def buildComplianceHashInput (payload : JsonValue) (previousSnapshotHash : Option String) :
    Option JsonValue := do
  let metadata ← readProperty (some payload) "reportMetadata"
  let incident ← readProperty (some payload) "incident"
  let reportType ← readProperty metadata "reportType"
  let incidentId ← readProperty incident "incidentId"
  let version ← readProperty metadata "version"
  let schemaVersion ← readProperty metadata "schemaVersion"
  let generatedAt ← readProperty metadata "generatedAt"
  let sourceIncidentUpdatedAt ← readProperty metadata "sourceIncidentUpdatedAt"
  let typeText ← Json.displayField reportType
  let incidentText ← Json.displayField incidentId
  let versionText ← Json.displayField version
  return .obj ([("tenantSafeIdentity",
      .str (String.ofList (typeText ++ ':' :: (incidentText ++ ':' :: versionText))))] ++
    property "incidentId" incidentId ++ property "reportType" reportType ++
    property "version" version ++ property "schemaVersion" schemaVersion ++
    property "generatedAt" generatedAt ++
    property "sourceIncidentUpdatedAt" sourceIncidentUpdatedAt ++
    [("previousSnapshotHash", textOrNull previousSnapshotHash), ("snapshotPayload", payload)])

section

variable (digest : Text → String)

def computeComplianceHashHex (payload : JsonValue) (previousHash : Option String) : Option String :=
  (buildComplianceHashInput payload previousHash).map fun input =>
    digest (canonicalStringify input)

/-- It throws where the hash cannot be computed. -/
def verifyComplianceSnapshotPayload (payload : JsonValue) (storedHash : String)
    (previousHash : Option String) (schemaVersion : String) :
    Option ComplianceVerificationStatus :=
  if !isSupportedComplianceSchema schemaVersion then some .unsupportedSchema
  else
    (computeComplianceHashHex digest payload previousHash).map fun hash =>
      if hash = storedHash then .verified else .invalid

structure ComplianceChainRow where
  version : Nat
  schemaVersion : String
  snapshotHash : String
  previousSnapshotHash : Option String
  snapshotPayload : JsonValue

def verifyChainRows (prevHash : Option String) (expectVersion : Nat) :
    List ComplianceChainRow → Option ComplianceVerificationStatus
  | [] => some .verified
  | row :: rest =>
    if row.version ≠ expectVersion then some .chainIncomplete
    else if row.previousSnapshotHash ≠ prevHash then some .chainIncomplete
    else do
      let status ← verifyComplianceSnapshotPayload digest row.snapshotPayload row.snapshotHash
        row.previousSnapshotHash row.schemaVersion
      if status ≠ .verified then some status
      else verifyChainRows (some row.snapshotHash) (expectVersion + 1) rest

/-- The loop of `verifyComplianceReportChain` over the rows of one incident and type. -/
def verifyComplianceRows (rows : List ComplianceChainRow) : Option ComplianceVerificationStatus :=
  if rows.isEmpty then some .chainIncomplete else verifyChainRows digest none 1 rows

end

end Tamanor.Core
