import Mathlib.Data.List.MinMax
import Tamanor.Core.CyberbullyingRedaction
import Tamanor.Db.CyberbullyingCase
import Tamanor.Library.CivilDate

/-! Compliance reports, their redaction and their export within one tenant
(`cyberbullying-compliance.ts` and `cyberbullying-redaction.ts` of the db package), as calls whose
statements interleave. A report never changes, so that it is read where it is needed; the writes
of a transaction stand in its last statement. -/

set_option autoImplicit false

namespace Tamanor.Db

open Tamanor.Core Library

structure ComplianceSnapshot where
  incidentId : String
  reportType : ComplianceReportType
  version : Nat
  schemaVersion : String
  redactionState : RedactionState
  generatedByUserId : String
  snapshotHash : String
  previousSnapshotHash : Option String
  snapshotPayload : JsonValue
  idempotencyKey : Option String
  sourceReportId : Option String
  redactionDraftId : Option String
  redactionRuleSetHash : Option String
  approvedByUserId : Option String

structure RedactionDraft where
  incidentId : String
  sourceReportId : String
  status : RedactionDraftStatus
  revision : Nat
  createdByUserId : String
  submittedByUserId : Option String
  approvedByUserId : Option String
  producedReportId : Option String
  idempotencyKey : Option String
deriving DecidableEq

structure RedactionRule where
  draftId : String
  spec : RedactionRuleSpec
  createdByUserId : String

structure ExportAuthorization where
  incidentId : String
  reportId : String
  status : ExportAuthorizationStatus
  purposeCode : String
  recipientType : String
  requestedByUserId : String
  approvedByUserId : Option String
  requestedAt : Int
  approvedAt : Option Int
  expiresAt : Int
  idempotencyKey : Option String
deriving DecidableEq

structure ExportManifest where
  incidentId : String
  reportId : String
  authorizationId : String
  packageVersion : Nat
  schemaVersion : String
  purposeCode : String
  recipientType : String
  preparedByUserId : String
  preparedAt : Int
  reportSnapshotHash : String
  redactionRuleSetHash : Option String
  authorizationHash : String
  manifestHash : String
  previousManifestHash : Option String
  manifestPayload : JsonValue
  idempotencyKey : Option String

inductive DraftEvent where
  | ruleAdded (draftId actorUserId : String)
  | ruleRemoved (draftId actorUserId : String)
  | submitted (draftId actorUserId : String) (rules : List RedactionRuleSpec)
  | approved (draftId actorUserId reportId : String) (rules : List RedactionRuleSpec)
deriving DecidableEq

/-- The rows of one tenant; an incident that is none of the domain has no scope. -/
structure ComplianceDatabase where
  scopes : String → Option IncidentScope
  snapshots : Table String ComplianceSnapshot
  drafts : Table String RedactionDraft
  rules : Table String RedactionRule
  authorizations : Table String ExportAuthorization
  manifests : Table String ExportManifest
  history : List DraftEvent

structure RuleInput where
  fieldPath : String
  action : String
  reasonCode : String
  reasonNote : Option String
  replacementMarkerKey : Option String
  order : Option Int
deriving DecidableEq

inductive DraftOperation where
  | addRule (input : RuleInput)
  | removeRule (ruleId : String)
  | submit
  | cancel
  | reject (reasonCode : String)
  | approve
deriving DecidableEq

inductive AuthorizationOperation where
  | approve
  | reject (reasonCode : String)
  | cancel
  | prepare (idempotencyKey : Option String)
deriving DecidableEq

inductive ComplianceRequest where
  | createReport (actor : IncidentActorContext) (incidentId : String)
      (reportType : ComplianceReportType) (idempotencyKey : Option String)
  | createDraft (actor : IncidentActorContext) (sourceReportId : String)
      (idempotencyKey : Option String)
  | draft (actor : IncidentActorContext) (draftId : String) (operation : DraftOperation)
  | requestExport (actor : IncidentActorContext) (reportId purposeCode recipientType : String)
      (idempotencyKey : Option String)
  | authorization (actor : IncidentActorContext) (authorizationId : String)
      (operation : AuthorizationOperation)

/-- `crashed` is a section that is missing in a payload. -/
inductive ComplianceFailure where
  | forbidden | notFound | invalidStatus | invalidField | invalidAction | invalidReason
  | missingNote | selfApproval | unresolvedSensitive | sourceStale | reportNotRedacted
  | authorizationInvalid | expired | duplicateVersion | database | crashed
deriving DecidableEq

inductive ComplianceAnswer where
  | done (id : String)
  | replayed (id : String)
  | threw (error : ComplianceFailure)
deriving DecidableEq

inductive ComplianceStage where
  | checkingReport (actor : IncidentActorContext) (incidentId : String)
      (reportType : ComplianceReportType) (idempotencyKey : Option String)
  | allocatingReport (actor : IncidentActorContext) (incidentId : String)
      (reportType : ComplianceReportType) (idempotencyKey : Option String)
  | insertingReport (actor : IncidentActorContext) (incidentId : String)
      (reportType : ComplianceReportType) (idempotencyKey : Option String) (version : Nat)
      (previousHash : Option String)
  | checkingSource (actor : IncidentActorContext) (sourceReportId : String)
      (idempotencyKey : Option String)
  | insertingDraft (actor : IncidentActorContext) (incidentId sourceReportId : String)
      (idempotencyKey : Option String)
  | loadingDraft (actor : IncidentActorContext) (draftId : String) (operation : DraftOperation)
  | readingDraft (actor : IncidentActorContext) (draftId : String) (draft : RedactionDraft)
      (operation : DraftOperation)
  | insertingRule (actor : IncidentActorContext) (draftId : String) (spec : RedactionRuleSpec)
  | deletingRule (actor : IncidentActorContext) (draftId ruleId : String)
  | submitting (actor : IncidentActorContext) (draftId : String)
  | cancelling (draftId : String)
  | rejecting (draftId : String)
  | allocatingRedacted (actor : IncidentActorContext) (draftId : String)
      (draft : RedactionDraft) (rules : List RedactionRuleSpec)
  | insertingRedacted (actor : IncidentActorContext) (draftId : String)
      (draft : RedactionDraft) (rules : List RedactionRuleSpec) (version : Nat)
      (previousHash : Option String)
  | checkingExport (actor : IncidentActorContext) (reportId purposeCode recipientType : String)
      (idempotencyKey : Option String)
  | insertingAuthorization (actor : IncidentActorContext) (incidentId reportId purposeCode
      recipientType : String) (idempotencyKey : Option String)
  | loadingAuthorization (actor : IncidentActorContext) (authorizationId : String)
      (operation : AuthorizationOperation)
  | verifyingAuthorization (actor : IncidentActorContext) (authorizationId : String)
      (authorization : ExportAuthorization)
  | updatingAuthorization (actor : IncidentActorContext) (authorizationId : String)
      (authorization : ExportAuthorization) (target : ExportAuthorizationStatus)
  | allocatingManifest (actor : IncidentActorContext) (authorizationId : String)
      (authorization : ExportAuthorization) (idempotencyKey : Option String)
  | insertingManifest (actor : IncidentActorContext) (authorizationId : String)
      (authorization : ExportAuthorization) (idempotencyKey : Option String)
      (packageVersion : Nat) (previousManifestHash : Option String)
  | ended (answer : ComplianceAnswer)
  | dead
deriving DecidableEq

/-- A section of a payload: its numbers are finite, and its names differ. -/
def CleanJson : Type := { value : JsonValue // value.finite = true ∧ value.distinct }

theorem null_isClean : Json.null.finite = true ∧ (Json.null : JsonValue).distinct := ⟨rfl, trivial⟩

/-- What the builder of a report finds in the other tables. -/
structure ReportSections where
  sourceIncidentUpdatedAt : String
  status : String
  severity : String
  category : String
  reportSource : Option String
  createdAt : String
  resolvedAt : Option String
  evidenceHashCoverage : Nat
  evidenceIntegrityVerified : Nat
  evidenceIntegrityFailed : Nat
  protectedSubject : CleanJson
  assignments : CleanJson
  detections : CleanJson
  evidenceInventory : CleanJson
  custodySummary : CleanJson
  chronology : CleanJson
  caseManagement : CleanJson
  slaAndEscalation : CleanJson
  omissions : CleanJson

/-- What a statement draws and meets: an id, the time, and the sections of a report. -/
structure ComplianceDraw where
  id : String
  now : Int
  sections : ReportSections

/-- A statement runs, throws, or its process dies before it. -/
inductive ComplianceChoice where
  | runs (draw : ComplianceDraw)
  | throws
  | dies

/-- What happens beside the calls: the participants and the assignee of an incident change. -/
inductive ComplianceEvent where
  | scope (incidentId : String) (scope : Option IncidentScope)

def givenKey (idempotencyKey : Option String) : Option String := idempotencyKey.filter (· ≠ "")

def draftPermission : DraftOperation → CyberbullyingPermission
  | .reject _ | .approve => .complianceApprove
  | _ => .complianceRedact

def mayExport (role : MembershipRole) : Bool := canCyberbullying role .complianceExportAuthorize

/-- Cancelling an authorization, and asking for one, is also up to those who redact. -/
def mayRequestExport (role : MembershipRole) : Bool :=
  mayExport role || canCyberbullying role .complianceRedact

def enterCompliance (_ : ComplianceDatabase) : ComplianceRequest → ComplianceStage
  | .createReport actor incidentId reportType key =>
    if canCyberbullying actor.role .review then
      .checkingReport actor incidentId reportType (givenKey key)
    else .ended (.threw .forbidden)
  | .createDraft actor sourceReportId key =>
    if canCyberbullying actor.role .complianceRedact then
      .checkingSource actor sourceReportId (givenKey key)
    else .ended (.threw .forbidden)
  | .draft actor draftId operation =>
    if !canCyberbullying actor.role (draftPermission operation) then
      .ended (.threw .forbidden)
    else
      match operation with
      | .reject reasonCode =>
        if redactionRejectionReasons.contains reasonCode then
          .loadingDraft actor draftId operation
        else .ended (.threw .invalidReason)
      | _ => .loadingDraft actor draftId operation
  | .requestExport actor reportId purposeCode recipientType key =>
    if !mayRequestExport actor.role then .ended (.threw .forbidden)
    else if !exportPurposes.contains purposeCode || !recipientTypes.contains recipientType then
      .ended (.threw .invalidReason)
    else .checkingExport actor reportId purposeCode recipientType (givenKey key)
  | .authorization actor authorizationId operation =>
    let allowed :=
      match operation with
      | .cancel => mayRequestExport actor.role
      | _ => mayExport actor.role
    if allowed then .loadingAuthorization actor authorizationId operation
    else .ended (.threw .forbidden)

/-- The payload of a new report, `buildCyberbullyingComplianceSnapshot`. -/
def ReportSections.payload (sections : ReportSections) (actor : IncidentActorContext)
    (incidentId : String) (reportType : ComplianceReportType) (version : Nat)
    (previousHash : Option String) (now : Int) : JsonValue :=
  .obj [
    ("reportMetadata", .obj [
      ("reportType", .str reportType.value), ("schemaVersion", .str complianceSchemaVersion),
      ("version", .num (.ofNat version)), ("generatedAt", .str (toISOString now)),
      ("generatedByUserId", .str actor.userId), ("tenantTimezone", .str "UTC"),
      ("sourceIncidentUpdatedAt", .str sections.sourceIncidentUpdatedAt),
      ("sourceSystems", .arr [.str "tamanor-cyberbullying"])]),
    ("incident", .obj [
      ("incidentId", .str incidentId), ("domain", .str "cyberbullying"),
      ("status", .str sections.status), ("severity", .str sections.severity),
      ("category", .str sections.category), ("reportSource", textOrNull sections.reportSource),
      ("createdAt", .str sections.createdAt), ("resolvedAt", textOrNull sections.resolvedAt)]),
    ("protectedSubject", sections.protectedSubject.val),
    ("assignments", sections.assignments.val),
    ("detections", sections.detections.val),
    ("evidenceInventory", sections.evidenceInventory.val),
    ("custodySummary", sections.custodySummary.val),
    ("chronology", sections.chronology.val),
    ("caseManagement", sections.caseManagement.val),
    ("slaAndEscalation", sections.slaAndEscalation.val),
    ("integrity", .obj [
      ("previousSnapshotHash", textOrNull previousHash), ("hashAlgorithm", .str "sha256"),
      ("canonicalizationVersion", .str "canonical-json-v1"),
      ("schemaVersion", .str complianceSchemaVersion),
      ("evidenceHashCoverage", .num (.ofNat sections.evidenceHashCoverage)),
      ("evidenceIntegrityVerified", .num (.ofNat sections.evidenceIntegrityVerified)),
      ("evidenceIntegrityFailed", .num (.ofNat sections.evidenceIntegrityFailed))]),
    ("omissions", sections.omissions.val)]

def redactedPayload (source : JsonValue) (rules : List RedactionRuleSpec) (version : Nat)
    (previousHash : Option String) : Option JsonValue := do
  let numbered ← assignIn "reportMetadata" "version" (.num (.ofNat version))
    (applyComplianceRedactions source rules)
  assignIn "integrity" "previousSnapshotHash" (textOrNull previousHash) numbered

def packageId (incidentId reportId : String) (packageVersion : Nat) : String :=
  "pkg:" ++ incidentId ++ ":" ++ reportId ++ ":" ++ toString packageVersion

def includedSections : List String :=
  ["reportMetadata", "incident", "protectedSubject", "assignments", "detections",
    "evidenceInventory", "custodySummary", "chronology", "caseManagement", "slaAndEscalation",
    "integrity", "omissions"]

/-- The length of a section; a section that is missing throws, and one that is no array or text
has none. -/
def sectionLength (payload : JsonValue) (name : String) : Option (Option JsonValue) :=
  match payload.field? name with
  | none | some .null => none
  | some (.arr items) => some (some (.num (.ofNat items.length)))
  | some (.str value) => some (some (.num (.ofNat (Text.codeUnits value.toList).length)))
  | some value => some (value.field? "length")

/-- The payload of a manifest; it throws where a section of the report is missing. -/
def manifestPayload (actor : IncidentActorContext) (authorizationId : String)
    (authorization : ExportAuthorization) (report : ComplianceSnapshot) (packageVersion : Nat)
    (preparedAt : Int) : Option JsonValue := do
  let evidenceItems ← sectionLength report.snapshotPayload "evidenceInventory"
  let custodyEvents ← sectionLength report.snapshotPayload "custodySummary"
  let chronologyEvents ← sectionLength report.snapshotPayload "chronology"
  let integrity ← readProperty (some report.snapshotPayload) "integrity"
  let coverage ← readProperty integrity "evidenceHashCoverage"
  let verified ← readProperty integrity "evidenceIntegrityVerified"
  let failed ← readProperty integrity "evidenceIntegrityFailed"
  return .obj ([
    ("packageId", .str (packageId authorization.incidentId authorization.reportId packageVersion)),
    ("packageVersion", .num (.ofNat packageVersion)),
    ("schemaVersion", .str complianceSchemaVersion),
    ("sourceReportId", .str authorization.reportId),
    ("sourceReportHash", .str report.snapshotHash),
    ("redactionState", .str report.redactionState.value),
    ("redactionRuleSetHash", textOrNull report.redactionRuleSetHash),
    ("authorizationId", .str authorizationId),
    ("authorizationPurpose", .str authorization.purposeCode),
    ("recipientType", .str authorization.recipientType),
    ("authorizationExpiry", .str (toISOString authorization.expiresAt)),
    ("preparedAt", .str (toISOString preparedAt)),
    ("preparedByUserId", .str actor.userId),
    ("reportSchemaVersion", .str report.schemaVersion),
    ("includedSections", .arr (includedSections.map .str)),
    ("excludedSections", .arr [])] ++
    property "evidenceItemCount" evidenceItems ++ property "custodyEventCount" custodyEvents ++
    property "chronologyEventCount" chronologyEvents ++
    [("integritySummary", .obj (property "evidenceHashCoverage" coverage ++
        property "evidenceIntegrityVerified" verified ++
        property "evidenceIntegrityFailed" failed)),
      ("verificationResult", .str ComplianceVerificationStatus.verified.value)])

def ExportAuthorization.facts (authorization : ExportAuthorization) (authorizationId reportHash :
    String) : AuthorizationFacts where
  authorizationId := authorizationId
  reportId := authorization.reportId
  reportHash := reportHash
  purposeCode := authorization.purposeCode
  recipientType := authorization.recipientType
  requestedByUserId := authorization.requestedByUserId
  approvedByUserId := authorization.approvedByUserId
  requestedAt := toISOString authorization.requestedAt
  approvedAt := authorization.approvedAt.map toISOString
  expiresAt := toISOString authorization.expiresAt
  status := authorization.status.value

namespace ComplianceDatabase

variable (digest : Text → String) (state : ComplianceDatabase) (actor : IncidentActorContext)

/-- `assertIncidentScope`. -/
def scopeFailure (incidentId : String) : Option ComplianceFailure :=
  match state.scopes incidentId with
  | none => some .notFound
  | some scope =>
    if actor.role = .owner ∨ actor.role = .admin then none
    else if scope.participants.contains actor.userId || scope.assignee == some actor.userId then
      none
    else some .forbidden

def ofChain (incidentId : String) (reportType : ComplianceReportType)
    (snapshot : ComplianceSnapshot) : Bool :=
  snapshot.incidentId == incidentId && snapshot.reportType == reportType

def chainSnapshots (incidentId : String) (reportType : ComplianceReportType) :
    List ComplianceSnapshot :=
  (state.snapshots.rows.map Prod.snd).filter (ofChain incidentId reportType)

/-- `orderBy: { version: "desc" }`. -/
def lastSnapshot (incidentId : String) (reportType : ComplianceReportType) :
    Option ComplianceSnapshot :=
  (state.chainSnapshots incidentId reportType).argmax (·.version)

def nextVersion (incidentId : String) (reportType : ComplianceReportType) : Nat × Option String :=
  match state.lastSnapshot incidentId reportType with
  | none => (1, none)
  | some last => (last.version + 1, some last.snapshotHash)

def packageManifests (incidentId reportId : String) : List ExportManifest :=
  (state.manifests.rows.map Prod.snd).filter fun manifest =>
    manifest.incidentId == incidentId && manifest.reportId == reportId

def nextPackage (incidentId reportId : String) : Nat × Option String :=
  match (state.packageManifests incidentId reportId).argmax (·.packageVersion) with
  | none => (1, none)
  | some last => (last.packageVersion + 1, some last.manifestHash)

variable (draftId : String)

/-- `loadRuleSpecs`. -/
def ruleSpecs : List RedactionRuleSpec :=
  inOrder (((state.rules.rows.map Prod.snd).filter fun rule =>
    rule.draftId == draftId).map (·.spec))

def verifiesReport (report : ComplianceSnapshot) : Option ComplianceVerificationStatus :=
  verifyComplianceSnapshotPayload digest report.snapshotPayload report.snapshotHash
    report.previousSnapshotHash report.schemaVersion

def checkingReportStage (incidentId : String) (reportType : ComplianceReportType)
    (key : Option String) : ComplianceStage :=
  match state.scopeFailure actor incidentId with
  | some failure => .ended (.threw failure)
  | none =>
    match state.snapshots.rows.find? fun row =>
        key.isSome && row.2.idempotencyKey == key && row.2.generatedByUserId == actor.userId &&
          ofChain incidentId reportType row.2 with
    | some (id, _) => .ended (.replayed id)
    | none => .allocatingReport actor incidentId reportType key

def refusesSnapshot (snapshot : ComplianceSnapshot) : Bool :=
  (state.snapshots.rows.map Prod.snd).any fun other =>
    ofChain snapshot.incidentId snapshot.reportType other &&
      (other.version == snapshot.version ||
        (snapshot.idempotencyKey.isSome && other.idempotencyKey == snapshot.idempotencyKey &&
          other.generatedByUserId == snapshot.generatedByUserId))

def insertReport (incidentId : String) (reportType : ComplianceReportType) (key : Option String)
    (version : Nat) (previousHash : Option String) (draw : ComplianceDraw) :
    ComplianceDatabase × ComplianceStage :=
  let payload :=
    draw.sections.payload actor incidentId reportType version previousHash draw.now
  match computeComplianceHashHex digest payload previousHash with
  | none => (state, .ended (.threw .crashed))
  | some snapshotHash =>
    let snapshot : ComplianceSnapshot :=
      ⟨incidentId, reportType, version, complianceSchemaVersion, .unredactedInternal,
        actor.userId, snapshotHash, previousHash, payload.column, key, none, none, none, none⟩
    if state.refusesSnapshot snapshot then (state, .ended (.threw .duplicateVersion))
    else if (state.snapshots.find? draw.id).isSome then (state, .ended (.threw .database))
    else
      ({ state with snapshots := state.snapshots.insert draw.id snapshot },
        .ended (.done draw.id))

def checkingSourceStage (sourceReportId : String) (key : Option String) : ComplianceStage :=
  match state.snapshots.find? sourceReportId with
  | none => .ended (.threw .notFound)
  | some report =>
    match state.scopeFailure actor report.incidentId with
    | some failure => .ended (.threw failure)
    | none =>
      if report.redactionState = .redacted then .ended (.threw .reportNotRedacted)
      else
        match state.drafts.rows.find? fun row =>
            key.isSome && row.2.idempotencyKey == key &&
              row.2.createdByUserId == actor.userId &&
              row.2.sourceReportId == sourceReportId with
        | some (id, _) => .ended (.replayed id)
        | none => .insertingDraft actor report.incidentId sourceReportId key

def insertDraft (incidentId sourceReportId : String) (key : Option String) (id : String) :
    ComplianceDatabase × ComplianceStage :=
  if (state.drafts.rows.map Prod.snd).any fun other =>
      key.isSome && other.idempotencyKey == key && other.createdByUserId == actor.userId &&
        other.sourceReportId == sourceReportId then
    (state, .ended (.threw .database))
  else if (state.drafts.find? id).isSome then (state, .ended (.threw .database))
  else
    ({ state with
        drafts := state.drafts.insert id
          ⟨incidentId, sourceReportId, .draft, 1, actor.userId, none, none, none, key⟩ },
      .ended (.done id))

variable (draft : RedactionDraft)

def draftFailure : DraftOperation → Option ComplianceFailure
  | .addRule _ | .removeRule _ | .submit =>
    if draft.status ≠ .draft then some .invalidStatus else none
  | .cancel =>
    if draft.status = .approved ∨ draft.status = .cancelled then some .invalidStatus else none
  | .reject _ | .approve =>
    if draft.status ≠ .submitted then some .invalidStatus
    else if draft.createdByUserId = actor.userId ∨
        draft.submittedByUserId = some actor.userId then some .selfApproval
    else none

def replayOf : DraftOperation → Option String
  | .approve => if draft.status = .approved then draft.producedReportId else none
  | _ => none

def loadingDraftStage (operation : DraftOperation) : ComplianceStage :=
  match state.drafts.find? draftId with
  | none => .ended (.threw .notFound)
  | some draft =>
    match state.scopeFailure actor draft.incidentId with
    | some failure => .ended (.threw failure)
    | none =>
      match replayOf draft operation with
      | some produced => .ended (.replayed produced)
      | none =>
        match draftFailure actor draft operation with
        | some failure => .ended (.threw failure)
        | none =>
          match operation with
          | .cancel => .cancelling draftId
          | .reject _ => .rejecting draftId
          | _ => .readingDraft actor draftId draft operation

def ruleFailure : RedactionRuleError → ComplianceFailure
  | .unknownField => .invalidField
  | .actionNotAllowed | .requiredFieldRemove => .invalidAction
  | .missingNote => .missingNote
  | .invalidReason => .invalidReason

def addRuleStage (input : RuleInput) : ComplianceStage :=
  match state.snapshots.find? draft.sourceReportId with
  | none => .ended (.threw .notFound)
  | some report =>
    match validateRedactionRule input.fieldPath input.action input.reasonCode input.reasonNote
        report.reportType report.schemaVersion with
    | some error => .ended (.threw (ruleFailure error))
    | none =>
      .insertingRule actor draftId
        ⟨input.fieldPath, input.action, input.reasonCode,
          input.replacementMarkerKey.filter (· ≠ ""),
          input.order.getD (state.ruleSpecs draftId).length⟩

def removeRuleStage (draftId ruleId : String) : ComplianceStage :=
  match state.rules.find? ruleId with
  | none => .ended (.threw .notFound)
  | some rule =>
    if rule.draftId = draftId then .deletingRule actor draftId ruleId
    else .ended (.threw .notFound)

def submitStage : ComplianceStage :=
  match state.snapshots.find? draft.sourceReportId with
  | none => .ended (.threw .notFound)
  | some report =>
    if unresolvedHighlySensitive report.snapshotPayload
        ((state.ruleSpecs draftId).map (·.fieldPath)) ≠ [] then
      .ended (.threw .unresolvedSensitive)
    else .submitting actor draftId

def approveStage : ComplianceStage :=
  match state.snapshots.find? draft.sourceReportId with
  | none => .ended (.threw .notFound)
  | some report =>
    match verifiesReport digest report with
    | none => .ended (.threw .crashed)
    | some status =>
      let rules := state.ruleSpecs draftId
      if status ≠ .verified then .ended (.threw .sourceStale)
      else if rules.any fun rule =>
          (validateRedactionRule rule.fieldPath rule.action rule.reasonCode none
            report.reportType report.schemaVersion).isSome then
        .ended (.threw .invalidField)
      else if unresolvedHighlySensitive report.snapshotPayload (rules.map (·.fieldPath)) ≠ []
          then .ended (.threw .unresolvedSensitive)
      else .allocatingRedacted actor draftId draft rules

def readingDraftStage : DraftOperation → ComplianceStage
  | .addRule input => state.addRuleStage actor draftId draft input
  | .removeRule ruleId => state.removeRuleStage actor draftId ruleId
  | .submit => state.submitStage actor draftId draft
  | .cancel => .cancelling draftId
  | .reject _ => .rejecting draftId
  | .approve => state.approveStage digest actor draftId draft

def insertRule (spec : RedactionRuleSpec) (id : String) : ComplianceDatabase × ComplianceStage :=
  if (state.rules.find? id).isSome then (state, .ended (.threw .database))
  else
    ({ state with
        rules := state.rules.insert id ⟨draftId, spec, actor.userId⟩
        history := state.history ++ [.ruleAdded draftId actor.userId] },
      .ended (.done id))

/-- Deleting a rule that is gone throws. -/
def deleteRule (draftId ruleId : String) : ComplianceDatabase × ComplianceStage :=
  if (state.rules.find? ruleId).isNone then (state, .ended (.threw .database))
  else
    ({ state with
        rules := state.rules.deleteWhere fun id _ => id == ruleId
        history := state.history ++ [.ruleRemoved draftId actor.userId] },
      .ended (.done ruleId))

def updateDraft (change : RedactionDraft → RedactionDraft) (events : List DraftEvent) :
    ComplianceDatabase × ComplianceStage :=
  ({ state with
      drafts := state.drafts.modify draftId change
      history := state.history ++ events },
    .ended (.done draftId))

def submitDraft : ComplianceDatabase × ComplianceStage :=
  state.updateDraft draftId
    (fun draft => { draft with status := .submitted, submittedByUserId := some actor.userId })
    [.submitted draftId actor.userId (state.ruleSpecs draftId)]

def allocatingRedactedStage (rules : List RedactionRuleSpec) :
    ComplianceStage :=
  match state.snapshots.find? draft.sourceReportId with
  | none => .ended (.threw .notFound)
  | some report =>
    let next := state.nextVersion report.incidentId report.reportType
    .insertingRedacted actor draftId draft rules next.1 next.2

def insertRedacted (rules : List RedactionRuleSpec) (version : Nat) (previousHash : Option String)
    (id : String) :
    ComplianceDatabase × ComplianceStage :=
  match state.snapshots.find? draft.sourceReportId with
  | none => (state, .ended (.threw .notFound))
  | some report =>
    match redactedPayload report.snapshotPayload rules version previousHash with
    | none => (state, .ended (.threw .crashed))
    | some payload =>
      match computeComplianceHashHex digest payload previousHash with
      | none => (state, .ended (.threw .crashed))
      | some snapshotHash =>
        let ruleSetHash := digest (canonicalStringify (buildRedactionRuleSetHashInput
          draft.sourceReportId report.snapshotHash draft.revision rules))
        let snapshot : ComplianceSnapshot :=
          ⟨report.incidentId, report.reportType, version, complianceSchemaVersion,
            .redacted, actor.userId, snapshotHash, previousHash, payload.column, none,
            some draft.sourceReportId, some draftId, some ruleSetHash, some actor.userId⟩
        if state.refusesSnapshot snapshot || (state.snapshots.find? id).isSome then
          (state, .ended (.threw .database))
        else
          ({ state with
              snapshots := state.snapshots.insert id snapshot
              drafts := state.drafts.modify draftId fun row =>
                { row with
                  status := .approved
                  approvedByUserId := some actor.userId
                  producedReportId := some id }
              history := state.history ++ [.approved draftId actor.userId id rules] },
            .ended (.done id))

def checkingExportStage (reportId purposeCode recipientType : String) (key : Option String) :
    ComplianceStage :=
  match state.snapshots.find? reportId with
  | none => .ended (.threw .notFound)
  | some report =>
    match state.scopeFailure actor report.incidentId with
    | some failure => .ended (.threw failure)
    | none =>
      if report.redactionState ≠ .redacted then .ended (.threw .reportNotRedacted)
      else
        match state.authorizations.rows.find? fun row =>
            key.isSome && row.2.idempotencyKey == key &&
              row.2.requestedByUserId == actor.userId && row.2.reportId == reportId with
        | some (id, _) => .ended (.replayed id)
        | none =>
          .insertingAuthorization actor report.incidentId reportId purposeCode
            recipientType key

def insertAuthorization (incidentId reportId purposeCode recipientType : String)
    (key : Option String) (draw : ComplianceDraw) : ComplianceDatabase × ComplianceStage :=
  if (state.authorizations.rows.map Prod.snd).any fun other =>
      key.isSome && other.idempotencyKey == key && other.requestedByUserId == actor.userId &&
        other.reportId == reportId then
    (state, .ended (.threw .database))
  else if (state.authorizations.find? draw.id).isSome then (state, .ended (.threw .database))
  else
    ({ state with
        authorizations := state.authorizations.insert draw.id
          ⟨incidentId, reportId, .requested, purposeCode, recipientType, actor.userId, none,
            draw.now, none, draw.now + exportAuthorizationTtlHours * 3600000, key⟩ },
      .ended (.done draw.id))

/-- The check of an authorization's status, of the user who has asked for it, and of the time. -/
def authorizationFailure (authorization : ExportAuthorization) (now : Int) :
    AuthorizationOperation → Option ComplianceFailure
  | .approve =>
    if authorization.status ≠ .requested then some .invalidStatus
    else if authorization.requestedByUserId = actor.userId then some .selfApproval
    else if authorization.expiresAt ≤ now then some .expired
    else none
  | .reject _ =>
    if authorization.status ≠ .requested then some .invalidStatus
    else if authorization.requestedByUserId = actor.userId then some .selfApproval
    else none
  | .cancel =>
    if authorization.status ≠ .requested ∧ authorization.status ≠ .approved then
      some .invalidStatus
    else none
  | .prepare _ =>
    if authorization.status ≠ .approved then some .authorizationInvalid
    else if authorization.expiresAt ≤ now then some .expired
    else none

variable (authorizationId : String)

def loadingAuthorizationStage (operation : AuthorizationOperation) (now : Int) : ComplianceStage :=
  match state.authorizations.find? authorizationId with
  | none => .ended (.threw .notFound)
  | some authorization =>
    match state.scopeFailure actor authorization.incidentId with
    | some failure => .ended (.threw failure)
    | none =>
      match authorizationFailure actor authorization now operation with
      | some failure => .ended (.threw failure)
      | none =>
        match operation with
        | .approve => .verifyingAuthorization actor authorizationId authorization
        | .reject _ => .updatingAuthorization actor authorizationId authorization .rejected
        | .cancel => .updatingAuthorization actor authorizationId authorization .cancelled
        | .prepare key =>
          .allocatingManifest actor authorizationId authorization (givenKey key)

def reportFailure (report : ComplianceSnapshot) : Option ComplianceFailure :=
  if report.redactionState ≠ .redacted then some .reportNotRedacted
  else
    match verifiesReport digest report with
    | none => some .crashed
    | some status => if status ≠ .verified then some .authorizationInvalid else none

def verifyingAuthorizationStage (authorization : ExportAuthorization) : ComplianceStage :=
  match state.snapshots.find? authorization.reportId with
  | none => .ended (.threw .notFound)
  | some report =>
    match reportFailure digest report with
    | some failure => .ended (.threw failure)
    | none => .updatingAuthorization actor authorizationId authorization .approved

def updateAuthorization (target : ExportAuthorizationStatus) (now : Int) :
    ComplianceDatabase × ComplianceStage :=
  ({ state with
      authorizations := state.authorizations.modify authorizationId fun row =>
        if target = .approved then
          { row with
            status := target
            approvedByUserId := some actor.userId
            approvedAt := some now }
        else { row with status := target } },
    .ended (.done authorizationId))

def allocatingManifestStage (authorization : ExportAuthorization) (key : Option String) :
    ComplianceStage :=
  match state.manifests.rows.find? fun row =>
      key.isSome && row.2.idempotencyKey == key && row.2.preparedByUserId == actor.userId &&
        row.2.authorizationId == authorizationId with
  | some (id, _) => .ended (.replayed id)
  | none =>
    match state.snapshots.find? authorization.reportId with
    | none => .ended (.threw .notFound)
    | some report =>
      match reportFailure digest report with
      | some failure => .ended (.threw failure)
      | none =>
        let next := state.nextPackage authorization.incidentId authorization.reportId
        .insertingManifest actor authorizationId authorization key next.1 next.2

end ComplianceDatabase

def exportManifest (digest : Text → String) (actor : IncidentActorContext)
    (authorizationId : String) (authorization : ExportAuthorization)
    (report : ComplianceSnapshot) (key : Option String) (packageVersion : Nat)
    (previousManifestHash : Option String) (preparedAt : Int) : Option ExportManifest :=
  (manifestPayload actor authorizationId authorization report packageVersion preparedAt).map
    fun payload =>
      let authorizationHash := digest (canonicalStringify (buildAuthorizationHashInput
        (authorization.facts authorizationId report.snapshotHash)))
      let manifestHash := digest (canonicalStringify (buildManifestHashInput
        ⟨some (.str (packageId authorization.incidentId authorization.reportId packageVersion)),
          report.snapshotHash, authorizationHash, report.redactionRuleSetHash,
          authorization.purposeCode, authorization.recipientType,
          toISOString preparedAt, packageVersion, previousManifestHash, payload⟩))
      ⟨authorization.incidentId, authorization.reportId, authorizationId, packageVersion,
        complianceSchemaVersion, authorization.purposeCode, authorization.recipientType,
        actor.userId, preparedAt, report.snapshotHash, report.redactionRuleSetHash,
        authorizationHash, manifestHash, previousManifestHash, payload.column, key⟩

namespace ComplianceDatabase

variable (digest : Text → String) (state : ComplianceDatabase)

def refusesManifest (manifest : ExportManifest) : Bool :=
  (state.manifests.rows.map Prod.snd).any fun other =>
    (other.incidentId == manifest.incidentId && other.reportId == manifest.reportId &&
        other.packageVersion == manifest.packageVersion) ||
      (manifest.idempotencyKey.isSome && other.idempotencyKey == manifest.idempotencyKey &&
        other.preparedByUserId == manifest.preparedByUserId &&
        other.authorizationId == manifest.authorizationId)

variable (actor : IncidentActorContext)

def insertManifest (authorizationId : String) (authorization : ExportAuthorization)
    (key : Option String) (packageVersion : Nat) (previousManifestHash : Option String)
    (draw : ComplianceDraw) :
    ComplianceDatabase × ComplianceStage :=
  match state.snapshots.find? authorization.reportId with
  | none => (state, .ended (.threw .notFound))
  | some report =>
    match exportManifest digest actor authorizationId authorization report key packageVersion
        previousManifestHash draw.now with
    | none => (state, .ended (.threw .crashed))
    | some manifest =>
      if state.refusesManifest manifest || (state.manifests.find? draw.id).isSome then
        (state, .ended (.threw .database))
      else
        ({ state with manifests := state.manifests.insert draw.id manifest },
          .ended (.done draw.id))

/-- `verifyComplianceExportPackageManifest`, for an actor who may. It takes the hash of the report
from its row, and its own hashes from the manifest. -/
def verifyManifest (manifestId : String) : Except ComplianceFailure ComplianceVerificationStatus :=
  if !mayRequestExport actor.role then .error .forbidden
  else
    match state.manifests.find? manifestId with
    | none => .error .notFound
    | some manifest =>
      match state.scopeFailure actor manifest.incidentId with
      | some failure => .error failure
      | none =>
        if manifest.schemaVersion ≠ complianceSchemaVersion then .ok .unsupportedSchema
        else
          match state.snapshots.find? manifest.reportId with
          | none => .ok .invalid
          | some report =>
            if report.snapshotHash ≠ manifest.reportSnapshotHash then .ok .invalid
            else
              match readProperty (some manifest.manifestPayload) "packageId" with
              | none => .error .crashed
              | some identity =>
                if digest (canonicalStringify (buildManifestHashInput
                    ⟨identity, manifest.reportSnapshotHash, manifest.authorizationHash,
                      manifest.redactionRuleSetHash, manifest.purposeCode,
                      manifest.recipientType, toISOString manifest.preparedAt,
                      manifest.packageVersion, manifest.previousManifestHash,
                      manifest.manifestPayload⟩)) = manifest.manifestHash then
                  .ok .verified
                else .ok .invalid

def ofSnapshot (snapshot : ComplianceSnapshot) : ComplianceChainRow :=
  ⟨snapshot.version, snapshot.schemaVersion, snapshot.snapshotHash,
    snapshot.previousSnapshotHash, snapshot.snapshotPayload⟩

/-- `orderBy: { version: "asc" }`. -/
def chainRows (incidentId : String) (reportType : ComplianceReportType) : List ComplianceChainRow :=
  ((state.chainSnapshots incidentId reportType).insertionSort fun first second =>
    first.version ≤ second.version).map ofSnapshot

/-- `verifyComplianceReportChain`, for an actor who may review. -/
def verifyReportChain (incidentId : String) (reportType : ComplianceReportType) :
    Except ComplianceFailure ComplianceVerificationStatus :=
  if !canCyberbullying actor.role .review then .error .forbidden
  else
    match verifyComplianceRows digest (state.chainRows incidentId reportType) with
    | none => .error .crashed
    | some status => .ok status

def statement (draw : ComplianceDraw) : ComplianceStage → ComplianceDatabase × ComplianceStage
  | .checkingReport actor incidentId reportType key =>
    (state, state.checkingReportStage actor incidentId reportType key)
  | .allocatingReport actor incidentId reportType key =>
    let next := state.nextVersion incidentId reportType
    (state, .insertingReport actor incidentId reportType key next.1 next.2)
  | .insertingReport actor incidentId reportType key version previousHash =>
    state.insertReport digest actor incidentId reportType key version previousHash draw
  | .checkingSource actor sourceReportId key =>
    (state, state.checkingSourceStage actor sourceReportId key)
  | .insertingDraft actor incidentId sourceReportId key =>
    state.insertDraft actor incidentId sourceReportId key draw.id
  | .loadingDraft actor draftId operation =>
    (state, state.loadingDraftStage actor draftId operation)
  | .readingDraft actor draftId draft operation =>
    (state, state.readingDraftStage digest actor draftId draft operation)
  | .insertingRule actor draftId spec => state.insertRule actor draftId spec draw.id
  | .deletingRule actor draftId ruleId => state.deleteRule actor draftId ruleId
  | .submitting actor draftId => state.submitDraft actor draftId
  | .cancelling draftId =>
    state.updateDraft draftId (fun draft => { draft with status := .cancelled }) []
  | .rejecting draftId =>
    state.updateDraft draftId (fun draft => { draft with status := .rejected }) []
  | .allocatingRedacted actor draftId draft rules =>
    (state, state.allocatingRedactedStage actor draftId draft rules)
  | .insertingRedacted actor draftId draft rules version previousHash =>
    state.insertRedacted digest actor draftId draft rules version previousHash draw.id
  | .checkingExport actor reportId purposeCode recipientType key =>
    (state, state.checkingExportStage actor reportId purposeCode recipientType key)
  | .insertingAuthorization actor incidentId reportId purposeCode recipientType key =>
    state.insertAuthorization actor incidentId reportId purposeCode recipientType key draw
  | .loadingAuthorization actor authorizationId operation =>
    (state, state.loadingAuthorizationStage actor authorizationId operation draw.now)
  | .verifyingAuthorization actor authorizationId authorization =>
    (state, state.verifyingAuthorizationStage digest actor authorizationId authorization)
  | .updatingAuthorization actor authorizationId _ target =>
    state.updateAuthorization actor authorizationId target draw.now
  | .allocatingManifest actor authorizationId authorization key =>
    (state, state.allocatingManifestStage digest actor authorizationId authorization key)
  | .insertingManifest actor authorizationId authorization key packageVersion previousHash =>
    state.insertManifest digest actor authorizationId authorization key packageVersion
      previousHash draw
  | .ended answer => (state, .ended answer)
  | .dead => (state, .dead)

end ComplianceDatabase

def ComplianceStage.afterThrow : ComplianceStage → ComplianceStage
  | .ended answer => .ended answer
  | .dead => .dead
  | _ => .ended (.threw .database)

def ComplianceStage.afterDeath : ComplianceStage → ComplianceStage
  | .ended answer => .ended answer
  | _ => .dead

def complianceProgram (digest : Text → String) :
    Interleaving.Program ComplianceDatabase ComplianceRequest ComplianceStage ComplianceChoice
      ComplianceEvent where
  enter := enterCompliance
  statement := fun state _ stage choice =>
    match choice with
    | .runs draw => state.statement digest draw stage
    | .throws => (state, stage.afterThrow)
    | .dies => (state, stage.afterDeath)
  occur := fun state event =>
    match event with
    | .scope incidentId scope =>
      { state with
        scopes := fun other => if other = incidentId then scope else state.scopes other }

/-- What a call has done before it reaches a stage. -/
def ComplianceStage.Follows (stage : ComplianceStage) : ComplianceStage → Prop
  | .insertingReport actor incidentId reportType key _ _ =>
    stage = .allocatingReport actor incidentId reportType key
  | .readingDraft actor draftId draft operation =>
    stage = .loadingDraft actor draftId operation ∧
      ComplianceDatabase.draftFailure actor draft operation = none
  | .allocatingRedacted actor draftId draft _ => stage = .readingDraft actor draftId draft .approve
  | .insertingRedacted actor draftId draft rules _ _ =>
    stage = .allocatingRedacted actor draftId draft rules
  | .verifyingAuthorization actor _ authorization => authorization.requestedByUserId ≠ actor.userId
  | .updatingAuthorization actor authorizationId authorization target =>
    target = .approved → stage = .verifyingAuthorization actor authorizationId authorization
  | _ => True

section

variable (state : ComplianceDatabase) (actor : IncidentActorContext)

theorem follows_loadingDraft (draftId : String) (operation : DraftOperation) :
    (ComplianceStage.loadingDraft actor draftId operation).Follows
      (state.loadingDraftStage actor draftId operation) := by
  unfold ComplianceDatabase.loadingDraftStage
  split
  · trivial
  split
  · trivial
  split
  · trivial
  split
  · trivial
  next passes =>
    split
    · trivial
    · trivial
    · exact ⟨rfl, passes⟩

theorem follows_readingDraft (digest : Text → String) (draftId : String) (draft : RedactionDraft)
    (operation : DraftOperation) :
    (ComplianceStage.readingDraft actor draftId draft operation).Follows
      (state.readingDraftStage digest actor draftId draft operation) := by
  cases operation with
  | addRule input =>
    rw [ComplianceDatabase.readingDraftStage, ComplianceDatabase.addRuleStage]
    split
    · trivial
    split <;> trivial
  | removeRule ruleId =>
    rw [ComplianceDatabase.readingDraftStage, ComplianceDatabase.removeRuleStage]
    split
    · trivial
    split <;> trivial
  | submit =>
    rw [ComplianceDatabase.readingDraftStage, ComplianceDatabase.submitStage]
    split
    · trivial
    split <;> trivial
  | cancel => trivial
  | reject reasonCode => trivial
  | approve =>
    rw [ComplianceDatabase.readingDraftStage, ComplianceDatabase.approveStage]
    split
    · trivial
    split
    · trivial
    dsimp only
    split
    · trivial
    split
    · trivial
    split
    · trivial
    · exact rfl

theorem follows_loadingAuthorization (authorizationId : String) (operation : AuthorizationOperation)
    (now : Int) :
    (ComplianceStage.loadingAuthorization actor authorizationId operation).Follows
      (state.loadingAuthorizationStage actor authorizationId operation now) := by
  unfold ComplianceDatabase.loadingAuthorizationStage
  split
  · trivial
  split
  · trivial
  split
  · trivial
  next passes =>
    unfold ComplianceDatabase.authorizationFailure at passes
    cases operation with
    | approve =>
      dsimp only at passes ⊢
      split at passes
      · cases passes
      split at passes
      · cases passes
      next another => exact another
    | reject reasonCode => exact fun same => by cases same
    | cancel => exact fun same => by cases same
    | prepare key => trivial

theorem follows_statement (digest : Text → String) (draw : ComplianceDraw) (stage : ComplianceStage) :
    stage.Follows (state.statement digest draw stage).2 := by
  cases stage with
  | loadingDraft actor draftId operation => exact follows_loadingDraft _ _ _ _
  | readingDraft actor draftId draft operation => exact follows_readingDraft _ _ _ _ _ _
  | loadingAuthorization actor authorizationId operation =>
    exact follows_loadingAuthorization _ _ _ _ _
  | allocatingReport actor incidentId reportType key => exact rfl
  | checkingReport actor incidentId reportType key =>
    rw [ComplianceDatabase.statement, ComplianceDatabase.checkingReportStage]
    split
    · trivial
    split <;> trivial
  | insertingReport actor incidentId reportType key version previousHash =>
    rw [ComplianceDatabase.statement, ComplianceDatabase.insertReport]
    dsimp only
    split
    · trivial
    split
    · trivial
    split <;> trivial
  | checkingSource actor sourceReportId key =>
    rw [ComplianceDatabase.statement, ComplianceDatabase.checkingSourceStage]
    split
    · trivial
    split
    · trivial
    split
    · trivial
    split <;> trivial
  | insertingDraft actor incidentId sourceReportId key =>
    rw [ComplianceDatabase.statement, ComplianceDatabase.insertDraft]
    split
    · trivial
    split <;> trivial
  | insertingRule actor draftId spec =>
    rw [ComplianceDatabase.statement, ComplianceDatabase.insertRule]
    split <;> trivial
  | deletingRule actor draftId ruleId =>
    rw [ComplianceDatabase.statement, ComplianceDatabase.deleteRule]
    split <;> trivial
  | allocatingRedacted actor draftId draft rules =>
    rw [ComplianceDatabase.statement, ComplianceDatabase.allocatingRedactedStage]
    split
    · trivial
    · exact rfl
  | insertingRedacted actor draftId draft rules version previousHash =>
    rw [ComplianceDatabase.statement, ComplianceDatabase.insertRedacted]
    split
    · trivial
    split
    · trivial
    split
    · trivial
    dsimp only
    split <;> trivial
  | checkingExport actor reportId purposeCode recipientType key =>
    rw [ComplianceDatabase.statement, ComplianceDatabase.checkingExportStage]
    split
    · trivial
    split
    · trivial
    split
    · trivial
    split <;> trivial
  | insertingAuthorization actor incidentId reportId purposeCode recipientType key =>
    rw [ComplianceDatabase.statement, ComplianceDatabase.insertAuthorization]
    split
    · trivial
    split <;> trivial
  | verifyingAuthorization actor authorizationId authorization =>
    rw [ComplianceDatabase.statement, ComplianceDatabase.verifyingAuthorizationStage]
    split
    · trivial
    split
    · trivial
    · exact fun _ => rfl
  | allocatingManifest actor authorizationId authorization key =>
    rw [ComplianceDatabase.statement, ComplianceDatabase.allocatingManifestStage]
    split
    · trivial
    split
    · trivial
    split <;> trivial
  | insertingManifest actor authorizationId authorization key packageVersion previousHash =>
    rw [ComplianceDatabase.statement, ComplianceDatabase.insertManifest]
    split
    · trivial
    split
    · trivial
    split <;> trivial
  | _ => trivial

theorem follows_enter (stage : ComplianceStage) (request : ComplianceRequest) :
    stage.Follows (enterCompliance state request) := by
  cases request with
  | draft actor draftId operation =>
    unfold enterCompliance
    dsimp only
    split
    · trivial
    split
    · split <;> trivial
    · trivial
  | requestExport actor reportId purposeCode recipientType key =>
    unfold enterCompliance
    dsimp only
    split
    · trivial
    split <;> trivial
  | authorization actor authorizationId operation =>
    unfold enterCompliance
    dsimp only
    split <;> split <;> trivial
  | _ =>
    unfold enterCompliance
    dsimp only
    split <;> trivial

end

end Tamanor.Db
