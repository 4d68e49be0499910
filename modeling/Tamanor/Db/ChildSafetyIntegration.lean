import Tamanor.Core.ChildSafetyIntegration
import Tamanor.Library.Interleaving

/-! The partner integration (`child-safety-integration.ts` of the database package): the gateway
that partners submit signals to, the administration of their keys and the sandbox, as calls whose
statements interleave. The last transaction of the gateway is one statement. -/

set_option autoImplicit false

namespace Tamanor.Db

open Tamanor.Core Library

structure IntegrationRuntime where
  parse : String → Option (Json ℚ)
  parseDate : String → Option Int
  toText : Json ℚ → String
  printNumber : ℚ → String
  toLowerCase : String → String
  toUpperCase : String → String
  sha256 : String → String
  /-- Of a signing string, a public key and a signature. -/
  verifyEd25519 : String → String → String → Bool

structure GatewayInput where
  method : String
  path : String
  rawBody : String
  signatureBase64 : Option String
  keyVersion : Option Nat
  installationIdHeader : Option String
deriving DecidableEq

inductive RegistryStatus where
  | active | suspended | revoked
deriving DecidableEq

/-- An installation, with the columns of its application and its partner that the gateway
reads. -/
structure IntegrationInstallation where
  tenantId : String
  partnerId : String
  applicationId : String
  status : RegistryStatus
  applicationStatus : RegistryStatus
  partnerStatus : RegistryStatus
  protocolMinVersion : String
  protocolMaxVersion : String
  allowedCapabilities : List String
  production : Bool

inductive IntegrationKeyStatus where
  | active | rotating | revoked | suspended
deriving DecidableEq

structure IntegrationKey where
  tenantId : String
  installationId : String
  keyVersion : Nat
  publicKey : String
  status : IntegrationKeyStatus
  validUntil : Option Int
  revokedAt : Option Int

/-- The gateway looks at these two columns, and not at `revokedAt`. -/
def IntegrationKey.usable (key : IntegrationKey) (now : Int) : Bool :=
  !(key.status == .revoked || key.status == .suspended || key.validUntil.any fun limit => limit < now)

inductive IntegrationErrorCode where
  | signalAccepted | signalDuplicate | payloadTooLarge | payloadInvalid | protocolUnsupported
  | integrationAuthRequired | signatureInvalid | keyRevoked | timestampOutOfWindow
  | integrationUnknown | integrationSuspended | capabilityDenied | nonceReplayed
  | idempotencyConflict | rateLimited | internalFailClosed
deriving DecidableEq

structure GatewayAnswer where
  code : IntegrationErrorCode
  eventId : Option String
  receiptId : Option String
  canonicalSignalId : Option String

def GatewayAnswer.ofCode (code : IntegrationErrorCode) : GatewayAnswer := ⟨code, none, none, none⟩

/-! A submitted signal, as far as it has been checked. -/

def textField (envelope : Json ℚ) (name : String) : String :=
  ((envelope.field? name).bind Json.asString?).getD ""

/-- A request whose envelope names an active installation and is of the right time. -/
structure ReceivedSignal (runtime : IntegrationRuntime) where
  input : GatewayInput
  now : Int
  envelope : Json ℚ
  installationId : String
  installation : IntegrationInstallation
  parsed : runtime.parse input.rawBody = some envelope
  named : envelope.field? "installationId" = some (.str installationId)

variable {runtime : IntegrationRuntime}

namespace ReceivedSignal

variable (signal : ReceivedSignal runtime)

def text (name : String) : String := textField signal.envelope name

def signingString : String :=
  buildSigningString runtime.toUpperCase
    ⟨signal.input.method, signal.input.path, signal.text "protocolVersion",
      signal.text "applicationId", signal.text "installationId", signal.text "eventId",
      signal.text "idempotencyKey", signal.text "sentAt", signal.text "nonce",
      runtime.sha256 signal.input.rawBody⟩

def selects (key : IntegrationKey) : Bool :=
  key.tenantId == signal.installation.tenantId && key.installationId == signal.installationId &&
    signal.input.keyVersion == some key.keyVersion

def requestFingerprint : String :=
  runtime.sha256 (canonicalRequestContent runtime.printNumber signal.envelope)

def nonceHash : String := runtime.sha256 (signal.installationId ++ ":" ++ signal.text "nonce")

end ReceivedSignal

structure VerifiedSignal (runtime : IntegrationRuntime) extends ReceivedSignal runtime where
  keyId : String
  key : IntegrationKey
  selected : toReceivedSignal.selects key = true
  usable : key.usable now = true
  verified : runtime.verifyEd25519 toReceivedSignal.signingString key.publicKey
    (input.signatureBase64.getD "") = true

structure ValidSignal (runtime : IntegrationRuntime) extends VerifiedSignal runtime where
  valid : validateSignalEnvelope runtime.toLowerCase runtime.parseDate envelope = []

/-! The rows. A receipt and a signal remember the request and the call that created them. -/

structure SignalReceipt (runtime : IntegrationRuntime) where
  tenantId : String
  partnerId : String
  applicationId : String
  installationId : String
  externalEventId : String
  idempotencyKey : String
  nonceHash : String
  requestFingerprint : String
  protocolVersion : String
  keyVersion : Nat
  canonicalSignalId : Option String
  policyDecisionId : Option String
  receivedAt : Int
  expiresAt : Int
  origin : ValidSignal runtime
  call : Nat

structure CanonicalSignal (runtime : IntegrationRuntime) where
  tenantId : String
  protectedProfileId : String
  signalType : String
  severity : String
  confidenceBand : String
  sourceReference : String
  occurrenceBucket : String
  detectedAt : Option Int
  receivedAt : Int
  origin : ValidSignal runtime
  call : Nat

/-- `retired` are the keys whose revocation has committed, and the keys of sandbox calls that
have returned. -/
structure IntegrationState (runtime : IntegrationRuntime) where
  now : Int
  installations : Table String IntegrationInstallation
  keys : Table String IntegrationKey
  subjects : Table (String × String) String
  receipts : Table String (SignalReceipt runtime)
  signals : Table String (CanonicalSignal runtime)
  retired : List String

def receiptRetentionMs : Int := 30 * 24 * 60 * 60 * 1000

def rotationOverlapMs : Int := 7 * 24 * 60 * 60 * 1000

def integrationRateWindowMs : Int := 60 * 1000

def integrationRateMax : Nat := 120

namespace ValidSignal

variable (signal : ValidSignal runtime)

def part (name field : String) : Option String :=
  ((signal.envelope.field? name).bind (·.field? field)).bind Json.asString?

def canonicalType : Option String :=
  mapPartnerRiskToCanonical ((signal.part "signal" "signalType").getD "")

def receipt (call : Nat) (canonicalSignalId : Option String) (decided : Bool) :
    SignalReceipt runtime where
  tenantId := signal.installation.tenantId
  partnerId := signal.installation.partnerId
  applicationId := signal.installation.applicationId
  installationId := signal.installationId
  externalEventId := signal.text "eventId"
  idempotencyKey := signal.text "idempotencyKey"
  nonceHash := signal.nonceHash
  requestFingerprint := signal.requestFingerprint
  protocolVersion := signal.text "protocolVersion"
  keyVersion := signal.key.keyVersion
  canonicalSignalId := canonicalSignalId
  policyDecisionId := if decided then some (signal.text "eventId") else none
  receivedAt := signal.now
  expiresAt := signal.now + receiptRetentionMs
  origin := signal
  call := call

def canonical (call : Nat) (protectedProfileId signalType : String) : CanonicalSignal runtime where
  tenantId := signal.installation.tenantId
  protectedProfileId := protectedProfileId
  signalType := signalType
  severity := mapSeverity (signal.part "signal" "severityHint")
    ((signal.part "signal" "confidenceBand").getD "")
  confidenceBand := (signal.part "signal" "confidenceBand").getD ""
  sourceReference := String.ofList (((signal.part "signal" "externalSignalId").getD "").toList.take 64)
  occurrenceBucket := String.ofList (signal.nonceHash.toList.take 32)
  detectedAt := runtime.parseDate (signal.text "occurredAt")
  receivedAt := signal.now
  origin := signal
  call := call

end ValidSignal

inductive GatewayStage (runtime : IntegrationRuntime) where
  | resolving (input : GatewayInput) (now : Int)
  | limiting (signal : ReceivedSignal runtime)
  | authenticating (signal : ReceivedSignal runtime)
  | matching (signal : VerifiedSignal runtime)
  | replaying (signal : VerifiedSignal runtime)
  | piloting (signal : ValidSignal runtime)
  | linking (signal : ValidSignal runtime)
  | persisting (signal : ValidSignal runtime) (protectedProfileId : Option String)
  | repeated (signal : ValidSignal runtime)
  | correlating (signal : ValidSignal runtime) (receiptId : String) (canonicalSignalId : Option String)
  | ended (signal : Option (VerifiedSignal runtime)) (answer : GatewayAnswer)

/-- What a statement leaves open: the ids that it would draw, what the pilot of a production
installation says, whether a policy has decided, and which of two violated indexes is reported. -/
structure GatewayFreedom where
  receiptId : String
  signalId : String
  pilotBlock : Option IntegrationErrorCode
  decided : Bool
  nonceReported : Bool

def refuse (code : IntegrationErrorCode) : GatewayStage runtime := .ended none (.ofCode code)

def hasControl (text : String) : Bool :=
  text.toList.any fun char => decide (char.toNat < 0x20) || decide (char.toNat = 0x7F)

/-- `Date.parse`, of the text that a value is converted to. -/
def dateOfJson (runtime : IntegrationRuntime) : Option (Json ℚ) → Option Int
  | some (.str text) => runtime.parseDate text
  | some value => runtime.parseDate (runtime.toText value)
  | none => runtime.parseDate "undefined"

def isCleanText : Option (Json ℚ) → Bool
  | some (.str text) => !hasControl text
  | _ => false

def protocolInRange (installation : IntegrationInstallation) (version : Option (Json ℚ)) : Bool :=
  match version with
  | some (.str text) =>
    isSupportedProtocolVersion text && Json.sortsBefore installation.protocolMinVersion text &&
      Json.sortsBefore text installation.protocolMaxVersion
  | _ => false

namespace IntegrationState

variable (state : IntegrationState runtime)

def checkInstallation (input : GatewayInput) (now : Int) (envelope : Json ℚ)
    (installationId : String) (parsed : runtime.parse input.rawBody = some envelope)
    (named : envelope.field? "installationId" = some (.str installationId)) :
    GatewayStage runtime :=
  match state.installations.find? installationId with
  | none => refuse .integrationUnknown
  | some installation =>
    if textField envelope "applicationId" ≠ installation.applicationId ∨
        textField envelope "partnerId" ≠ installation.partnerId then
      refuse .integrationUnknown
    else if installation.status ≠ .active ∨ installation.applicationStatus ≠ .active ∨
        installation.partnerStatus ≠ .active then
      refuse .integrationSuspended
    else if !protocolInRange installation (envelope.field? "protocolVersion") then
      refuse .protocolUnsupported
    else if (dateOfJson runtime (envelope.field? "sentAt")).all fun sentAt =>
        decide (integrationClockSkewMs < |now - sentAt|) then
      refuse .timestampOutOfWindow
    else if (["protocolVersion", "applicationId", "installationId", "eventId", "idempotencyKey",
        "sentAt", "nonce"].any fun field => !isCleanText (envelope.field? field)) then
      refuse .payloadInvalid
    else .limiting ⟨input, now, envelope, installationId, installation, parsed, named⟩

def resolve (input : GatewayInput) (now : Int) : GatewayStage runtime :=
  if maxEnvelopeBytes < input.rawBody.utf8ByteSize then refuse .payloadTooLarge
  else
    match input.signatureBase64, input.keyVersion, input.installationIdHeader with
    | some signature, some _, some header =>
      if signature = "" ∨ header = "" then refuse .integrationAuthRequired
      else
        match parsed : runtime.parse input.rawBody with
        | none => refuse .payloadInvalid
        | some envelope =>
          match named : envelope.field? "installationId" with
          | some (.str installationId) =>
            if installationId = header then
              state.checkInstallation input now envelope installationId parsed named
            else refuse .integrationAuthRequired
          | _ => refuse .integrationAuthRequired
    | _, _, _ => refuse .integrationAuthRequired

variable (signal : ReceivedSignal runtime)

def limit : GatewayStage runtime :=
  let recent := state.receipts.rows.filter fun row =>
    row.2.installationId == signal.installationId &&
      decide (signal.now - integrationRateWindowMs ≤ row.2.receivedAt)
  if integrationRateMax ≤ recent.length then refuse .rateLimited else .authenticating signal

/-- The key is looked up, and the signature verified with it; what has been checked is kept. -/
def authenticate : GatewayStage runtime :=
  match state.keys.rows.find? fun row => signal.selects row.2 with
  | none => refuse .signatureInvalid
  | some (keyId, key) =>
    if usable : key.usable signal.now = true then
      if verified : signal.selects key = true ∧
          runtime.verifyEd25519 signal.signingString key.publicKey
            (signal.input.signatureBase64.getD "") = true then
        .matching ⟨signal, keyId, key, verified.1, usable, verified.2⟩
      else refuse .signatureInvalid
    else refuse .keyRevoked

def receiptByKey : Option (String × SignalReceipt runtime) :=
  state.receipts.rows.find? fun row =>
    row.2.installationId == signal.installationId &&
      row.2.idempotencyKey == signal.text "idempotencyKey"

def receiptByNonce : Option (String × SignalReceipt runtime) :=
  state.receipts.rows.find? fun row =>
    row.2.installationId == signal.installationId && row.2.nonceHash == signal.nonceHash

def duplicateAnswer (found : Option (String × SignalReceipt runtime)) : GatewayAnswer :=
  ⟨.signalDuplicate, some (signal.text "eventId"), found.map Prod.fst,
    found.bind fun row => row.2.canonicalSignalId⟩

def matchKey (signal : VerifiedSignal runtime) : GatewayStage runtime :=
  match state.receiptByKey signal.toReceivedSignal with
  | none => .replaying signal
  | some prior =>
    if prior.2.requestFingerprint = signal.requestFingerprint then
      .ended (some signal) (duplicateAnswer signal.toReceivedSignal (some prior))
    else .ended (some signal) (.ofCode .idempotencyConflict)

def checkNonce (signal : VerifiedSignal runtime) : GatewayStage runtime :=
  if (state.receiptByNonce signal.toReceivedSignal).isSome then
    .ended (some signal) (.ofCode .nonceReplayed)
  else if valid : validateSignalEnvelope runtime.toLowerCase runtime.parseDate signal.envelope = []
      then
    if signal.installation.allowedCapabilities.contains "signal.submit" then
      .piloting ⟨signal, valid⟩
    else .ended (some signal) (.ofCode .capabilityDenied)
  else .ended (some signal) (.ofCode .payloadInvalid)

def link (signal : ValidSignal runtime) : GatewayStage runtime :=
  .persisting signal
    (state.subjects.find?
      (signal.installationId, (signal.part "subject" "pseudonymousSubjectId").getD ""))

/-- The canonical signal of a request, if its risk has a type and its subject is linked. -/
def canonicalOf (signal : ValidSignal runtime) (call : Nat) (protectedProfileId : Option String) :
    Option (CanonicalSignal runtime) :=
  protectedProfileId.bind fun profile =>
    signal.canonicalType.map fun type => signal.canonical call profile type

def persist (call : Nat) (signal : ValidSignal runtime) (protectedProfileId : Option String)
    (free : GatewayFreedom) : IntegrationState runtime × GatewayStage runtime :=
  let keyTaken := (state.receiptByKey signal.toReceivedSignal).isSome
  let nonceTaken := (state.receiptByNonce signal.toReceivedSignal).isSome
  if nonceTaken && (free.nonceReported || !keyTaken) then
    (state, .ended (some signal.toVerifiedSignal) (.ofCode .nonceReplayed))
  else if keyTaken then (state, .repeated signal)
  else if (state.receipts.find? free.receiptId).isSome ||
      (state.signals.find? free.signalId).isSome then
    (state, .ended (some signal.toVerifiedSignal) (.ofCode .internalFailClosed))
  else
    match canonicalOf signal call protectedProfileId with
    | none =>
      ({ state with
          receipts := state.receipts.insert free.receiptId (signal.receipt call none free.decided) },
        .correlating signal free.receiptId none)
    | some created =>
      ({ state with
          signals := state.signals.insert free.signalId created
          receipts := state.receipts.insert free.receiptId
            (signal.receipt call (some free.signalId) free.decided) },
        .correlating signal free.receiptId (some free.signalId))

def gatewayStatement (call : Nat) (free : GatewayFreedom) :
    GatewayStage runtime → IntegrationState runtime × GatewayStage runtime
  | .resolving input now => (state, state.resolve input now)
  | .limiting signal => (state, state.limit signal)
  | .authenticating signal => (state, state.authenticate signal)
  | .matching signal => (state, state.matchKey signal)
  | .replaying signal => (state, state.checkNonce signal)
  | .piloting signal =>
    match if signal.installation.production then free.pilotBlock else none with
    | some .rateLimited =>
      (state, .ended (some signal.toVerifiedSignal) (.ofCode .rateLimited))
    | some _ => (state, .ended (some signal.toVerifiedSignal) (.ofCode .integrationSuspended))
    | none => (state, .linking signal)
  | .linking signal => (state, state.link signal)
  | .persisting signal protectedProfileId => state.persist call signal protectedProfileId free
  | .repeated signal =>
    (state, .ended (some signal.toVerifiedSignal)
      (duplicateAnswer signal.toReceivedSignal (state.receiptByKey signal.toReceivedSignal)))
  | .correlating signal receiptId canonicalSignalId =>
    (state, .ended (some signal.toVerifiedSignal)
      ⟨.signalAccepted, some (signal.text "eventId"), some receiptId, canonicalSignalId⟩)
  | .ended signal answer => (state, .ended signal answer)

end IntegrationState

/-- A statement that throws ends the call, but for the correlation, whose failure is caught. -/
def GatewayStage.throws : GatewayStage runtime → GatewayStage runtime
  | .correlating signal receiptId canonicalSignalId =>
    .ended (some signal.toVerifiedSignal)
      ⟨.signalAccepted, some (signal.text "eventId"), some receiptId, canonicalSignalId⟩
  | .ended signal answer => .ended signal answer
  | _ => refuse .internalFailClosed

/-! The administration of keys and the sandbox. -/

/-- A key to register: of an administrator, or of a sandbox call with the request that it
submits. -/
structure Registration where
  tenantId : String
  installationId : String
  publicKey : String
  sandbox : Option GatewayInput

/-- The calls. A call of an actor without the permission does nothing. -/
inductive IntegrationRequest where
  | deliver (input : GatewayInput)
  | registerKey (permitted : Bool) (registration : Registration)
  | startRotation (permitted : Bool) (tenantId keyId : String)
  | revokeKey (permitted : Bool) (tenantId keyId : String)
  | setInstallationStatus (permitted : Bool) (tenantId installationId : String)
      (status : RegistryStatus)

structure GatewayRun where
  sandboxKey : Option String
  retired : List String

inductive IntegrationStage (runtime : IntegrationRuntime) where
  | gateway (run : GatewayRun) (stage : GatewayStage runtime)
  | returned (run : GatewayRun) (keyId : String) (answer : GatewayAnswer)
  | finding (registration : Registration)
  | versioning (registration : Registration)
  | creating (registration : Registration) (keyVersion : Nat)
  | readingRotation (tenantId keyId : String)
  | rotating (keyId : String) (now : Int)
  | readingRevocation (tenantId keyId : String)
  | revoking (keyId : String) (now : Int)
  | readingStatus (tenantId installationId : String) (status : RegistryStatus)
  | settingStatus (installationId : String) (status : RegistryStatus)
  | administered
  | dead

/-- A statement runs, throws, or its process dies before it. -/
inductive IntegrationChoice where
  | runs (free : GatewayFreedom)
  | throws
  | dies

namespace IntegrationState

variable (state : IntegrationState runtime)

def enter : IntegrationRequest → IntegrationStage runtime
  | .deliver input => .gateway ⟨none, state.retired⟩ (.resolving input state.now)
  | .registerKey permitted registration =>
    if permitted then .finding registration else .administered
  | .startRotation permitted tenantId keyId =>
    if permitted then .readingRotation tenantId keyId else .administered
  | .revokeKey permitted tenantId keyId =>
    if permitted then .readingRevocation tenantId keyId else .administered
  | .setInstallationStatus permitted tenantId installationId status =>
    if permitted then .readingStatus tenantId installationId status else .administered

variable (registration : Registration)

def findInstallation : IntegrationStage runtime :=
  match state.installations.find? registration.installationId with
  | some installation =>
    if installation.tenantId = registration.tenantId ∧
        (registration.sandbox = none ∨ installation.production = false) then
      .versioning registration
    else .administered
  | none => .administered

/-- `keyVersion` of the latest key, or zero. -/
def latestVersion : Nat :=
  ((state.keys.rows.filter fun row => row.2.tenantId == registration.tenantId &&
    row.2.installationId == registration.installationId).map fun row => row.2.keyVersion).foldr max 0

/-- The insertion of a key, which the unique index on the version of an installation can
refuse. -/
def createKey (keyVersion : Nat) (keyId : String) :
    IntegrationState runtime × IntegrationStage runtime :=
  if (state.keys.find? keyId).isSome || state.keys.rows.any (fun row =>
      row.2.installationId == registration.installationId && row.2.keyVersion == keyVersion) then
    (state, .administered)
  else
    ({ state with
        keys := state.keys.insert keyId
          ⟨registration.tenantId, registration.installationId, keyVersion, registration.publicKey,
            .active, none, none⟩ },
      match registration.sandbox with
      | none => .administered
      | some input =>
        .gateway ⟨some keyId, state.retired⟩
          (.resolving { input with keyVersion := some keyVersion } state.now))

def readKey (tenantId keyId : String) : Option IntegrationKey :=
  (state.keys.find? keyId).filter fun key => key.tenantId == tenantId

def revoke (keyId : String) (now : Int) : IntegrationState runtime :=
  { state with
    keys := state.keys.modify keyId fun key =>
      { key with status := .revoked, revokedAt := some now } }

def retire (keyId : String) : IntegrationState runtime :=
  { state with retired := keyId :: state.retired }

def rotate (keyId : String) (now : Int) : IntegrationState runtime :=
  { state with
    keys := state.keys.modify keyId fun key =>
      { key with status := .rotating, validUntil := some (now + rotationOverlapMs) } }

def statement (call : Nat) (free : GatewayFreedom) :
    IntegrationStage runtime → IntegrationState runtime × IntegrationStage runtime
  | .gateway run (.ended signal answer) =>
    match run.sandboxKey with
    | some keyId => ((state.revoke keyId state.now).retire keyId, .returned run keyId answer)
    | none => (state, .gateway run (.ended signal answer))
  | .gateway run stage =>
    let after := state.gatewayStatement call free stage
    (after.1, .gateway run after.2)
  | .returned run keyId answer => (state, .returned run keyId answer)
  | .finding registration => (state, state.findInstallation registration)
  | .versioning registration =>
    (state, .creating registration (state.latestVersion registration + 1))
  | .creating registration keyVersion => state.createKey registration keyVersion free.receiptId
  | .readingRotation tenantId keyId =>
    match state.readKey tenantId keyId with
    | some key =>
      (state, if key.status = .active then .rotating keyId state.now else .administered)
    | none => (state, .administered)
  | .rotating keyId now => (state.rotate keyId now, .administered)
  | .readingRevocation tenantId keyId =>
    (state, if (state.readKey tenantId keyId).isSome then .revoking keyId state.now
      else .administered)
  | .revoking keyId now => ((state.revoke keyId now).retire keyId, .administered)
  | .readingStatus tenantId installationId status =>
    (state,
      if (state.installations.find? installationId).any fun row => row.tenantId == tenantId then
        .settingStatus installationId status
      else .administered)
  | .settingStatus installationId status =>
    ({ state with
        installations := state.installations.modify installationId fun row =>
          { row with status := status } },
      .administered)
  | .administered => (state, .administered)
  | .dead => (state, .dead)

/-- A sandbox call whose revocation throws returns all the same: the error is dropped. -/
def throws : IntegrationStage runtime → IntegrationState runtime × IntegrationStage runtime
  | .gateway run (.ended signal answer) =>
    match run.sandboxKey with
    | some keyId => (state.retire keyId, .returned run keyId answer)
    | none => (state, .gateway run (.ended signal answer))
  | .gateway run stage => (state, .gateway run stage.throws)
  | .returned run keyId answer => (state, .returned run keyId answer)
  | .dead => (state, .dead)
  | _ => (state, .administered)

end IntegrationState

def IntegrationStage.dies : IntegrationStage runtime → IntegrationStage runtime
  | .gateway run (.ended signal answer) =>
    if run.sandboxKey = none then .gateway run (.ended signal answer) else .dead
  | .returned run keyId answer => .returned run keyId answer
  | _ => .dead

def integrationProgram (runtime : IntegrationRuntime) :
    Interleaving.Program (IntegrationState runtime) IntegrationRequest (IntegrationStage runtime)
      IntegrationChoice Nat where
  enter := IntegrationState.enter
  statement := fun state call stage choice =>
    match choice with
    | .runs free => state.statement call free stage
    | .throws => state.throws stage
    | .dies => (state, stage.dies)
  occur := fun state elapsed => { state with now := state.now + elapsed }

end Tamanor.Db
