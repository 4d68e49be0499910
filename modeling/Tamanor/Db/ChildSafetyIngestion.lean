import Tamanor.Core.ChildSafetyOrchestration
import Tamanor.Db.RecipientHistory

/-! The persistent reservations of the privacy gateway (`child-safety-ingestion.ts`), the
signals that it creates and the ledgers of their interventions. Every statement commits by
itself; a call can throw, or its process die, before or after each of them. -/

set_option autoImplicit false

namespace Tamanor.Db

open Tamanor.Core Library

/-! The ledger of the protective intervention on an accepted signal
(`child-safety-intervention.ts`). A run writes it once, by its id, at its end. -/

def maxAttempts : Nat := 6

inductive InterventionStepStatus where
  | pending | done | skipped
deriving DecidableEq

inductive InterventionFailureClass where
  | retryable | terminal
deriving DecidableEq

structure ChildSafetyIntervention where
  outcome : ChildSafetyOutcome
  reviewStatus : InterventionStepStatus
  reviewRef : Option String
  incidentStatus : InterventionStepStatus
  incidentRef : Option String
  escalationStatus : InterventionStepStatus
  escalationRef : Option String
  deliveryStatus : InterventionStepStatus
  deliveryRef : Option String
  attemptCount : Nat
  lastFailureClass : Option InterventionFailureClass
  nextRetryAt : Option Int
  completedAt : Option Int
deriving DecidableEq

def createdIntervention : ChildSafetyIntervention :=
  ⟨.noAction, .pending, none, .pending, none, .pending, none, .pending, none, 0, none, none, none⟩

/-- What a run has to write; a field that is absent is not written. -/
structure InterventionPatch where
  outcome : ChildSafetyOutcome
  reviewStatus : Option InterventionStepStatus
  reviewRef : Option (Option String)
  incidentStatus : Option InterventionStepStatus
  incidentRef : Option String
  escalationStatus : Option InterventionStepStatus
  escalationRef : Option String
  deliveryStatus : Option InterventionStepStatus
  deliveryRef : Option (Option String)
deriving DecidableEq

namespace InterventionPatch

variable (patch : InterventionPatch)

def apply (row : ChildSafetyIntervention) : ChildSafetyIntervention where
  outcome := patch.outcome
  reviewStatus := patch.reviewStatus.getD row.reviewStatus
  reviewRef := patch.reviewRef.getD row.reviewRef
  incidentStatus := patch.incidentStatus.getD row.incidentStatus
  incidentRef := patch.incidentRef.or row.incidentRef
  escalationStatus := patch.escalationStatus.getD row.escalationStatus
  escalationRef := patch.escalationRef.or row.escalationRef
  deliveryStatus := patch.deliveryStatus.getD row.deliveryStatus
  deliveryRef := patch.deliveryRef.getD row.deliveryRef
  attemptCount := row.attemptCount + 1
  lastFailureClass := none
  nextRetryAt := none
  completedAt := row.completedAt

def complete (now : Int) (row : ChildSafetyIntervention) : ChildSafetyIntervention :=
  { patch.apply row with completedAt := some now }

def fail (state : ChildSafetyIntervention) (now : Int) (row : ChildSafetyIntervention) :
    ChildSafetyIntervention :=
  let attempts := state.attemptCount + 1
  if maxAttempts ≤ attempts then
    { patch.apply row with
      lastFailureClass := some .terminal
      completedAt := some now }
  else
    { patch.apply row with
      lastFailureClass := some .retryable
      nextRetryAt := some (now + min 60000 (1000 * 2 ^ attempts)) }

end InterventionPatch

inductive IngestionOutcome where
  | pending
  | orchestrated (outcome : ChildSafetyOutcome)

structure IngestionRecord where
  id : String
  installationId : String
  nonce : String
  idempotencyKey : Option String
  payloadHash : String
  signalId : Option String
  receiptId : String
  outcome : IngestionOutcome
  expiresAt : Int

/-- A signed envelope that an installation submits with an idempotency key, and the signal
that stands in it. `payloadHash` is the hash of its canonical form. -/
structure SubmittedEnvelope where
  installationId : String
  tenantId : String
  protectedProfileId : String
  nonce : String
  idempotencyKey : String
  payloadHash : String
  severity : SafetySeverity
  signalType : SafetySignalType

/-- `created` are the signals that calls with the envelope have created. -/
structure IngestionStore where
  ingestions : Table String IngestionRecord
  signals : Table String SafetySignal
  interventions : Table String ChildSafetyIntervention
  created : List String

/-- How a statement ends: it commits and the call goes on, or the call stops before or after
the commit. -/
inductive StatementFate where
  | done | stopsBefore | stopsAfter
deriving DecidableEq

def defaultTtlMs : Int := 7 * 24 * 60 * 60 * 1000

inductive ReserveIngestionResult where
  | reserved (id receiptId : String)
  | duplicate (record : IngestionRecord)
  | conflict
  | replay
  | stopped

namespace IngestionStore

variable (store : IngestionStore) (envelope : SubmittedEnvelope)

def findByKey : Option IngestionRecord :=
  (store.ingestions.rows.find? fun row =>
    row.2.installationId == envelope.installationId &&
      row.2.idempotencyKey == some envelope.idempotencyKey).map Prod.snd

def nonceTaken : Bool :=
  store.ingestions.rows.any fun row =>
    row.2.installationId == envelope.installationId && row.2.nonce == envelope.nonce

def classify (existing : IngestionRecord) : ReserveIngestionResult :=
  if existing.payloadHash = envelope.payloadHash then .duplicate existing else .conflict

/-- Calls with an envelope follow one another, so that the lookup after a unique violation
sees what the lookup before it has seen. -/
def reserveIngestion (id receiptId : String) (now : Int) (fate : StatementFate) :
    IngestionStore × ReserveIngestionResult :=
  match store.findByKey envelope with
  | some existing => (store, classify envelope existing)
  | none =>
    if fate = .stopsBefore then (store, .stopped)
    else if store.nonceTaken envelope || (store.ingestions.find? id).isSome then (store, .replay)
    else
      let row : IngestionRecord :=
        ⟨id, envelope.installationId, envelope.nonce, some envelope.idempotencyKey,
          envelope.payloadHash, none, receiptId, .pending, now + defaultTtlMs⟩
      ({ store with ingestions := store.ingestions.insert id row },
        if fate = .done then .reserved id receiptId else .stopped)

def completeIngestion (id signalId : String) (outcome : IngestionOutcome) : IngestionStore :=
  { store with
    ingestions := store.ingestions.modify id fun row =>
      { row with signalId := some signalId, outcome := outcome } }

/-- `ingestSafetySignalFromGateway`: the row; the audit entry after it may still fail. -/
def createSignal (id : String) : IngestionStore :=
  { store with
    signals := store.signals.insert id
      ⟨id, envelope.tenantId, envelope.protectedProfileId, envelope.severity, envelope.signalType,
        none⟩
    created := store.created ++ [id] }

end IngestionStore

/-! The intervention, as far as its ledger shows it: the steps that a run takes are in the patch
that it writes at its end. -/

inductive ProcessingState where
  | completed | processing
deriving DecidableEq

/-- How a run of an intervention ends: it stops before or after its ledger is there, or writes
its patch, with a step that has failed or none, and then returns or stops. -/
inductive InterventionFate where
  | stopsBefore
  | stopsStarted
  | writes (patch : InterventionPatch) (failed : Bool)
  | stopsWritten (patch : InterventionPatch) (failed : Bool)
deriving DecidableEq

def InterventionFate.returns : InterventionFate → Bool
  | .writes _ _ => true
  | _ => false

structure InterventionAnswer where
  outcome : ChildSafetyOutcome
  processingState : ProcessingState

def ChildSafetyIntervention.finish (state : ChildSafetyIntervention) (patch : InterventionPatch)
    (failed : Bool) (now : Int) : ChildSafetyIntervention :=
  if failed then patch.fail state now state else patch.complete now state

def ChildSafetyIntervention.answer (row : ChildSafetyIntervention) : InterventionAnswer :=
  ⟨row.outcome, if row.completedAt.isSome then .completed else .processing⟩

namespace IngestionStore

variable (store : IngestionStore)

def ledger (signalId : String) : ChildSafetyIntervention :=
  (store.interventions.find? signalId).getD createdIntervention

/-- `interveneOnAcceptedSafetySignal`; no answer if the run stops. -/
def intervene (signalId tenantId : String) (now : Int) (fate : InterventionFate) :
    IngestionStore × Option InterventionAnswer :=
  let visible := (store.signals.find? signalId).any fun signal =>
    signal.tenantId == tenantId && signal.archivedAt.isNone
  if fate = .stopsBefore then (store, none)
  else if !visible then (store, some ⟨.noAction, .completed⟩)
  else
    let state := store.ledger signalId
    let started := { store with interventions := store.interventions.upsert signalId state }
    if state.completedAt.isSome then
      (started, if fate.returns then some state.answer else none)
    else
      match fate with
      | .stopsBefore => (store, none)
      | .stopsStarted => (started, none)
      | .writes patch failed =>
        let saved := state.finish patch failed now
        ({ store with interventions := store.interventions.upsert signalId saved },
          some saved.answer)
      | .stopsWritten patch failed =>
        let saved := state.finish patch failed now
        ({ store with interventions := store.interventions.upsert signalId saved }, none)

end IngestionStore

end Tamanor.Db
