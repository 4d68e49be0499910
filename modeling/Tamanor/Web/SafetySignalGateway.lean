import Tamanor.Db.ChildSafetyIngestion

/-! The privacy gateway (`gateway.ts` of the web app): the reservation, the signal, its
intervention and the completion of the reservation are four commits, and a retry is keyed on the
first of them. The checks before the reservation only refuse a request. -/

set_option autoImplicit false

namespace Tamanor.Web

open Tamanor.Core Db Library

inductive GatewayErrorCode where
  | unsupportedMediaType | payloadTooLarge | malformedJson | invalidEnvelope | unauthorized
  | forbiddenScope | installationExpired | installationRevoked | noTenantBinding
  | applicationMismatch | tenantMismatch | protectedProfileMismatch | protectedProfileNotFound
  | staleTimestamp | invalidSignature | replayDetected | idempotencyConflict | rateLimited
  | processingError

structure GatewayReceipt where
  receiptId : String
  signalId : Option String
  duplicate : Bool
  outcome : IngestionOutcome
  processingState : ProcessingState
  receivedAt : Int

inductive GatewayResult where
  | accepted (receipt : GatewayReceipt)
  | refused (error : GatewayErrorCode)

/-- A call with an envelope: what the checks before the reservation say, the ids that it would
draw, and how each of its statements ends. A call that stops has answered with a processing
error, or not at all. -/
structure GatewayCall where
  refusal : Option GatewayErrorCode
  now : Int
  receiptId : String
  ingestionId : String
  signalId : String
  reservation : StatementFate
  creation : StatementFate
  intervention : InterventionFate
  completion : StatementFate
  dies : Bool

def GatewayCall.stopped (call : GatewayCall) : Option GatewayResult :=
  if call.dies then none else some (.refused .processingError)

section gateway

variable (store : IngestionStore) (envelope : SubmittedEnvelope) (call : GatewayCall)

def settleIngestion (ingestionId signalId receiptId : String) (duplicate : Bool)
    (answer : InterventionAnswer) : IngestionStore × Option GatewayResult :=
  let receipt : GatewayResult := .accepted
    ⟨receiptId, some signalId, duplicate, .orchestrated answer.outcome, answer.processingState,
      call.now⟩
  if answer.processingState = .completed then
    match call.completion with
    | .stopsBefore => (store, call.stopped)
    | .stopsAfter =>
      (store.completeIngestion ingestionId signalId (.orchestrated answer.outcome), call.stopped)
    | .done =>
      (store.completeIngestion ingestionId signalId (.orchestrated answer.outcome), some receipt)
  else (store, some receipt)

def interveneAndSettle (ingestionId signalId receiptId : String) (duplicate : Bool) :
    IngestionStore × Option GatewayResult :=
  match store.intervene signalId envelope.tenantId call.now call.intervention with
  | (intervened, none) => (intervened, call.stopped)
  | (intervened, some answer) =>
    settleIngestion intervened call ingestionId signalId receiptId duplicate answer

/-- A duplicate resumes the intervention of the signal that its reservation names. -/
def resumeDuplicate (record : IngestionRecord) : IngestionStore × Option GatewayResult :=
  match record.signalId with
  | some signalId =>
    interveneAndSettle store envelope call record.id signalId record.receiptId true
  | none =>
    (store, some (.accepted
      ⟨record.receiptId, none, true, record.outcome, .completed, call.now⟩))

def createAndIntervene (ingestionId receiptId : String) : IngestionStore × Option GatewayResult :=
  if call.creation = .stopsBefore || (store.signals.find? call.signalId).isSome then
    (store, call.stopped)
  else
    let created := store.createSignal envelope call.signalId
    if call.creation = .stopsAfter then (created, call.stopped)
    else interveneAndSettle created envelope call ingestionId call.signalId receiptId false

def processSafetySignalIngestion : IngestionStore × Option GatewayResult :=
  match call.refusal with
  | some error => (store, some (.refused error))
  | none =>
    match store.reserveIngestion envelope call.ingestionId call.receiptId call.now
        call.reservation with
    | (_, .replay) => (store, some (.refused .replayDetected))
    | (_, .conflict) => (store, some (.refused .idempotencyConflict))
    | (reserved, .stopped) => (reserved, call.stopped)
    | (_, .duplicate record) => resumeDuplicate store envelope call record
    | (reserved, .reserved id receiptId) =>
      createAndIntervene reserved envelope call id receiptId

end gateway

end Tamanor.Web
