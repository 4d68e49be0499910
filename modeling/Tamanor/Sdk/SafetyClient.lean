import Tamanor.Library.Table

/-! The queue of the child-safety client (`client.ts` of the SDK): enqueuing and flushing, which
is suspended at each call of the transport. JavaScript runs what lies between two suspensions
without interruption. Arrays and queued envelopes are shared by reference: a flush goes through
the array that was the queue when it began, and makes its survivors the queue at its end. -/

set_option autoImplicit false

namespace Tamanor.Sdk

open Library

inductive SdkFailureClass where
  | none | config | classifierUnavailable | network | timeout | aborted | rejected | rateLimited
  | serverError
deriving DecidableEq

inductive TransportState where
  | idle | sending | error
deriving DecidableEq

/-- The configuration, with the number that the first four hexadecimal digits of the SHA-256
digest of a key are. -/
structure SdkConfig where
  maxRetries : Nat
  maxQueueSize : Nat
  retryBaseMs : Nat
  digest : String → Nat
  positive : 0 < maxQueueSize

/-- A queued envelope, which its event id, the idempotency key, stands for. -/
structure QueuedEnvelope where
  attempts : Nat
  nextAttemptAt : Int

/-- The loop of a flush: the array that it goes through and how far it has come. -/
structure FlushLoop where
  array : Nat
  next : Nat
  survivors : List String
  now : Int
  sent : Nat
  failed : Nat

structure FlushResult where
  sent : Nat
  failed : Nat
  remaining : Nat

/-- The state of a client, with the flushes that are suspended, each at the envelope that it
transmits. The last four lists tell what has become of envelopes. -/
structure SafetyClient where
  items : Table String QueuedEnvelope
  arrays : List (List String)
  queue : Nat
  transportState : TransportState
  lastSuccessAt : Option Int
  lastFailureClass : SdkFailureClass
  flushes : List (Nat × FlushLoop × String)
  results : List (Nat × FlushResult)
  transmitted : List String
  acknowledged : List String
  reported : List String
  evicted : List String

/-- What a call of the transport ends with: a response, with its status and whether it has a
JSON body, or an error. -/
inductive TransportOutcome where
  | response (status : Nat) (json : Bool)
  | failed (failure : Option String)

namespace TransportOutcome

def isSuccess : TransportOutcome → Bool
  | .response status _ => decide (200 ≤ status) && decide (status < 300)
  | .failed _ => false

def receipt : TransportOutcome → Bool
  | .response status json => isSuccess (.response status json) && json
  | .failed _ => false

def failure : TransportOutcome → SdkFailureClass
  | .response status json =>
    if isSuccess (.response status json) then .none
    else if status = 429 then .rateLimited
    else if 500 ≤ status then .serverError
    else .rejected
  | .failed failure =>
    if failure = some "timeout" then .timeout
    else if failure = some "aborted" then .aborted
    else .network

end TransportOutcome

def SdkFailureClass.retryable (failure : SdkFailureClass) : Bool :=
  failure == .network || failure == .timeout || failure == .rateLimited || failure == .serverError

inductive ClientAction where
  /-- The envelopes that one call enqueues, without a suspension. -/
  | enqueue (ids : List String)
  | classifierFailed
  | flush (call : Nat) (now : Int) (aborted : Bool)
  | resume (call : Nat) (outcome : TransportOutcome) (aborted : Bool)

def SafetyClient.new : SafetyClient where
  items := .empty
  arrays := [[]]
  queue := 0
  transportState := .idle
  lastSuccessAt := none
  lastFailureClass := .none
  flushes := []
  results := []
  transmitted := []
  acknowledged := []
  reported := []
  evicted := []

namespace SafetyClient

variable (config : SdkConfig) (client : SafetyClient)

def queued : List String := client.arrays.getD client.queue []

/-- An event id is a new UUID. The oldest envelopes make room for the newest. -/
def enqueue (id : String) : SafetyClient :=
  if (client.items.find? id).isSome then client
  else
    let pushed := client.queued ++ [id]
    let excess := pushed.length - config.maxQueueSize
    { client with
      items := client.items.insert id ⟨0, 0⟩
      arrays := client.arrays.set client.queue (pushed.drop excess)
      evicted := client.evicted ++ pushed.take excess }

def boundedJitter (id : String) : Nat := config.digest id % 250

def backoff (attempts : Nat) (id : String) : Nat :=
  min 30000 (config.retryBaseMs * 2 ^ (attempts - 1)) + boundedJitter config id

def leaves (aborted : Bool) (now : Int) (id : String) : Bool :=
  aborted || (client.items.find? id).any fun item => decide (now < item.nextAttemptAt)

def scan (aborted : Bool) (loop : FlushLoop) : List String → FlushLoop × Option String
  | [] => (loop, none)
  | id :: rest =>
    if client.leaves aborted loop.now id then
      scan aborted { loop with next := loop.next + 1, survivors := loop.survivors ++ [id] } rest
    else ({ loop with next := loop.next + 1 }, some id)

def suspended (call : Nat) (loop : FlushLoop) (item : String) : SafetyClient :=
  { client with
    flushes := client.flushes.filter (fun flush => flush.1 != call) ++ [(call, loop, item)]
    transmitted := client.transmitted ++ [item] }

def finished (call : Nat) (loop : FlushLoop) : SafetyClient :=
  { client with
    arrays := client.arrays ++ [loop.survivors]
    queue := client.arrays.length
    transportState := if client.lastFailureClass = .none then .idle else .error
    flushes := client.flushes.filter fun flush => flush.1 != call
    results := client.results ++ [(call, ⟨loop.sent, loop.failed, loop.survivors.length⟩)] }

def proceed (call : Nat) (loop : FlushLoop) (aborted : Bool) : SafetyClient :=
  match client.scan aborted loop ((client.arrays.getD loop.array []).drop loop.next) with
  | (loop, some item) => client.suspended call loop item
  | (loop, none) => client.finished call loop

def flush (call : Nat) (now : Int) (aborted : Bool) : SafetyClient :=
  if (client.flushes.lookup call).isSome then client
  else
    proceed { client with transportState := .sending } call ⟨client.queue, 0, [], now, 0, 0⟩
      aborted

def resume (call : Nat) (outcome : TransportOutcome) (aborted : Bool) : SafetyClient :=
  match client.flushes.lookup call with
  | none => client
  | some (loop, item) =>
    let client := { client with
      acknowledged :=
        if outcome.isSuccess then client.acknowledged ++ [item] else client.acknowledged }
    if outcome.receipt then
      proceed { client with lastSuccessAt := some loop.now, lastFailureClass := .none } call
        { loop with sent := loop.sent + 1 } aborted
    else
      let attempts := ((client.items.find? item).map (·.attempts)).getD 0 + 1
      let client := { client with lastFailureClass := outcome.failure }
      let loop := { loop with failed := loop.failed + 1 }
      if outcome.failure.retryable = false ∨ config.maxRetries < attempts then
        proceed
          { client with
            items := client.items.modify item fun envelope => { envelope with attempts }
            reported := client.reported ++ [item] }
          call loop aborted
      else
        proceed
          { client with
            items := client.items.modify item fun _ =>
              ⟨attempts, loop.now + (backoff config attempts item : Int)⟩ }
          call { loop with survivors := loop.survivors ++ [item] } aborted

def step : ClientAction → SafetyClient
  | .enqueue ids => ids.foldl (fun client id => client.enqueue config id) client
  | .classifierFailed => { client with lastFailureClass := .classifierUnavailable }
  | .flush call now aborted => client.flush call now aborted
  | .resume call outcome aborted => client.resume config call outcome aborted

end SafetyClient

end Tamanor.Sdk
