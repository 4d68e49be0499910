import Tamanor.Core.Billing
import Tamanor.Library.Runs

/-! Durable Checkout reservations (`billing-repo.ts`). `reserveCheckoutAttempt` is a
transaction of several statements under an advisory lock of its tenant; the other calls
are single guarded updates. Any number of clients run them at once. -/

set_option autoImplicit false

namespace Tamanor.Db

open Tamanor.Core Library

inductive AttemptStatus where
  | creating | opened | completed | failed | expired
deriving DecidableEq

structure CheckoutAttempt where
  id : String
  tenantId : String
  status : AttemptStatus
  requestedPlan : String
  requestedInterval : String
  stripePriceId : String
  stripeCheckoutSessionId : Option String
  stripeCheckoutUrl : Option String
  stripeCheckoutUrlExpiresAt : Option Int
  idempotencyKey : String
  createdByUserId : Option String
  createdAt : Int
  expiresAt : Int
  completedAt : Option Int
  failedAt : Option Int
  failureCode : Option String

def CheckoutAttempt.isLive (attempt : CheckoutAttempt) : Bool :=
  attempt.status == .creating || attempt.status == .opened

/-- An `updateMany`: the rows it matches, what it writes at the time of the clock, and the
session id that it stores, which is unique. -/
structure AttemptUpdate where
  hits : CheckoutAttempt → Bool
  write : Int → CheckoutAttempt → CheckoutAttempt
  storesSession : Option String

def markCheckoutAttemptOpen (attemptId tenantId sessionId : String) (url : Option String)
    (sessionExpiresAt : Option Int) : AttemptUpdate where
  hits attempt :=
    attempt.id == attemptId && attempt.tenantId == tenantId && attempt.status == .creating
  write now attempt :=
    { attempt with
      status := .opened
      stripeCheckoutSessionId := some sessionId
      stripeCheckoutUrl := url
      stripeCheckoutUrlExpiresAt := sessionExpiresAt
      expiresAt := sessionExpiresAt.getD (now + 24 * 60 * 60 * 1000) }
  storesSession := some sessionId

def markCheckoutAttemptFailed (attemptId tenantId failureCode : String) : AttemptUpdate where
  hits attempt :=
    attempt.id == attemptId && attempt.tenantId == tenantId && attempt.status == .creating
  write now attempt :=
    { attempt with
      status := .failed
      failedAt := some now
      failureCode := some (String.ofList (failureCode.toList.take 64)) }
  storesSession := none

def retireAttempts (hits : CheckoutAttempt → Bool) (status : AttemptStatus)
    (completedAt : Int → Option Int → Option Int) : AttemptUpdate where
  hits attempt := hits attempt && attempt.isLive
  write now attempt := { attempt with status, completedAt := completedAt now attempt.completedAt }
  storesSession := none

def completeCheckoutAttemptBySession (sessionId : String) : AttemptUpdate :=
  retireAttempts (fun attempt => attempt.stripeCheckoutSessionId == some sessionId) .completed
    fun now _ => some now

def expireCheckoutAttemptBySession (sessionId : String) : AttemptUpdate :=
  retireAttempts (fun attempt => attempt.stripeCheckoutSessionId == some sessionId) .expired
    fun _ completedAt => completedAt

def completeLiveCheckoutAttemptsForTenant (tenantId : String) : AttemptUpdate :=
  retireAttempts (fun attempt => attempt.tenantId == tenantId) .completed fun now _ => some now

inductive AttemptCall where
  | markCheckoutAttemptOpen (attemptId tenantId sessionId : String) (url : Option String)
      (sessionExpiresAt : Option Int)
  | markCheckoutAttemptFailed (attemptId tenantId failureCode : String)
  | completeCheckoutAttemptBySession (sessionId : String)
  | expireCheckoutAttemptBySession (sessionId : String)
  | completeLiveCheckoutAttemptsForTenant (tenantId : String)

def AttemptCall.update : AttemptCall → AttemptUpdate
  | .markCheckoutAttemptOpen attemptId tenantId sessionId url sessionExpiresAt =>
    Db.markCheckoutAttemptOpen attemptId tenantId sessionId url sessionExpiresAt
  | .markCheckoutAttemptFailed attemptId tenantId failureCode =>
    Db.markCheckoutAttemptFailed attemptId tenantId failureCode
  | .completeCheckoutAttemptBySession sessionId => Db.completeCheckoutAttemptBySession sessionId
  | .expireCheckoutAttemptBySession sessionId => Db.expireCheckoutAttemptBySession sessionId
  | .completeLiveCheckoutAttemptsForTenant tenantId =>
    Db.completeLiveCheckoutAttemptsForTenant tenantId

structure ReserveCheckoutInput where
  tenantId : String
  userId : Option String
  plan : String
  interval : String
  priceId : String
  creatingTtlMs : Option Int
  now : Option Int

inductive ReserveCheckoutResult where
  | blocked (reason : CheckoutGuardReason)
  | existing (attemptId : String) (samePlan : Bool) (url : Option String) (idempotencyKey : String)
  | reserved (attemptId idempotencyKey priceId : String)
deriving DecidableEq

def defaultCreatingTtlMs : Int := 3 * 60 * 1000

/-- A call with its reading of the clock, and with the random id and the random UUID that
it would draw. -/
structure ReserveCall where
  input : ReserveCheckoutInput
  now : Int
  attemptId : String
  uuid : String

/-- Where the transaction stands. `expired` are the rows that it has updated. -/
inductive ReserveStage where
  | called (call : ReserveCall)
  | locked (call : ReserveCall)
  | guarded (call : ReserveCall)
  | swept (call : ReserveCall) (expired : List String)
  | vacant (call : ReserveCall) (expired : List String)
  | inserted (call : ReserveCall) (expired : List String) (attempt : CheckoutAttempt)

def ReserveStage.call : ReserveStage → ReserveCall
  | .called call | .locked call | .guarded call | .swept call _ | .vacant call _
  | .inserted call _ _ => call

def ReserveStage.tenantId (stage : ReserveStage) : String := stage.call.input.tenantId

def ReserveStage.expired : ReserveStage → List String
  | .swept _ expired | .vacant _ expired | .inserted _ expired _ => expired
  | _ => []

structure ReserveReply where
  tenantId : String
  result : ReserveCheckoutResult
  clock : Int
deriving DecidableEq

/-- `attempts` are the committed rows. A lock names the client that holds it; `inserting`
are the rows that transactions in flight have inserted. -/
structure CheckoutSystem where
  attempts : List CheckoutAttempt
  subscriptions : String → Option CheckoutGuardSubscription
  clock : Int
  sessions : Nat → Option ReserveStage
  advisoryLocks : String → Option Nat
  rowLocks : String → Option Nat
  inserting : List (Nat × CheckoutAttempt)
  replies : List ReserveReply

def CheckoutSystem.opened (attempts : List CheckoutAttempt)
    (subscriptions : String → Option CheckoutGuardSubscription) (clock : Int) : CheckoutSystem where
  attempts := attempts
  subscriptions := subscriptions
  clock := clock
  sessions _ := none
  advisoryLocks _ := none
  rowLocks _ := none
  inserting := []
  replies := []

def ReserveCall.isStale (call : ReserveCall) (attempt : CheckoutAttempt) : Bool :=
  attempt.tenantId == call.input.tenantId && attempt.isLive && decide (attempt.expiresAt < call.now)

def CheckoutAttempt.expire (attempt : CheckoutAttempt) : CheckoutAttempt :=
  { attempt with status := .expired, failedAt := none }

def isOccupying (tenantId : String) (expired : List String) (attempt : CheckoutAttempt) : Bool :=
  attempt.tenantId == tenantId && attempt.isLive && !expired.contains attempt.id

def findLiveAttempt (attempts : List CheckoutAttempt) (tenantId : String) (expired : List String) :
    Option CheckoutAttempt :=
  ((attempts.filter (isOccupying tenantId expired)).mergeSort
    fun first second => decide (second.createdAt ≤ first.createdAt)).head?

def ReserveCall.existing (call : ReserveCall) (live : CheckoutAttempt) : ReserveCheckoutResult :=
  let samePlan :=
    live.requestedPlan == call.input.plan && live.requestedInterval == call.input.interval
  let hasUrl :=
    match live.stripeCheckoutUrl with
    | none => false
    | some url => url != ""
  let unexpired :=
    match live.stripeCheckoutUrlExpiresAt with
    | none => true
    | some time => decide (call.now < time)
  let urlUsable := live.status == .opened && hasUrl && unexpired
  .existing live.id samePlan (if urlUsable then live.stripeCheckoutUrl else none) live.idempotencyKey

def ReserveCall.attempt (call : ReserveCall) (clock : Int) : CheckoutAttempt where
  id := call.attemptId
  tenantId := call.input.tenantId
  status := .creating
  requestedPlan := call.input.plan
  requestedInterval := call.input.interval
  stripePriceId := call.input.priceId
  stripeCheckoutSessionId := none
  stripeCheckoutUrl := none
  stripeCheckoutUrlExpiresAt := none
  idempotencyKey := "checkout_attempt:" ++ call.uuid
  createdByUserId := call.input.userId
  createdAt := clock
  expiresAt := call.now + call.input.creatingTtlMs.getD defaultCreatingTtlMs
  completedAt := none
  failedAt := none
  failureCode := none

/-- Two rows that no unique index lets stand next to each other, whatever their status. -/
def sharesKey (first second : CheckoutAttempt) : Bool :=
  first.id == second.id || first.idempotencyKey == second.idempotencyKey

namespace CheckoutSystem

variable (system : CheckoutSystem)

def setSession (client : Nat) (stage : Option ReserveStage) : CheckoutSystem :=
  { system with sessions := Function.update system.sessions client stage }

def close (client : Nat) : CheckoutSystem :=
  { system with
    sessions := Function.update system.sessions client none
    advisoryLocks := fun tenantId =>
      if system.advisoryLocks tenantId = some client then none else system.advisoryLocks tenantId
    rowLocks := fun id => if system.rowLocks id = some client then none else system.rowLocks id
    inserting := system.inserting.filter fun entry => entry.1 != client }

def commit (client : Nat) (stage : ReserveStage) (created : List CheckoutAttempt)
    (result : ReserveCheckoutResult) : CheckoutSystem :=
  { system.close client with
    attempts :=
      (system.attempts.map fun attempt =>
        if stage.expired.contains attempt.id then attempt.expire else attempt) ++ created
    replies := system.replies ++ [⟨stage.tenantId, result, system.clock⟩] }

def advance (client : Nat) (stage : ReserveStage) : CheckoutSystem :=
  match stage with
  | .called call =>
    match system.advisoryLocks call.input.tenantId with
    | some _ => system
    | none =>
      { system.setSession client (some (.locked call)) with
        advisoryLocks :=
          Function.update system.advisoryLocks call.input.tenantId (some client) }
  | .locked call =>
    match evaluateCheckoutGuard (system.subscriptions call.input.tenantId) system.clock with
    | .blocked reason => system.commit client stage [] (.blocked reason)
    | .allowed => system.setSession client (some (.guarded call))
  | .guarded call =>
    let stale := system.attempts.filter call.isStale
    if stale.any fun attempt => (system.rowLocks attempt.id).isSome then system
    else
      let expired := stale.map CheckoutAttempt.id
      { system.setSession client (some (.swept call expired)) with
        rowLocks := fun id => if expired.contains id then some client else system.rowLocks id }
  | .swept call expired =>
    match findLiveAttempt system.attempts call.input.tenantId expired with
    | some live => system.commit client stage [] (call.existing live)
    | none => system.setSession client (some (.vacant call expired))
  | .vacant call expired =>
    let attempt := call.attempt system.clock
    -- The unique indexes: another transaction's row has to be waited for, a committed one throws.
    if system.inserting.any fun entry =>
        sharesKey entry.2 attempt || entry.2.tenantId == attempt.tenantId then system
    else if system.attempts.any fun other =>
        sharesKey other attempt || isOccupying call.input.tenantId expired other then
      system.close client
    else
      { system.setSession client (some (.inserted call expired attempt)) with
        inserting := system.inserting ++ [(client, attempt)] }
  | .inserted call _ attempt =>
    system.commit client stage [attempt]
      (.reserved attempt.id attempt.idempotencyKey call.input.priceId)

/-- A single update waits if a row that it matches is locked; it throws if its session id is
another row's. -/
def exec (update : AttemptUpdate) : CheckoutSystem :=
  let waits := system.attempts.any fun attempt =>
    update.hits attempt && (system.rowLocks attempt.id).isSome
  let violates := update.storesSession.isSome && system.attempts.any update.hits &&
    system.attempts.any fun attempt =>
      !update.hits attempt && attempt.stripeCheckoutSessionId == update.storesSession
  if waits || violates then system
  else
    { system with
      attempts := system.attempts.map fun attempt =>
        if update.hits attempt then update.write system.clock attempt else attempt }

end CheckoutSystem

inductive CheckoutStep where
  | reserve (client : Nat) (input : ReserveCheckoutInput) (attemptId uuid : String)
  | advance (client : Nat)
  | crash (client : Nat)
  | update (call : AttemptCall)
  | tick (ms : Nat)

def CheckoutSystem.step (system : CheckoutSystem) : CheckoutStep → CheckoutSystem
  | .reserve client input attemptId uuid =>
    match system.sessions client with
    | some _ => system
    | none =>
      system.setSession client
        (some (.called ⟨input, input.now.getD system.clock, attemptId, uuid⟩))
  | .advance client =>
    match system.sessions client with
    | none => system
    | some stage => system.advance client stage
  | .crash client => system.close client
  | .update call => system.exec call.update
  | .tick ms => { system with clock := system.clock + ms }

def CheckoutSystem.run (system : CheckoutSystem) (steps : List CheckoutStep) : CheckoutSystem :=
  Runs.run CheckoutSystem.step system steps

end Tamanor.Db
