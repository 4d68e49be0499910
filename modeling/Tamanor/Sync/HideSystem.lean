import Tamanor.Library.CivilDate
import Tamanor.Library.Runs
import Tamanor.Sync.LiveActions

/-! Callers of `attemptFacebookHide` that share one table of executions. A call reads the
rows of its key, acts on the provider, and inserts one row at most; the unique index on
executed rows may refuse it. An ingest loads the safety context of its brand before. -/

set_option autoImplicit false

namespace Tamanor.Sync

open Ai Library

structure HideCall where
  cfg : LiveActionsConfig
  options : HideOptions
  ctx : HideContext
  transport : FacebookHideTransport
  executionId : String

def HideCall.env (call : HideCall) (existing : List ExecutionRow) (now : Nat → Int)
    (answer : InsertAnswer) : HideEnvironment where
  executions := existing
  now := now
  transport := call.transport
  insert _ _ := answer

def HideCall.attempt (call : HideCall) (existing : List ExecutionRow) (now : Nat → Int)
    (answer : InsertAnswer) : HideOutcome :=
  attemptFacebookHide (call.env existing now answer) call.cfg call.options call.ctx

def HideCall.insertion (call : HideCall) (existing : List ExecutionRow) (now : Nat → Int) :
    Option ExecutionRow :=
  (call.attempt existing now (.created call.executionId)).1.recorded.head?

/-- `platform_action_executions_executed_uq`: rows that may not both be executed. -/
def ExecutionRow.sharesIndex (row other : ExecutionRow) : Bool :=
  row.queueItemId.isSome && other.queueItemId == row.queueItemId &&
    other.actionType == row.actionType && other.trigger == row.trigger

variable (executions : List ExecutionRow)

def refusesInsert (row : ExecutionRow) : Bool :=
  row.status == .executed &&
    executions.any fun other => other.status == .executed && row.sharesIndex other

def findWinner (ctx : HideContext) : Option ExecutionRow :=
  executions.find? fun row => attemptWhere ctx row && row.status == .executed

def HideCall.perform (call : HideCall) (executions : List ExecutionRow) (now : Nat → Int) :
    HideOutcome :=
  match call.insertion executions now with
  | none => call.attempt executions now (.created call.executionId)
  | some row =>
    if refusesInsert executions row then
      call.attempt executions now (.uniqueViolation (findWinner executions call.ctx))
    else call.attempt executions now (.created call.executionId)

structure SafetySwitches where
  flags : SafetyFlags
  brandKillSwitch : Bool
  accountKillSwitch : Bool
  lastReview : Option Int

def isCounted (tenantId brandId : String) (during : Int → Bool) (row : ExecutionRow) : Bool :=
  row.tenantId == tenantId && row.brandId == brandId && row.status == .executed &&
    row.trigger == .autonomous && row.executedAt.any during

def hourMs : Int := 60 * 60 * 1000

def rollbackAvailable : Bool := true

def loadProductionSafetyContext (days : LocalDays) (settings : BrandSafetySettings)
    (switches : SafetySwitches) (executions : List ExecutionRow)
    (tenantId brandId category : String) (now : Int) : ProductionSafetyContext :=
  let today (time : Int) : Bool := decide (days.dayStart now ≤ time)
  let counted (during : Int → Bool) : List ExecutionRow :=
    executions.filter (isCounted tenantId brandId during)
  { flags := switches.flags
    brandKillSwitch := switches.brandKillSwitch
    accountKillSwitch := switches.accountKillSwitch
    settings := settings
    counts :=
      { dayCount := (counted today).length
        hourCount := (counted fun time => decide (now - hourMs ≤ time)).length
        categoryDayCount :=
          ((counted today).filter fun row => row.policyCategory == category).length
        consecutiveWithoutReview :=
          match switches.lastReview with
          | none =>
            (executions.filter fun row => row.tenantId == tenantId && row.brandId == brandId &&
              row.status == .executed && row.trigger == .autonomous).length
          | some reviewed => (counted fun time => decide (reviewed < time)).length }
    categoryApprovedBefore := settings.approvedAutoHideCategories.contains category
    rollbackAvailable := rollbackAvailable }

/-- A loaded context: when it was loaded, and how many autonomous hides of the brand there
had been by then. -/
structure HideLoad where
  loadedAt : Int
  hides : Nat

/-- Where a call stands: about to load its context, to act, to insert, or to look for the row
that won. -/
inductive HideStage where
  | ingesting (call : HideCall) (switches : SafetySwitches)
  | called (call : HideCall) (load : Option HideLoad)
  | acted (call : HideCall) (load : Option HideLoad) (existing : List ExecutionRow) (actedAt : Int)
  | refused (call : HideCall) (existing : List ExecutionRow) (now : Nat → Int)

structure HideReturn where
  call : HideCall
  existing : List ExecutionRow
  now : Nat → Int
  outcome : HideOutcome

structure HideSystem where
  executions : List ExecutionRow
  settings : String → BrandSafetySettings
  days : LocalDays
  clock : Int
  calls : Nat → Option HideStage
  returns : List HideReturn

def isAutonomousHide (tenantId brandId : String) (row : ExecutionRow) : Bool :=
  row.tenantId == tenantId && row.brandId == brandId && row.trigger == .autonomous &&
    (row.status == .executed || row.status == .rolledBack) &&
    row.reason != some "already_hidden"

def hideTimes (tenantId brandId : String) : List Int :=
  (executions.filter (isAutonomousHide tenantId brandId)).filterMap ExecutionRow.executedAt

def readings (actedAt recordedAt : Int) (reading : Nat) : Int :=
  if reading < 4 then actedAt else recordedAt

namespace HideSystem

def opened (executions : List ExecutionRow) (settings : String → BrandSafetySettings)
    (days : LocalDays) (clock : Int) : HideSystem where
  executions := executions
  settings := settings
  days := days
  clock := clock
  calls _ := none
  returns := []

variable (system : HideSystem)

def setCall (client : Nat) (stage : Option HideStage) : HideSystem :=
  { system with calls := Function.update system.calls client stage }

def finish (client : Nat) (call : HideCall) (existing : List ExecutionRow) (now : Nat → Int)
    (outcome : HideOutcome) : HideSystem :=
  { system.setCall client none with
    returns := system.returns ++ [⟨call, existing, now, outcome⟩] }

def load (call : HideCall) (switches : SafetySwitches) : HideCall :=
  { call with
    options :=
      { call.options with
        safety := some (loadProductionSafetyContext system.days (system.settings call.ctx.brandId)
          switches system.executions call.ctx.tenantId call.ctx.brandId call.ctx.matchedCategory
          system.clock) } }

def advance (client : Nat) : HideStage → HideSystem
  | .ingesting call switches =>
    system.setCall client (some (.called (system.load call switches)
      (some ⟨system.clock,
        (hideTimes system.executions call.ctx.tenantId call.ctx.brandId).length⟩)))
  | .called call load =>
    system.setCall client (some (.acted call load system.executions system.clock))
  | .acted call _ existing actedAt =>
    let now := readings actedAt system.clock
    match call.insertion existing now with
    | none =>
      system.finish client call existing now
        (call.attempt existing now (.created call.executionId))
    | some row =>
      if refusesInsert system.executions row then
        system.setCall client (some (.refused call existing now))
      else
        { system.finish client call existing now
            (call.attempt existing now (.created call.executionId)) with
          executions := row :: system.executions }
  | .refused call existing now =>
    system.finish client call existing now
      (call.attempt existing now (.uniqueViolation (findWinner system.executions call.ctx)))

end HideSystem

inductive HideStep where
  | call (client : Nat) (call : HideCall)
  | ingest (client : Nat) (call : HideCall) (switches : SafetySwitches)
  | advance (client : Nat)
  | tick (ms : Nat)

def HideSystem.step (system : HideSystem) : HideStep → HideSystem
  | .call client call =>
    match system.calls client with
    | some _ => system
    | none => system.setCall client (some (.called call none))
  | .ingest client call switches =>
    match system.calls client with
    | some _ => system
    | none =>
      system.setCall client (some (.ingesting
        { call with ctx := { call.ctx with trigger := .autonomous } } switches))
  | .advance client =>
    match system.calls client with
    | none => system
    | some stage => system.advance client stage
  | .tick ms => { system with clock := system.clock + ms }

inductive RollbackStatus where
  | rolledBack | dryRun | failed

structure RollbackResult where
  status : RollbackStatus
  reason : String

structure RollbackInput where
  tenantId : String
  executionId : String
  live : Bool

def RollbackInput.finds (input : RollbackInput) (row : ExecutionRow) : Bool :=
  row.id == input.executionId && row.tenantId == input.tenantId && row.status == .executed

/-- `rollbackHide`, with the answer of the provider to the unhide. -/
def rollbackHide (input : RollbackInput) (unhide : String → Option HideTransportResult)
    (executions : List ExecutionRow) : List ExecutionRow × Except HideFailure RollbackResult :=
  match executions.find? input.finds with
  | none => (executions, .ok ⟨.failed, "no_executed_row"⟩)
  | some row =>
    if !isSet row.externalCommentId then (executions, .ok ⟨.failed, "no_executed_row"⟩)
    else if !input.live then (executions, .ok ⟨.dryRun, "rollback_dry_run"⟩)
    else
      match unhide (row.externalCommentId.getD "") with
      | none => (executions, .error .transport)
      | some result =>
        if result.ok then
          (executions.map fun other =>
            if input.finds other then { other with status := .rolledBack } else other,
            .ok ⟨.rolledBack, "ok"⟩)
        else (executions, .ok ⟨.failed, result.errorCode.getD "rollback_failed"⟩)

/-- The runs of a brand: autonomous hides by ingests, approvals, and rollbacks. -/
inductive BrandStep where
  | ingest (client : Nat) (call : HideCall) (switches : SafetySwitches)
  | approve (client : Nat) (call : HideCall)
  | advance (client : Nat)
  | tick (ms : Nat)
  | rollback (input : RollbackInput) (unhide : String → Option HideTransportResult)

def HideSystem.brandStep (system : HideSystem) : BrandStep → HideSystem
  | .ingest client call switches => system.step (.ingest client call switches)
  | .approve client call =>
    system.step (.call client { call with ctx := { call.ctx with trigger := .approval } })
  | .advance client => system.step (.advance client)
  | .tick ms => system.step (.tick ms)
  | .rollback input unhide =>
    { system with executions := (rollbackHide input unhide system.executions).1 }

end Tamanor.Sync
