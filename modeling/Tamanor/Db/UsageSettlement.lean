import Tamanor.Db.UsageRepo
import Tamanor.Library.ReadCommitted

/-! Settlement of reservations, statement by statement. `finalizePremiumCall`,
`recoverStaleReservations` and the second half of `releaseReservation` run in
transactions of their own (`withTenantDb`), which may interleave. -/

set_option autoImplicit false

namespace Tamanor.Db

open Library Library.ReadCommitted

inductive UsageKey where
  | period (id : Int)
  | event (id : String)
deriving DecidableEq

abbrev UsageRow : UsageKey → Type
  | .period _ => UsagePeriod
  | .event _ => UsageEvent

def UsageStore.rows (store : UsageStore) : (key : UsageKey) → Option (UsageRow key)
  | .period id => store.periods.find? id
  | .event id => store.events.find? id

inductive Manner where
  | release (reason : Option String)
  | finalize (outcome : FinalizeOutcome) (actual : Nat)

structure Settlement where
  eventId : String
  usagePeriodId : Int
  reservedCostMicros : Nat
  manner : Manner

namespace Settlement

def adjust (clamp : Int → Int) (item : Settlement) : UsagePeriod → UsagePeriod :=
  match item.manner with
  | .release _ => refundCall clamp item.reservedCostMicros
  | .finalize _ actual => correctCost clamp ((actual : Int) - item.reservedCostMicros)

def rewrite (item : Settlement) : UsageEvent → UsageEvent :=
  match item.manner with
  | .release reason => releaseEvent reason
  | .finalize outcome actual => finalizeEvent outcome actual

def adjusts (item : Settlement) : Bool :=
  match item.manner with
  | .release _ => true
  | .finalize _ actual => (actual : Int) - item.reservedCostMicros != 0

def callsChange (item : Settlement) : Int :=
  match item.manner with
  | .release _ => -1
  | .finalize _ _ => 0

def costChange (item : Settlement) : Int :=
  match item.manner with
  | .release _ => -item.reservedCostMicros
  | .finalize _ actual => actual - item.reservedCostMicros

end Settlement

inductive UsageCommand where
  | adjust (item : Settlement)
  | mark (item : Settlement)
  | note (eventId reason : String)

def UsageCommand.target : UsageCommand → UsageKey
  | .adjust item => .period item.usagePeriodId
  | .mark item => .event item.eventId
  | .note eventId _ => .event eventId

def UsageCommand.effect : UsageCommand → (key : UsageKey) → UsageRow key → UsageRow key
  | .adjust item, .period _ => item.adjust greatestZero
  | .mark item, .event _ => item.rewrite
  | .note _ reason, .event _ => fun event => { event with reason := some reason }
  | _, _ => id

/-- The transactions. `recover` reads the stale rows in the order of `scan`, each at
most once. -/
inductive SettlementCall where
  | finalize (eventId : String) (outcome : FinalizeOutcome)
  | recover (cutoff : Int) (scan : List String)
  | noteReason (eventId reason : String)

inductive Stage where
  | called (call : SettlementCall)
  | settling (items : List Settlement)
  | marking (item : Settlement) (rest : List Settlement)

def settlementOf (eventId : String) (outcome : FinalizeOutcome) (event : UsageEvent) :
    Settlement where
  eventId := eventId
  usagePeriodId := event.usagePeriodId
  reservedCostMicros := event.reservedCostMicros
  manner :=
    if outcome.releases then .release none
    else .finalize outcome (outcome.actualCostMicros.getD event.reservedCostMicros)

def recoveryOf (eventId : String) (event : UsageEvent) : Settlement where
  eventId := eventId
  usagePeriodId := event.usagePeriodId
  reservedCostMicros := event.reservedCostMicros
  manner := .release (some "stale_reservation_recovered")

abbrev UsageView := (key : UsageKey) → Option (UsageRow key)

def finalizable (eventId : String) (outcome : FinalizeOutcome) (view : UsageView) :
    List Settlement :=
  match view (.event eventId) with
  | none => []
  | some event =>
    if event.status ≠ .reserved then [] else [settlementOf eventId outcome event]

def stale (cutoff : Int) (scan : List String) (view : UsageView) : List Settlement :=
  scan.dedup.filterMap fun eventId =>
    match view (.event eventId) with
    | none => none
    | some event =>
      if event.status = .reserved ∧ event.createdAt < cutoff then
        some (recoveryOf eventId event)
      else none

/-- The next statement of a transaction. A Prisma `update` that finds no row throws. -/
def Stage.next (stage : Stage) (view : UsageView) : Statement UsageCommand Stage :=
  match stage with
  | .called (.finalize eventId outcome) =>
    .proceed (.settling (finalizable eventId outcome view))
  | .called (.recover cutoff scan) => .proceed (.settling (stale cutoff scan view))
  | .called (.noteReason eventId reason) => .update (.note eventId reason) 0 (.settling [])
  | .settling [] => .commit
  | .settling (item :: rest) =>
    if item.adjusts then .update (.adjust item) 0 (.marking item rest)
    else .proceed (.marking item rest)
  | .marking item rest =>
    match view (.event item.eventId) with
    | none => .rollback
    | some _ => .update (.mark item) 0 (.settling rest)

def settlementSystem : System UsageKey UsageRow UsageCommand Stage SettlementCall where
  target := UsageCommand.target
  effect := UsageCommand.effect
  enter := .called
  next stage view _ := stage.next view

abbrev UsageDatabase := Database UsageKey UsageRow UsageCommand Stage Nat

abbrev UsageAction := Action SettlementCall Nat

def settle (store : UsageStore) (actions : List UsageAction) : UsageDatabase :=
  (Database.opened store.rows 0).run settlementSystem actions

def settlements (log : List UsageCommand) : List Settlement :=
  log.filterMap fun command =>
    match command with
    | .mark item => some item
    | _ => none

def adjustments (log : List UsageCommand) : List Settlement :=
  log.filterMap fun command =>
    match command with
    | .adjust item => some item
    | _ => none

end Tamanor.Db
