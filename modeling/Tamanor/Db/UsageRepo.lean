import Tamanor.Core.UsagePolicy
import Tamanor.Library.CivilDate
import Tamanor.Library.Table

/-! The usage metering repository (`usage-repo.ts`), as one tenant sees it through
row-level security. Every operation is one or two committed transactions; a
transaction that throws leaves the store as it was. Costs are integer micros. -/

set_option autoImplicit false

namespace Tamanor.Db

open Tamanor.Core Library

inductive UsageEventStatus where
  | reserved | succeeded | failed | released | denied | cached
deriving DecidableEq

inductive ProcessingTier where
  | rules | local | paid
deriving DecidableEq

/-- The row is known by its `periodStart`, which is unique within a tenant. -/
structure UsagePeriod where
  periodEnd : Int
  plan : String
  basicUnitsUsed : Int
  premiumCallsUsed : Int
  premiumCostMicros : Int

structure UsageEvent where
  usagePeriodId : Int
  reputationItemId : Option String
  contentItemId : Option String
  eventType : String
  processingTier : ProcessingTier
  provider : Option String
  modelKey : Option String
  units : Nat
  reservedCostMicros : Nat
  actualCostMicros : Option Nat
  inputTokens : Option Nat
  outputTokens : Option Nat
  idempotencyKey : String
  status : UsageEventStatus
  reason : Option String
  correlationId : String
  createdAt : Int

structure UsageStore where
  periods : Table Int UsagePeriod
  events : Table String UsageEvent

def UsageStore.empty : UsageStore := ⟨.empty, .empty⟩

structure FreshEvent where
  id : String
  correlationId : String
  createdAt : Int

structure EventRefs where
  reputationItemId : Option String
  contentItemId : Option String
  correlationId : Option String

variable (store : UsageStore)

def UsageStore.findByKey (idempotencyKey : String) : Option (String × UsageEvent) :=
  store.events.rows.find? fun row => row.2.idempotencyKey == idempotencyKey

def UsageStore.insertEvent (id : String) (event : UsageEvent) : UsageStore :=
  { store with events := store.events.insert id event }

/-- `UPDATE usage_periods … WHERE id = periodId` together with the write of one event. -/
def UsageStore.settle (periodId : Int) (adjust : UsagePeriod → UsagePeriod) (eventId : String)
    (rewrite : UsageEvent → UsageEvent) : UsageStore where
  periods := store.periods.modify periodId adjust
  events := store.events.modify eventId rewrite

def currentPeriodBounds (now : Int) : Int × Int := monthBounds now

/-- `INSERT … ON CONFLICT DO NOTHING`, then the row that is there. -/
def getOrCreateCurrentPeriod (plan : String) (now : Int) (store : UsageStore) : UsageStore :=
  let (periodStart, periodEnd) := currentPeriodBounds now
  { store with
    periods := store.periods.insert periodStart
      { periodEnd, plan, basicUnitsUsed := 0, premiumCallsUsed := 0, premiumCostMicros := 0 } }

inductive BasicTier where
  | rules | local

def BasicTier.processingTier : BasicTier → ProcessingTier
  | .rules => .rules
  | .local => .local

structure BasicArgs where
  idempotencyKey : String
  tier : BasicTier
  refs : EventRefs
  internalAccess : Bool

def withinLimit (limit : Option Nat) (wanted : Int) : Bool :=
  match limit with
  | none => true
  | some limit => decide (wanted ≤ limit)

structure BasicResult where
  consumed : Bool
  reused : Bool
  denied : Bool
  reason : Option String
  eventId : String

def basicEvent (args : BasicArgs) (periodId : Int) (fresh : FreshEvent) (eventType : String)
    (units : Nat) (status : UsageEventStatus) (reason : Option String) : UsageEvent where
  usagePeriodId := periodId
  reputationItemId := args.refs.reputationItemId
  contentItemId := args.refs.contentItemId
  eventType := eventType
  processingTier := args.tier.processingTier
  provider := none
  modelKey := none
  units := units
  reservedCostMicros := 0
  actualCostMicros := none
  inputTokens := none
  outputTokens := none
  idempotencyKey := args.idempotencyKey
  status := status
  reason := reason
  correlationId := args.refs.correlationId.getD fresh.correlationId
  createdAt := fresh.createdAt

/-- The second transaction of `consumeBasicUnit`; `none` if it throws. -/
def consumeBasicTx (policy : UsagePolicy) (args : BasicArgs) (periodId : Int)
    (fresh : FreshEvent) (store : UsageStore) : UsageStore × Option BasicResult :=
  match store.findByKey args.idempotencyKey with
  | some (id, _) =>
    (store, some { consumed := false, reused := true, denied := false, reason := none, eventId := id })
  | none =>
    match store.periods.find? periodId, store.events.find? fresh.id with
    | some period, none =>
      if withinLimit policy.basicUnitsPerPeriod (period.basicUnitsUsed + 1) then
        ({ store with
            periods := store.periods.modify periodId fun period =>
              { period with basicUnitsUsed := period.basicUnitsUsed + 1 } }.insertEvent fresh.id
            (basicEvent args periodId fresh "usage.basic_consumed" 1 .succeeded none),
          some { consumed := true, reused := false, denied := false, reason := none
                 eventId := fresh.id })
      else
        (store.insertEvent fresh.id
            (basicEvent args periodId fresh "usage.limit_reached" 0 .denied
              (some "basic_limit_reached")),
          some { consumed := false, reused := false, denied := true
                 reason := some "basic_limit_reached", eventId := fresh.id })
    | _, _ => (store, none)

def consumeBasicUnit (plan : String) (args : BasicArgs) (now : Int) (fresh : FreshEvent)
    (store : UsageStore) : UsageStore × Option BasicResult :=
  consumeBasicTx (resolveEffectiveUsagePolicy plan none args.internalAccess) args
    (currentPeriodBounds now).1 fresh (getOrCreateCurrentPeriod plan now store)

structure ReserveArgs where
  provider : String
  modelKey : String
  estMicros : Nat
  idempotencyKey : String
  refs : EventRefs
  internalAccess : Bool

inductive ReserveResult where
  | ok (eventId : String) (periodId : Int) (reused : Bool) (reservedCostMicros : Nat)
  | refused (reason : String) (eventId : String)

def premiumEvent (args : ReserveArgs) (periodId : Int) (fresh : FreshEvent) (eventType : String)
    (reservedCostMicros : Nat) (status : UsageEventStatus) (reason : Option String) :
    UsageEvent where
  usagePeriodId := periodId
  reputationItemId := args.refs.reputationItemId
  contentItemId := args.refs.contentItemId
  eventType := eventType
  processingTier := .paid
  provider := some args.provider
  modelKey := some args.modelKey
  units := 0
  reservedCostMicros := reservedCostMicros
  actualCostMicros := none
  inputTokens := none
  outputTokens := none
  idempotencyKey := args.idempotencyKey
  status := status
  reason := reason
  correlationId := args.refs.correlationId.getD fresh.correlationId
  createdAt := fresh.createdAt

def reserveReplay (id : String) (existing : UsageEvent) : ReserveResult :=
  if existing.status = .reserved ∨ existing.status = .succeeded then
    .ok id existing.usagePeriodId true existing.reservedCostMicros
  else .refused (existing.reason.getD "already_finalized") id

/-- The guards of the atomic update that takes a call and its estimated cost. -/
def reserveGuard (policy : UsagePolicy) (estMicros : Nat) (period : UsagePeriod) : Bool :=
  withinLimit policy.premiumCallsPerPeriod (period.premiumCallsUsed + 1) &&
    withinLimit policy.premiumCostLimitMicros (period.premiumCostMicros + estMicros)

def takeCall (estMicros : Nat) (period : UsagePeriod) : UsagePeriod :=
  { period with
    premiumCallsUsed := period.premiumCallsUsed + 1
    premiumCostMicros := period.premiumCostMicros + estMicros }

def refusalReason (policy : UsagePolicy) (period : UsagePeriod) : String :=
  if withinLimit policy.premiumCallsPerPeriod (period.premiumCallsUsed + 1) then
    "premium_cost_limit_reached"
  else "premium_call_limit_reached"

/-- The second transaction of `reserveOnce`; `none` if it throws. -/
def reserveTx (policy : UsagePolicy) (args : ReserveArgs) (periodId : Int) (fresh : FreshEvent)
    (store : UsageStore) : UsageStore × Option ReserveResult :=
  match store.findByKey args.idempotencyKey with
  | some (id, existing) => (store, some (reserveReplay id existing))
  | none =>
    match store.periods.find? periodId, store.events.find? fresh.id with
    | some period, none =>
      if reserveGuard policy args.estMicros period then
        ({ store with
            periods := store.periods.modify periodId (takeCall args.estMicros) }.insertEvent
            fresh.id (premiumEvent args periodId fresh "usage.premium_reserved" args.estMicros
              .reserved none),
          some (.ok fresh.id periodId false args.estMicros))
      else
        let reason := refusalReason policy period
        (store.insertEvent fresh.id
            (premiumEvent args periodId fresh "usage.denied" 0 .denied (some reason)),
          some (.refused reason fresh.id))
    | _, _ => (store, none)

def reservePremiumCall (plan : String) (args : ReserveArgs) (now : Int) (fresh : FreshEvent)
    (store : UsageStore) : UsageStore × Option ReserveResult :=
  let policy := resolveEffectiveUsagePolicy plan none args.internalAccess
  reserveTx policy args (currentPeriodBounds now).1 fresh
    (getOrCreateCurrentPeriod policy.plan.value now store)

/-! Settlement. The clamp is a parameter: `GREATEST(…, 0)` in the code. -/

def greatestZero (value : Int) : Int := max value 0

inductive FinalStatus where
  | succeeded | failed
deriving DecidableEq

def FinalStatus.eventStatus : FinalStatus → UsageEventStatus
  | .succeeded => .succeeded
  | .failed => .failed

structure FinalizeOutcome where
  status : FinalStatus
  actualCostMicros : Option Nat
  billed : Option Bool
  inputTokens : Option Nat
  outputTokens : Option Nat

def FinalizeOutcome.releases (outcome : FinalizeOutcome) : Bool :=
  outcome.status == .failed && outcome.billed != some true

def refundCall (clamp : Int → Int) (reservedCostMicros : Nat) (period : UsagePeriod) :
    UsagePeriod :=
  { period with
    premiumCallsUsed := clamp (period.premiumCallsUsed - 1)
    premiumCostMicros := clamp (period.premiumCostMicros - reservedCostMicros) }

def correctCost (clamp : Int → Int) (delta : Int) (period : UsagePeriod) : UsagePeriod :=
  if delta ≠ 0 then
    { period with premiumCostMicros := clamp (period.premiumCostMicros + delta) }
  else period

def releaseEvent (reason : Option String) (event : UsageEvent) : UsageEvent :=
  { event with
    status := .released
    eventType := "usage.premium_released"
    reason := match reason with
      | none => event.reason
      | some reason => some reason
    actualCostMicros := some 0 }

def finalizeEvent (outcome : FinalizeOutcome) (actual : Nat) (event : UsageEvent) : UsageEvent :=
  { event with
    status := outcome.status.eventStatus
    eventType := "usage.premium_finalized"
    units := 1
    actualCostMicros := some actual
    inputTokens := outcome.inputTokens
    outputTokens := outcome.outputTokens }

structure FinalizeResult where
  ok : Bool
  reason : Option String

def finalizePremiumCall (clamp : Int → Int) (eventId : String) (outcome : FinalizeOutcome)
    (store : UsageStore) : UsageStore × FinalizeResult :=
  match store.events.find? eventId with
  | none => (store, { ok := false, reason := some "not_found" })
  | some event =>
    if event.status ≠ .reserved then (store, { ok := true, reason := none })
    else if outcome.releases then
      (store.settle event.usagePeriodId (refundCall clamp event.reservedCostMicros) eventId
        (releaseEvent none), { ok := true, reason := none })
    else
      let actual := outcome.actualCostMicros.getD event.reservedCostMicros
      (store.settle event.usagePeriodId
        (correctCost clamp ((actual : Int) - event.reservedCostMicros)) eventId
        (finalizeEvent outcome actual), { ok := true, reason := none })

def unbilledFailure : FinalizeOutcome where
  status := .failed
  actualCostMicros := none
  billed := some false
  inputTokens := none
  outputTokens := none

def noteReason (eventId reason : String) (store : UsageStore) : UsageStore :=
  { store with events := store.events.modify eventId fun event => { event with reason := some reason } }

def releaseReservation (clamp : Int → Int) (eventId reason : String) (store : UsageStore) :
    UsageStore × Bool :=
  let (released, result) := finalizePremiumCall clamp eventId unbilledFailure store
  if result.ok then (noteReason eventId reason released, true) else (released, false)

/-- One iteration of the recovery sweep, with the columns read at its start. -/
def recoverOne (clamp : Int → Int) (store : UsageStore) (stale : String × UsageEvent) :
    UsageStore :=
  store.settle stale.2.usagePeriodId (refundCall clamp stale.2.reservedCostMicros) stale.1
    (releaseEvent (some "stale_reservation_recovered"))

def UsageStore.staleReservations (cutoff : Int) : List (String × UsageEvent) :=
  store.events.rows.filter fun row => row.2.status == .reserved && decide (row.2.createdAt < cutoff)

def recoverStaleReservations (clamp : Int → Int) (olderThanMs now : Int) (store : UsageStore) :
    UsageStore × Nat :=
  let stale := store.staleReservations (now - olderThanMs)
  (stale.foldl (recoverOne clamp) store, stale.length)

structure CacheHitArgs where
  idempotencyKey : String
  refs : EventRefs

def cacheHitEvent (args : CacheHitArgs) (periodId : Int) (fresh : FreshEvent) : UsageEvent where
  usagePeriodId := periodId
  reputationItemId := args.refs.reputationItemId
  contentItemId := args.refs.contentItemId
  eventType := "usage.cache_hit"
  processingTier := .rules
  provider := none
  modelKey := none
  units := 0
  reservedCostMicros := 0
  actualCostMicros := none
  inputTokens := none
  outputTokens := none
  idempotencyKey := args.idempotencyKey
  status := .cached
  reason := none
  correlationId := args.refs.correlationId.getD fresh.correlationId
  createdAt := fresh.createdAt

def recordCacheHitTx (args : CacheHitArgs) (periodId : Int) (fresh : FreshEvent)
    (store : UsageStore) : UsageStore :=
  match store.findByKey args.idempotencyKey, store.periods.find? periodId,
    store.events.find? fresh.id with
  | none, some _, none => store.insertEvent fresh.id (cacheHitEvent args periodId fresh)
  | _, _, _ => store

def recordCacheHit (args : CacheHitArgs) (plan : String) (now : Int) (fresh : FreshEvent)
    (store : UsageStore) : UsageStore :=
  recordCacheHitTx args (currentPeriodBounds now).1 fresh (getOrCreateCurrentPeriod plan now store)

inductive UsageCall where
  | getOrCreateCurrentPeriod (plan : String) (now : Int)
  | reserve (plan : String) (args : ReserveArgs) (periodId : Int) (fresh : FreshEvent)
  | finalize (eventId : String) (outcome : FinalizeOutcome)
  | noteReason (eventId reason : String)
  | recoverStale (olderThanMs now : Int)
  | consumeBasic (plan : String) (args : BasicArgs) (periodId : Int) (fresh : FreshEvent)
  | recordCacheHit (args : CacheHitArgs) (periodId : Int) (fresh : FreshEvent)

def UsageCall.apply (clamp : Int → Int) (store : UsageStore) : UsageCall → UsageStore
  | .getOrCreateCurrentPeriod plan now => Db.getOrCreateCurrentPeriod plan now store
  | .reserve plan args periodId fresh =>
    (reserveTx (resolveEffectiveUsagePolicy plan none args.internalAccess) args periodId fresh
      store).1
  | .finalize eventId outcome => (finalizePremiumCall clamp eventId outcome store).1
  | .noteReason eventId reason => Db.noteReason eventId reason store
  | .recoverStale olderThanMs now => (recoverStaleReservations clamp olderThanMs now store).1
  | .consumeBasic plan args periodId fresh =>
    (consumeBasicTx (resolveEffectiveUsagePolicy plan none args.internalAccess) args periodId
      fresh store).1
  | .recordCacheHit args periodId fresh => recordCacheHitTx args periodId fresh store

def runUsage (clamp : Int → Int) (calls : List UsageCall) : UsageStore :=
  calls.foldl (UsageCall.apply clamp) .empty

end Tamanor.Db
