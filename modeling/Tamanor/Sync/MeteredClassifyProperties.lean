import Tamanor.Sync.MeteredClassify

/-! The protocol of a paid call: what it reserves, what it gives back, and in which
order, for every outcome of its steps. -/

set_option autoImplicit false

namespace Tamanor.Sync

open Tamanor.Core Tamanor.Db Ai Library

def paidCost (ctx : MeteredCtx) (cfg : HybridConfig) (paid : HybridResult) : Nat :=
  match paid.aiUsage with
  | some usage =>
    actualCostMicros (paidProvider cfg) (modelKeyOf cfg) usage.inputTokens usage.outputTokens
  | none =>
    estimateCostMicros (paidProvider cfg) (modelKeyOf cfg)
      (effectivePolicy ctx).maxInputTokensPerCall (effectivePolicy ctx).maxOutputTokensPerCall

/-- The provider is called only after both reservations, and a slot that was taken is
given back once. -/
structure StepsOrdered (steps : List MeteredStep) : Prop where
  reserved : ∀ {before after}, steps = before ++ .providerCalled :: after →
    .globalReserved ∈ before ∧ ∃ eventId, .tenantReserved eventId ∈ before
  slot : steps.count .slotReleased = steps.count .slotAcquired
  once : steps.count .slotAcquired ≤ 1

/-- What happened to the usage events of the tenant: those that existed are as they
were, and a reservation made by the call is settled. -/
structure ReservationSettled (before after : UsageStore) (status : ProcessingStatus) : Prop where
  kept : ∀ {eventId event}, before.events.find? eventId = some event →
    after.events.find? eventId = some event
  created : ∀ {eventId event}, after.events.find? eventId = some event →
    before.events.find? eventId = none → event.processingTier = .paid →
      event.status = .succeeded ∧ status = .processedPaid ∨
      event.status = .released ∧ status ≠ .processedPaid ∨
      event.status = .denied ∧ status = .premiumLimitReached
  charged : status = .processedPaid → ∃ eventId event, before.events.find? eventId = none ∧
    after.events.find? eventId = some event ∧ event.processingTier = .paid ∧
    event.status = .succeeded

structure PaidProtocol (env : MeteredEnv) (ctx : MeteredCtx) (cfg : HybridConfig)
    (before : MeteredWorld) (outcome : MeteredWorld × Option MeteredResult) : Prop where
  steps : ∃ steps, outcome.1.trace = before.trace ++ steps ∧ StepsOrdered steps
  inFlight : outcome.1.guard.inFlight = before.guard.inFlight
  global : ∀ {result}, outcome.2 = some result → ∀ key,
    globalUsage outcome.1.global key =
      if key = (dayStart env.now, paidProvider cfg) ∧ result.processingStatus = .processedPaid then
        { callsUsed := (globalUsage before.global key).callsUsed + 1
          costMicros := (globalUsage before.global key).costMicros +
            paidCost ctx cfg result.toHybridResult }
      else globalUsage before.global key
  tenant : ∀ {result}, outcome.2 = some result →
    ReservationSettled before.usage outcome.1.usage result.processingStatus

section Events

variable {store : UsageStore}

def ReserveEvents (before : Table String UsageEvent) (freshId : String)
    (outcome : UsageStore × Option ReserveResult) : Prop :=
  match outcome.2 with
  | none => outcome.1.events = before
  | some (.ok _ _ true _) => outcome.1.events = before
  | some (.refused _ _) =>
    outcome.1.events = before ∨ before.find? freshId = none ∧ ∃ event, event.status = .denied ∧
      outcome.1.events = before.insert freshId event
  | some (.ok eventId _ false _) =>
    before.find? eventId = none ∧ ∃ event, event.status = .reserved ∧
      event.processingTier = .paid ∧ outcome.1.events = before.insert eventId event

theorem reserveTx_events (policy : UsagePolicy) (args : ReserveArgs) (periodId : Int)
    (fresh : FreshEvent) (store : UsageStore) :
    ReserveEvents store.events fresh.id (reserveTx policy args periodId fresh store) := by
  unfold reserveTx
  cases known : store.findByKey args.idempotencyKey with
  | some row =>
    obtain ⟨id, existing⟩ := row
    dsimp only [reserveReplay]
    split_ifs
    · exact rfl
    · exact .inl rfl
  | none =>
    cases there : store.periods.find? periodId with
    | none => rfl
    | some period =>
      cases taken : store.events.find? fresh.id with
      | some event => rfl
      | none =>
        dsimp only
        split_ifs
        · exact ⟨taken, _, rfl, rfl, rfl⟩
        · exact .inr ⟨taken, _, rfl, rfl⟩

variable {eventId : String} {event : UsageEvent}

theorem settle_find? (found : store.events.find? eventId = some event) (periodId : Int)
    (adjust : UsagePeriod → UsagePeriod) (rewrite : UsageEvent → UsageEvent) (otherId : String) :
    (store.settle periodId adjust eventId rewrite).events.find? otherId =
      if otherId = eventId then some (rewrite event) else store.events.find? otherId := by
  simp only [UsageStore.settle]
  rw [Table.find?_modify]
  split
  next same =>
    rw [same, found]
    rfl
  next => rfl

theorem finalizePremiumCall_find? (clamp : Int → Int)
    (found : store.events.find? eventId = some event) (reserved : event.status = .reserved)
    (outcome : FinalizeOutcome) :
    ∃ settled, settled.processingTier = event.processingTier ∧
      settled.status = (if outcome.releases then .released else outcome.status.eventStatus) ∧
      ∀ otherId, (finalizePremiumCall clamp eventId outcome store).1.events.find? otherId =
        if otherId = eventId then some settled else store.events.find? otherId := by
  unfold finalizePremiumCall
  rw [found]
  dsimp only
  rw [if_neg (not_not.mpr reserved)]
  by_cases releases : outcome.releases = true
  · rw [if_pos releases, if_pos releases]
    exact ⟨releaseEvent none event, rfl, rfl, settle_find? found _ _ _⟩
  · rw [if_neg releases, if_neg releases]
    exact ⟨finalizeEvent outcome (outcome.actualCostMicros.getD event.reservedCostMicros) event,
      rfl, rfl, settle_find? found _ _ _⟩

theorem releaseReservation_find? (clamp : Int → Int)
    (found : store.events.find? eventId = some event) (reserved : event.status = .reserved)
    (reason : String) :
    ∃ settled, settled.processingTier = event.processingTier ∧ settled.status = .released ∧
      ∀ otherId, (releaseReservation clamp eventId reason store).1.events.find? otherId =
        if otherId = eventId then some settled else store.events.find? otherId := by
  obtain ⟨settled, tier, status, events⟩ :=
    finalizePremiumCall_find? clamp found reserved unbilledFailure
  have ok : (finalizePremiumCall clamp eventId unbilledFailure store).2.ok = true := by
    unfold finalizePremiumCall
    rw [found]
    dsimp only
    split_ifs <;> rfl
  refine ⟨{ settled with reason := some reason }, tier, status, ?_⟩
  intro otherId
  unfold releaseReservation
  dsimp only
  rw [if_pos ok]
  simp only [noteReason]
  rw [Table.find?_modify, events]
  split <;> rfl

theorem ReservationSettled.unchanged {before after : UsageStore} {status : ProcessingStatus}
    (same : after.events = before.events) (free : status ≠ .processedPaid) :
    ReservationSettled before after status where
  kept found := by rwa [same]
  created found absent := by
    rw [same, absent] at found
    cases found
  charged paid := absurd paid free

theorem ReservationSettled.settled {before after : UsageStore} {status : ProcessingStatus}
    (event : UsageEvent) (absent : before.events.find? eventId = none)
    (events : ∀ otherId, after.events.find? otherId =
      if otherId = eventId then some event else before.events.find? otherId)
    (state : event.status = .succeeded ∧ status = .processedPaid ∧ event.processingTier = .paid ∨
      event.status = .released ∧ status ≠ .processedPaid ∨
      event.status = .denied ∧ status = .premiumLimitReached) :
    ReservationSettled before after status where
  kept := by
    intro otherId other found
    have different : otherId ≠ eventId := by
      rintro rfl
      rw [absent] at found
      cases found
    rw [events, if_neg different, found]
  created := by
    intro otherId other found missing paid
    rw [events] at found
    split at found
    · cases found
      rcases state with ⟨succeeded, processed, -⟩ | other
      · exact .inl ⟨succeeded, processed⟩
      · exact .inr other
    · rw [missing] at found
      cases found
  charged := by
    intro processed
    rcases state with ⟨succeeded, -, paid⟩ | ⟨-, other⟩ | ⟨-, refused⟩
    · exact ⟨eventId, event, absent, by rw [events, if_pos rfl], paid, succeeded⟩
    · exact absurd processed other
    · rw [processed] at refused
      cases refused

end Events

section Settlement

/-- The world holds both reservations of a call that started in `before`. -/
structure BothReserved (env : MeteredEnv) (call : PaidCall) (eventId : String)
    (before world : MeteredWorld) : Prop where
  global : GlobalReserved call.provider call.estMicros env.now before.global world.global
  absent : before.usage.events.find? eventId = none
  event : ∃ event, event.status = .reserved ∧ event.processingTier = .paid ∧
    world.usage.events.find? eventId = some event
  others : ∀ otherId, otherId ≠ eventId →
    world.usage.events.find? otherId = before.usage.events.find? otherId

/-- What the part that holds the slot leaves behind. -/
structure PartSettled (env : MeteredEnv) (call : PaidCall) (before after : MeteredWorld)
    (result : MeteredResult) : Prop where
  inFlight : after.guard.inFlight = before.guard.inFlight
  global : ∀ key, globalUsage after.global key =
    if key = (dayStart env.now, call.provider) ∧ result.processingStatus = .processedPaid then
      { callsUsed := (globalUsage before.global key).callsUsed + 1
        costMicros := (globalUsage before.global key).costMicros +
          actualMicrosOf call result.toHybridResult }
    else globalUsage before.global key
  tenant : ReservationSettled before.usage after.usage result.processingStatus

variable {env : MeteredEnv} {call : PaidCall} {eventId : String} {before world after : MeteredWorld}
  {result : MeteredResult}

theorem PartSettled.unbilled (inFlight : after.guard.inFlight = before.guard.inFlight)
    (global : ∀ key, globalUsage after.global key = globalUsage before.global key)
    (tenant : ReservationSettled before.usage after.usage result.processingStatus)
    (free : result.processingStatus ≠ .processedPaid) :
    PartSettled env call before after result where
  inFlight := inFlight
  global key := by
    rw [global, if_neg]
    rintro ⟨-, paid⟩
    exact free paid
  tenant := tenant

theorem BothReserved.refund (reserved : BothReserved env call eventId before world)
    (status : ProcessingStatus) (free : status ≠ .processedPaid) :
    (∀ key, globalUsage (world.refund env call eventId).global key =
      globalUsage before.global key) ∧
      ReservationSettled before.usage (world.refund env call eventId).usage status := by
  obtain ⟨event, open_, paid, found⟩ := reserved.event
  obtain ⟨settled, -, released, events⟩ :=
    finalizePremiumCall_find? greatestZero found open_ unbilledFailure
  refine ⟨reserved.global.release, ?_⟩
  refine .settled settled reserved.absent ?_ ?_
  · intro otherId
    simp only [MeteredWorld.refund, MeteredWorld.releaseGlobal]
    rw [events]
    split
    · rfl
    next other => exact reserved.others otherId other
  · exact .inr (.inl ⟨released, free⟩)

theorem BothReserved.charge (reserved : BothReserved env call eventId before world)
    (guard : world.guard = before.guard) (paid : HybridResult) :
    PartSettled env call before (world.charge env call eventId paid)
      (call.done paid .paid .processedPaid none) := by
  obtain ⟨event, open_, tier, found⟩ := reserved.event
  obtain ⟨settled, sameTier, succeeded, events⟩ :=
    finalizePremiumCall_find? greatestZero found open_
      { status := .succeeded
        actualCostMicros := some (actualMicrosOf call paid)
        billed := some true
        inputTokens := paid.aiUsage.map TokenUsage.inputTokens
        outputTokens := paid.aiUsage.map TokenUsage.outputTokens }
  refine ⟨?_, ?_, ?_⟩
  · simp [MeteredWorld.charge, guard]
  · intro key
    simp only [MeteredWorld.charge, PaidCall.done, and_true]
    exact reserved.global.finalize (actualMicrosOf call paid) key
  · refine .settled settled reserved.absent ?_ (.inl ⟨succeeded, rfl, sameTier.trans tier⟩)
    intro otherId
    simp only [MeteredWorld.charge]
    rw [events]
    split
    · rfl
    next other => exact reserved.others otherId other

theorem settlePaidCall_settled (reserved : BothReserved env call eventId before world)
    (guard : world.guard = before.guard) (base : call.baseStatus ≠ .processedPaid)
    (outcome : Except String HybridResult) :
    PartSettled env call before (settlePaidCall env call eventId outcome world).1
      (settlePaidCall env call eventId outcome world).2 := by
  have failed (reason : String) :
      PartSettled env call before ((world.refund env call eventId).recordFailure env)
        (call.done call.rules .rules .failed (some reason)) := by
    obtain ⟨global, tenant⟩ := reserved.refund .failed (by decide)
    refine .unbilled ?_ global tenant (by simp [PaidCall.done])
    simp [MeteredWorld.recordFailure, MeteredWorld.refund, MeteredWorld.releaseGlobal, guard]
  cases outcome with
  | error message => exact failed _
  | ok paid =>
    cases consulted : aiCallOf paid with
    | none =>
      simp only [settlePaidCall, consulted]
      obtain ⟨event, open_, tier, found⟩ := reserved.event
      obtain ⟨settled, -, released, events⟩ :=
        releaseReservation_find? greatestZero found open_ "gate_not_fired"
      refine .unbilled ?_ reserved.global.release ?_ base
      · simp [MeteredWorld.releaseGlobal, guard]
      · refine .settled settled reserved.absent ?_ (.inr (.inl ⟨released, base⟩))
        intro otherId
        simp only [MeteredWorld.releaseGlobal]
        rw [events]
        split
        · rfl
        next other => exact reserved.others otherId other
    | some record =>
      simp only [settlePaidCall, consulted]
      split
      · exact failed _
      · exact reserved.charge guard paid

end Settlement

section Part

variable {env : MeteredEnv} {ctx : MeteredCtx} {input : ClassificationInput} {cfg : HybridConfig}
  {call : PaidCall} {world : MeteredWorld}

inductive PartSteps : List MeteredStep → Prop where
  | refused : PartSteps []
  | reserved : PartSteps [.globalReserved]
  | called (eventId : String) (calls : Nat) :
      PartSteps (.globalReserved :: .tenantReserved eventId :: List.replicate calls .providerCalled)

theorem settlePaidCall_trace (eventId : String) (outcome : Except String HybridResult) :
    (settlePaidCall env call eventId outcome world).1.trace = world.trace := by
  cases outcome with
  | error message => rfl
  | ok paid =>
    cases consulted : aiCallOf paid with
    | none =>
      simp only [settlePaidCall, consulted]
      rfl
    | some record =>
      simp only [settlePaidCall, consulted]
      split <;> rfl

theorem reserveTenant_events (env : MeteredEnv) (ctx : MeteredCtx) (call : PaidCall)
    (idempotencyKey : String) (store : UsageStore) :
    ReserveEvents store.events env.freshPremium.id
      (reserveTenant env ctx call idempotencyKey store) := by
  unfold reserveTenant
  by_cases throws : env.reserveThrows = true
  · rw [if_pos throws]
    exact rfl
  · rw [if_neg throws]
    exact reserveTx_events _ _ _ _ _

theorem paidFallback_settled (base : call.baseStatus ≠ .processedPaid) (idempotencyKey : String) :
    PartSettled env call world (paidFallback env ctx input cfg call idempotencyKey world).1
        (paidFallback env ctx input cfg call idempotencyKey world).2 ∧
      ∃ steps, PartSteps steps ∧
        (paidFallback env ctx input cfg call idempotencyKey world).1.trace =
          world.trace ++ steps := by
  unfold paidFallback
  have globalSpec := reserveGlobalDailyCall_spec call.provider call.estMicros
    ⟨env.fuse.globalDailyCallLimit, env.fuse.globalDailyCostLimitMicros⟩ env.now world.global
  generalize reserveGlobalDailyCall call.provider call.estMicros
    ⟨env.fuse.globalDailyCallLimit, env.fuse.globalDailyCostLimitMicros⟩ env.now world.global =
    attempt at globalSpec ⊢
  obtain ⟨global, refused⟩ := attempt
  cases refused with
  | some reason =>
    refine ⟨?_, [], .refused, (List.append_nil _).symm⟩
    exact .unbilled rfl globalSpec (.unchanged rfl base) base
  | none =>
    have globalReserved : GlobalReserved call.provider call.estMicros env.now world.global global :=
      globalSpec
    have released := globalReserved.release
    have tenantSpec := reserveTenant_events env ctx call idempotencyKey world.usage
    dsimp only [MeteredWorld.record]
    generalize reserveTenant env ctx call idempotencyKey world.usage = attempt at tenantSpec ⊢
    obtain ⟨usage, reserved⟩ := attempt
    cases reserved with
    | none =>
      refine ⟨?_, [.globalReserved], .reserved, rfl⟩
      exact .unbilled rfl released (.unchanged tenantSpec (by simp [PaidCall.done]))
        (by simp [PaidCall.done])
    | some answer =>
      cases answer with
      | refused reason eventId =>
        refine ⟨?_, [.globalReserved], .reserved, rfl⟩
        refine .unbilled rfl released ?_ (by simp [PaidCall.done])
        rcases tenantSpec with same | ⟨absent, event, denied, inserted⟩
        · exact .unchanged same (by simp [PaidCall.done])
        · refine .settled event absent ?_ (.inr (.inr ⟨denied, rfl⟩))
          intro otherId
          simp only [MeteredWorld.releaseGlobal]
          rw [show usage.events = _ from inserted, Table.find?_insert _ absent]
      | ok eventId periodId reused reservedCostMicros =>
        cases reused with
        | true =>
          refine ⟨?_, [.globalReserved], .reserved, rfl⟩
          exact .unbilled rfl released (.unchanged tenantSpec base) base
        | false =>
          obtain ⟨absent, event, open_, paid, inserted⟩ := tenantSpec
          have events (otherId : String) : usage.events.find? otherId =
              if otherId = eventId then some event
              else world.usage.events.find? otherId := by
            rw [show usage.events = _ from inserted, Table.find?_insert _ absent]
          dsimp only [callPaidProvider]
          rcases callProviderWithRetry (paidAttempt env input cfg) env.fuse.maxRetries 0
            with ⟨outcome, calls⟩
          have both (trace : List MeteredStep) : BothReserved env call eventId world
              { world with usage, global, trace } := by
            refine ⟨globalReserved, absent, ⟨event, open_, paid, ?_⟩, ?_⟩
            · rw [events, if_pos rfl]
            · intro otherId other
              rw [events, if_neg other]
          refine ⟨settlePaidCall_settled (both _) rfl base outcome, _, .called eventId calls, ?_⟩
          rw [settlePaidCall_trace]
          simp

end Part

section Free

/-- No event is lost, and the new ones are not paid. -/
structure FreeEvents (before after : UsageStore) : Prop where
  kept : ∀ {eventId event}, before.events.find? eventId = some event →
    after.events.find? eventId = some event
  created : ∀ {eventId event}, after.events.find? eventId = some event →
    before.events.find? eventId = none → event.processingTier ≠ .paid

variable {before between after store : UsageStore} {status : ProcessingStatus}

theorem FreeEvents.unchanged (same : after.events = before.events) : FreeEvents before after where
  kept found := by rwa [same]
  created found absent := by
    rw [same, absent] at found
    cases found

theorem FreeEvents.inserted {eventId : String} {event : UsageEvent}
    (absent : before.events.find? eventId = none)
    (inserted : after.events = before.events.insert eventId event)
    (free : event.processingTier ≠ .paid) : FreeEvents before after where
  kept := by
    intro otherId other found
    have different : otherId ≠ eventId := by
      rintro rfl
      rw [absent] at found
      cases found
    rw [inserted, Table.find?_insert _ absent, if_neg different, found]
  created := by
    intro otherId other found missing
    rw [inserted, Table.find?_insert _ absent] at found
    split at found
    · cases found
      exact free
    · rw [missing] at found
      cases found

theorem FreeEvents.settled (free : FreeEvents before between)
    (settled : ReservationSettled between after status) :
    ReservationSettled before after status where
  kept found := settled.kept (free.kept found)
  created := by
    intro eventId event found absent paid
    cases there : between.events.find? eventId with
    | none => exact settled.created found there paid
    | some other =>
      have same := settled.kept there
      rw [found] at same
      cases same
      exact absurd paid (free.created there absent)
  charged := by
    intro processed
    obtain ⟨eventId, event, absent, found⟩ := settled.charged processed
    refine ⟨eventId, event, ?_, found⟩
    cases there : before.events.find? eventId with
    | none => rfl
    | some other =>
      have same := free.kept there
      rw [absent] at same
      cases same

theorem consumeBasicUnit_free (plan : String) (args : BasicArgs) (now : Int) (fresh : FreshEvent) :
    FreeEvents store (consumeBasicUnit plan args now fresh store).1 := by
  have free : args.tier.processingTier ≠ .paid := by
    cases args.tier <;> decide
  unfold consumeBasicUnit consumeBasicTx
  split
  · exact .unchanged rfl
  · split
    next period known taken =>
      split <;> exact .inserted taken rfl free
    next => exact .unchanged rfl

theorem recordCacheHit_free (args : CacheHitArgs) (plan : String) (now : Int)
    (fresh : FreshEvent) : FreeEvents store (recordCacheHit args plan now fresh store) := by
  unfold recordCacheHit recordCacheHitTx
  split
  next unknown period taken => exact .inserted taken rfl (by simp [cacheHitEvent])
  next => exact .unchanged rfl

end Free

theorem StepsOrdered.nil : StepsOrdered [] where
  reserved same := by simp at same
  slot := rfl
  once := Nat.zero_le _

variable {steps : List MeteredStep}

theorem PartSteps.reserved_first (part : PartSteps steps) {before after : List MeteredStep}
    (same : steps ++ [.slotReleased] = before ++ .providerCalled :: after) :
    .globalReserved ∈ before ∧ ∃ eventId, .tenantReserved eventId ∈ before := by
  cases part with
  | refused => rcases before with _ | ⟨_, _ | _⟩ <;> simp at same
  | reserved => rcases before with _ | ⟨_, _ | ⟨_, _ | _⟩⟩ <;> simp at same
  | called eventId calls =>
    rcases before with _ | ⟨first, _ | ⟨second, rest⟩⟩
    · simp at same
    · simp at same
    · simp only [List.cons_append, List.cons.injEq] at same
      obtain ⟨rfl, rfl, -⟩ := same
      exact ⟨by simp, eventId, by simp⟩

theorem PartSteps.no_slot (part : PartSteps steps) :
    steps.count .slotAcquired = 0 ∧ steps.count .slotReleased = 0 := by
  cases part with
  | refused => exact ⟨rfl, rfl⟩
  | reserved => exact ⟨rfl, rfl⟩
  | called eventId calls => simp [List.count_replicate]

theorem PartSteps.ordered (part : PartSteps steps) :
    StepsOrdered (.slotAcquired :: steps ++ [.slotReleased]) where
  reserved := by
    intro before after same
    rcases before with _ | ⟨first, before⟩
    · simp at same
    · simp only [List.cons_append, List.cons.injEq] at same
      obtain ⟨global, eventId, tenant⟩ := part.reserved_first same.2
      exact ⟨List.mem_cons_of_mem _ global, eventId, List.mem_cons_of_mem _ tenant⟩
  slot := by
    obtain ⟨acquired, released⟩ := part.no_slot
    simp [List.count_append, acquired, released]
  once := by
    obtain ⟨acquired, -⟩ := part.no_slot
    simp [List.count_append, acquired]

section Call

variable {env : MeteredEnv} {ctx : MeteredCtx} {input : ClassificationInput} {cfg : HybridConfig}
  {basic : BasicResult} {world : MeteredWorld}

theorem PaidProtocol.free {before after : MeteredWorld} {result : Option MeteredResult}
    (trace : after.trace = before.trace) (inFlight : after.guard.inFlight = before.guard.inFlight)
    (global : after.global = before.global) (tenant : FreeEvents before.usage after.usage)
    (free : ∀ {answer}, result = some answer → answer.processingStatus ≠ .processedPaid) :
    PaidProtocol env ctx cfg before (after, result) where
  steps := ⟨[], by simp [trace], .nil⟩
  inFlight := inFlight
  global := by
    intro answer returned key
    rw [if_neg]
    · exact congrArg (globalUsage · key) global
    · rintro ⟨-, paid⟩
      exact free returned paid
  tenant := by
    intro answer returned
    exact tenant.settled (.unchanged rfl (free returned))

theorem paidCallOf_base : (paidCallOf env ctx input cfg basic).baseStatus ≠ .processedPaid := by
  simp only [paidCallOf]
  split <;> decide

theorem withSlot_protocol (idempotencyKey : String) {usage : UsageStore} {guard : PaidAiGuard}
    (free : FreeEvents world.usage usage)
    (taken : guard.inFlight = world.guard.inFlight + 1) :
    PaidProtocol env ctx cfg world
      (Prod.map id some (withSlot { world with usage, guard }
        (paidFallback env ctx input cfg (paidCallOf env ctx input cfg basic) idempotencyKey))) := by
  have spec := @paidFallback_settled env ctx input cfg (paidCallOf env ctx input cfg basic)
    ({ world with usage, guard }.record .slotAcquired) paidCallOf_base idempotencyKey
  unfold withSlot
  generalize paidFallback env ctx input cfg (paidCallOf env ctx input cfg basic) idempotencyKey
    ({ world with usage, guard }.record .slotAcquired) = outcome at spec ⊢
  obtain ⟨after, result⟩ := outcome
  obtain ⟨settled, steps, part, trace⟩ := spec
  refine ⟨⟨_, ?_, part.ordered⟩, ?_, ?_, ?_⟩
  · simp only [MeteredWorld.record, Prod.map, id] at trace ⊢
    rw [trace]
    simp
  · have inFlight := settled.inFlight
    simp only [MeteredWorld.record] at inFlight
    simp only [MeteredWorld.record, PaidAiGuard.release, Prod.map, id]
    omega
  · intro answer returned
    cases returned
    exact settled.global
  · intro answer returned
    cases returned
    exact free.settled settled.tenant

theorem classifyMetered_protocol {usage : UsageStore} (free : FreeEvents world.usage usage) :
    PaidProtocol env ctx cfg world
      (Prod.map id some (classifyMetered env ctx input cfg basic { world with usage })) := by
  have base := @paidCallOf_base env ctx input cfg basic
  unfold classifyMetered
  split
  · refine .free rfl rfl rfl free ?_
    rintro answer ⟨⟩
    exact base
  · have taken := @PaidAiGuard.tryAcquire_inFlight env.fuse env.now world.guard
    generalize world.guard.tryAcquire env.fuse env.now = attempt at taken ⊢
    obtain ⟨guard, refused⟩ := attempt
    cases refused with
    | some reason =>
      refine .free rfl taken rfl free ?_
      rintro answer ⟨⟩
      simp only [PaidCall.done]
      split
      · decide
      · exact base
    | none => exact withSlot_protocol _ free taken

/-- However the steps of a call end, the provider is called after both reservations only,
the counters of the day move by the cost of a processed call, the reservation of the
tenant is settled and the slot of the process is given back. -/
theorem classifyWithUsagePolicy_protocol (env : MeteredEnv) (ctx : MeteredCtx)
    (input : ClassificationInput) (cfg : HybridConfig) (world : MeteredWorld) :
    PaidProtocol env ctx cfg world (classifyWithUsagePolicy env ctx input cfg world) := by
  unfold classifyWithUsagePolicy
  dsimp only
  generalize (if ctx.refresh then none
    else cacheGet world.cache (contentHashOf env input cfg) (modelKeyOf cfg) policyVersion) = cached
  cases cached with
  | some result =>
    refine .free rfl rfl rfl (recordCacheHit_free _ _ _ _) ?_
    rintro answer ⟨⟩
    simp
  | none =>
    have free := @consumeBasicUnit_free world.usage ctx.plan
      (basicArgs ctx (contentHashOf env input cfg)) env.now env.freshBasic
    dsimp only
    generalize consumeBasicUnit ctx.plan (basicArgs ctx (contentHashOf env input cfg)) env.now
      env.freshBasic world.usage = attempt at free ⊢
    obtain ⟨usage, basic⟩ := attempt
    cases basic with
    | none =>
      refine .free rfl rfl rfl free ?_
      rintro answer ⟨⟩
    | some basic => exact classifyMetered_protocol free

end Call

/-! A tenant that has used up its premium calls: the refused reservation leaves an event
of its own, which is neither succeeded nor released. -/

def greetingEnv : MeteredEnv where
  database := .ascii
  runtime := .ofDigest (closeParts ["hi".toList, [], "facebook_page|en".toList,
      "risk-rules-v1".toList, "v1.44".toList])
    "b46cc041cb1bb6fc0e651126ee36f5ae20a758821de73a07b3d352c5a9fc7da0"
  providers := .none
  forceDiagnosticsError := false
  fuse :=
    { enabled := true, emergencyDisable := false, globalDailyCallLimit := 100
      globalDailyCostLimitMicros := 1000000, rpmLimit := 60, maxConcurrency := 2, maxRetries := 0
      circuitFailureThreshold := 5, circuitCooldownMs := 60000, tenantAllowlist := [] }
  now := 0
  freshCacheHit := ⟨"hit", "hit", 0⟩
  freshBasic := ⟨"basic", "basic", 0⟩
  freshPremium := ⟨"premium", "premium", 0⟩
  reserveThrows := false
  answers _ := some .none
  callProvider := none

def greetingCtx : MeteredCtx where
  tenantId := "tenant"
  plan := "free"
  accessState := none
  internalAccess := false
  reputationItemId := none
  contentItemId := none
  correlationId := none
  refresh := false

def greetingInput : ClassificationInput :=
  { text := "hi".toList, platform := .facebookPage, locale := none, rating := none, rules := [] }

def greetingConfig : HybridConfig where
  workspaceLocale := "en"
  translation := { enabled := false, provider := "none", targetMode := .en }
  aiRisk :=
    { enabled := true, provider := "openai", minConfidence := 1 / 2, callMode := none
      openai := none }
  brandContext := none
  memoryRules := []

def exhaustedWorld : MeteredWorld where
  usage :=
    { periods := Table.empty.insert 0
        { periodEnd := 2678400000, plan := "free", basicUnitsUsed := 10, premiumCallsUsed := 10
          premiumCostMicros := 0 }
      events := .empty }
  global := .empty
  cache := .empty
  guard := .initial
  trace := []

def refusedOutcome : MeteredWorld × Option MeteredResult :=
  classifyWithUsagePolicy greetingEnv greetingCtx greetingInput greetingConfig exhaustedWorld

theorem refusedOutcome_status :
    refusedOutcome.2.map MeteredResult.processingStatus = some .premiumLimitReached := by
  decide +kernel

theorem refusedOutcome_event :
    (refusedOutcome.1.usage.events.find? "premium").map
      (fun event => (event.processingTier, event.status)) = some (.paid, .denied) := by
  decide +kernel

/-- Not every event that a call creates is succeeded or released. -/
theorem classifyWithUsagePolicy_refused :
    ¬ ∀ {result}, refusedOutcome.2 = some result → ∀ {eventId event},
      refusedOutcome.1.usage.events.find? eventId = some event →
      exhaustedWorld.usage.events.find? eventId = none → event.processingTier = .paid →
        (event.status = .succeeded ↔ result.processingStatus = .processedPaid) ∧
        (event.status = .released ↔ result.processingStatus ≠ .processedPaid) := by
  intro settled
  obtain ⟨result, returned, status⟩ := Option.map_eq_some_iff.mp refusedOutcome_status
  obtain ⟨event, found, state⟩ := Option.map_eq_some_iff.mp refusedOutcome_event
  obtain ⟨tier, denied⟩ := Prod.mk.inj state
  have released := (settled returned found rfl tier).2.mpr (by simp [status])
  rw [denied] at released
  cases released

end Tamanor.Sync
