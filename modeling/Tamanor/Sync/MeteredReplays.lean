import Tamanor.Db.UsageReplays
import Tamanor.Sync.MeteredClassifyProperties

/-! What the metered service reports of content that it has seen before. A denied basic unit
comes back as reused, and a reservation that was given back or denied in an earlier month
comes back as a limit that is reached. -/

set_option autoImplicit false

namespace Tamanor.Sync

open Tamanor.Core Db Ai

/-! The keys and the limits of a call. -/

def basicKey (env : MeteredEnv) (ctx : MeteredCtx) (input : ClassificationInput)
    (cfg : HybridConfig) : String :=
  (basicArgs ctx (contentHashOf env input cfg)).idempotencyKey

def premiumKey (env : MeteredEnv) (ctx : MeteredCtx) (input : ClassificationInput)
    (cfg : HybridConfig) : String :=
  "prem:" ++ (refreshKey ctx (contentHashOf env input cfg)).getD (contentHashOf env input cfg) ++
    ":" ++ modelKeyOf cfg

def premiumEstimate (ctx : MeteredCtx) (cfg : HybridConfig) : Nat :=
  estimateCostMicros (paidProvider cfg) (modelKeyOf cfg) (effectivePolicy ctx).maxInputTokensPerCall
    (effectivePolicy ctx).maxOutputTokensPerCall

/-- The limits that the current month has reached for one call more. -/
def AtLimit (env : MeteredEnv) (ctx : MeteredCtx) (cfg : HybridConfig) (store : UsageStore) :
    Prop :=
  LimitExceeded (resolveEffectiveUsagePolicy ctx.plan none ctx.internalAccess)
    (premiumEstimate ctx cfg) (store.currentUse env.now)

def UnitTruthful (env : MeteredEnv) (ctx : MeteredCtx) (input : ClassificationInput)
    (cfg : HybridConfig) (world : MeteredWorld) : Prop :=
  ∀ result, (classifyWithUsagePolicy env ctx input cfg world).2 = some result →
    result.processingStatus = .processedRules →
    (classifyWithUsagePolicy env ctx input cfg world).1.usage.statusOf
      (basicKey env ctx input cfg) = some .succeeded

/-- A premium limit that is reported is reached in the current month. -/
def LimitTruthful (env : MeteredEnv) (ctx : MeteredCtx) (input : ClassificationInput)
    (cfg : HybridConfig) (world : MeteredWorld) : Prop :=
  ∀ result, (classifyWithUsagePolicy env ctx input cfg world).2 = some result →
    result.processingStatus = .premiumLimitReached →
    AtLimit env ctx cfg (classifyWithUsagePolicy env ctx input cfg world).1.usage

/-- The call comes as far as the reservation of the tenant: no cached result, a basic unit that
can be recorded, a plan with paid work, a free slot, a day with calls left. -/
structure ReservationAsked (env : MeteredEnv) (ctx : MeteredCtx) (input : ClassificationInput)
    (cfg : HybridConfig) (world : MeteredWorld) : Prop where
  missed : ctx.refresh = true ∨
    cacheGet world.cache (contentHashOf env input cfg) (modelKeyOf cfg) policyVersion = none
  counted : world.usage.statusOf (basicKey env ctx input cfg) ≠ none ∨
    world.usage.events.find? env.freshBasic.id = none
  wanted : wantPaid env ctx cfg = true
  slot : (world.guard.tryAcquire env.fuse env.now).2 = none
  day : (reserveGlobalDailyCall (paidProvider cfg) (premiumEstimate ctx cfg)
    ⟨env.fuse.globalDailyCallLimit, env.fuse.globalDailyCostLimitMicros⟩ env.now world.global).2 =
      none
  served : env.reserveThrows = false

/-- The key of the reservation has an event that is neither open nor charged. -/
def PremiumSettled (env : MeteredEnv) (ctx : MeteredCtx) (input : ClassificationInput)
    (cfg : HybridConfig) (store : UsageStore) : Prop :=
  ∃ status, store.statusOf (premiumKey env ctx input cfg) = some status ∧ status.Settled

section Report

variable {env : MeteredEnv} {ctx : MeteredCtx} {input : ClassificationInput} {cfg : HybridConfig}
  {world : MeteredWorld} {call : PaidCall} {basic : BasicResult} {key eventId : String}

structure PartReport (env : MeteredEnv) (ctx : MeteredCtx) (call : PaidCall) (key : String)
    (before : UsageStore) (outcome : MeteredWorld × MeteredResult) : Prop where
  kept : before.Keeps outcome.1.usage
  rules : outcome.2.processingStatus = .processedRules → call.baseStatus = .processedRules
  limit : outcome.2.processingStatus = .premiumLimitReached → ∃ reason eventId,
    (reserveTenant env ctx call key before).2 = some (.refused reason eventId) ∧
      outcome.1.usage = (reserveTenant env ctx call key before).1

variable {before : UsageStore}

theorem PartReport.ofBase {outcome : MeteredWorld × MeteredResult}
    (base : call.baseStatus ≠ .premiumLimitReached) (kept : before.Keeps outcome.1.usage)
    (status : outcome.2.processingStatus = call.baseStatus) :
    PartReport env ctx call key before outcome where
  kept := kept
  rules same := status.symm.trans same
  limit same := absurd (status.symm.trans same) base

theorem PartReport.ofOther {outcome : MeteredWorld × MeteredResult}
    (kept : before.Keeps outcome.1.usage) (rules : outcome.2.processingStatus ≠ .processedRules)
    (limit : outcome.2.processingStatus ≠ .premiumLimitReached) :
    PartReport env ctx call key before outcome where
  kept := kept
  rules same := absurd same rules
  limit same := absurd same limit

theorem settlePaidCall_report (base : call.baseStatus ≠ .premiumLimitReached)
    (kept : before.Keeps world.usage) (outcome : Except String HybridResult) :
    PartReport env ctx call key before (settlePaidCall env call eventId outcome world) := by
  cases outcome with
  | error message =>
    exact .ofOther (kept.trans (.finalize ..)) (by simp [settlePaidCall, PaidCall.done])
      (by simp [settlePaidCall, PaidCall.done])
  | ok paid =>
    unfold settlePaidCall
    dsimp only
    split
    · exact .ofBase base (kept.trans (.release ..)) rfl
    · split
      · exact .ofOther (kept.trans (.finalize ..)) (by simp [PaidCall.done])
          (by simp [PaidCall.done])
      · exact .ofOther (kept.trans (.finalize ..)) (by simp [PaidCall.done])
          (by simp [PaidCall.done])

theorem reserveTenant_keeps (store : UsageStore) :
    store.Keeps (reserveTenant env ctx call key store).1 := by
  unfold reserveTenant
  split
  · exact .unchanged rfl
  · exact (UsageStore.Keeps.getOrCreate ..).trans (.reserve ..)

theorem paidFallback_report (base : call.baseStatus ≠ .premiumLimitReached) :
    PartReport env ctx call key world.usage (paidFallback env ctx input cfg call key world) := by
  have kept := @reserveTenant_keeps env ctx call key world.usage
  unfold paidFallback
  generalize reserveGlobalDailyCall call.provider call.estMicros
    ⟨env.fuse.globalDailyCallLimit, env.fuse.globalDailyCostLimitMicros⟩ env.now world.global =
    attempt
  obtain ⟨global, refused⟩ := attempt
  cases refused with
  | some reason => exact .ofBase base (.unchanged rfl) rfl
  | none =>
    dsimp only [MeteredWorld.record]
    cases reserved : reserveTenant env ctx call key world.usage with
    | mk usage answer =>
      rw [reserved] at kept
      cases answer with
      | none => exact .ofOther kept (by simp [PaidCall.done]) (by simp [PaidCall.done])
      | some answer =>
        cases answer with
        | refused reason eventId =>
          refine ⟨kept, fun same => ?_, fun _ => ⟨reason, eventId, ?_, ?_⟩⟩
          · cases same
          · rw [reserved]
          · rw [reserved]
            rfl
        | ok eventId periodId reused reservedCostMicros =>
          cases reused with
          | true => exact .ofBase base kept rfl
          | false => exact settlePaidCall_report base kept _

theorem paidFallback_limit_iff (base : call.baseStatus ≠ .premiumLimitReached) :
    (paidFallback env ctx input cfg call key world).2.processingStatus = .premiumLimitReached ↔
      (reserveGlobalDailyCall call.provider call.estMicros
        ⟨env.fuse.globalDailyCallLimit, env.fuse.globalDailyCostLimitMicros⟩ env.now
        world.global).2 = none ∧
      ∃ reason eventId, (reserveTenant env ctx call key world.usage).2 =
        some (.refused reason eventId) := by
  have report := @paidFallback_report env ctx input cfg world call key base
  constructor
  · intro reported
    obtain ⟨reason, eventId, refused, -⟩ := report.limit reported
    refine ⟨?_, reason, eventId, refused⟩
    unfold paidFallback at reported
    generalize reserveGlobalDailyCall call.provider call.estMicros
      ⟨env.fuse.globalDailyCallLimit, env.fuse.globalDailyCostLimitMicros⟩ env.now world.global =
      attempt at reported ⊢
    obtain ⟨global, refusal⟩ := attempt
    cases refusal with
    | none => rfl
    | some other => exact absurd reported base
  · rintro ⟨day, reason, eventId, refused⟩
    unfold paidFallback
    generalize reserveGlobalDailyCall call.provider call.estMicros
      ⟨env.fuse.globalDailyCallLimit, env.fuse.globalDailyCostLimitMicros⟩ env.now world.global =
      attempt at day ⊢
    obtain ⟨global, refusal⟩ := attempt
    obtain rfl : refusal = none := day
    dsimp only [MeteredWorld.record]
    cases reserved : reserveTenant env ctx call key world.usage with
    | mk usage answer =>
      rw [reserved] at refused
      obtain rfl : answer = _ := refused
      rfl

theorem paidCallOf_base_ne_limit :
    (paidCallOf env ctx input cfg basic).baseStatus ≠ .premiumLimitReached := by
  simp only [paidCallOf]
  split <;> decide

theorem classifyMetered_report :
    PartReport env ctx (paidCallOf env ctx input cfg basic) (premiumKey env ctx input cfg) world.usage
      (classifyMetered env ctx input cfg basic world) := by
  have base := @paidCallOf_base_ne_limit env ctx input cfg basic
  unfold classifyMetered
  split
  · exact .ofBase base (.unchanged rfl) rfl
  · generalize world.guard.tryAcquire env.fuse env.now = attempt
    obtain ⟨guard, refused⟩ := attempt
    cases refused with
    | some reason =>
      by_cases disabled : reason = "paid_ai_disabled"
      · exact .ofOther (.unchanged rfl) (by simp [PaidCall.done, disabled])
          (by simp [PaidCall.done, disabled])
      · exact .ofBase base (.unchanged rfl) (by simp [PaidCall.done, disabled])
    | none =>
      obtain ⟨kept, rules, limit⟩ := @paidFallback_report env ctx input cfg
        ({ world with guard }.record .slotAcquired) (paidCallOf env ctx input cfg basic)
        (premiumKey env ctx input cfg) base
      exact ⟨kept, rules, limit⟩

theorem classifyMetered_limit_iff :
    (classifyMetered env ctx input cfg basic world).2.processingStatus = .premiumLimitReached ↔
      wantPaid env ctx cfg = true ∧ (world.guard.tryAcquire env.fuse env.now).2 = none ∧
      (reserveGlobalDailyCall (paidProvider cfg) (premiumEstimate ctx cfg)
        ⟨env.fuse.globalDailyCallLimit, env.fuse.globalDailyCostLimitMicros⟩ env.now
        world.global).2 = none ∧
      ∃ reason eventId, (reserveTenant env ctx (paidCallOf env ctx input cfg basic)
        (premiumKey env ctx input cfg) world.usage).2 = some (.refused reason eventId) := by
  have base := @paidCallOf_base_ne_limit env ctx input cfg basic
  unfold classifyMetered
  cases wanted : wantPaid env ctx cfg with
  | false => simpa [PaidCall.done] using base
  | true =>
    generalize world.guard.tryAcquire env.fuse env.now = attempt
    obtain ⟨guard, refused⟩ := attempt
    cases refused with
    | some reason =>
      by_cases disabled : reason = "paid_ai_disabled"
      · simp [PaidCall.done, disabled]
      · simpa [PaidCall.done, disabled] using base
    | none =>
      have part := @paidFallback_limit_iff env ctx input cfg
        (({ world with guard := guard } : MeteredWorld).record .slotAcquired)
        (paidCallOf env ctx input cfg basic) (premiumKey env ctx input cfg) base
      constructor
      · exact fun reported => ⟨rfl, rfl, part.mp reported⟩
      · rintro ⟨-, -, grounds⟩
        exact part.mpr grounds

theorem basicKey_ne_premiumKey : basicKey env ctx input cfg ≠ premiumKey env ctx input cfg := by
  intro same
  have first := congrArg (fun key => key.toList.head?) same
  simp [basicKey, basicArgs, premiumKey] at first

theorem classifyMetered_limit
    (reported : (classifyMetered env ctx input cfg basic world).2.processingStatus =
      .premiumLimitReached) :
    env.reserveThrows = false ∧
      (classifyMetered env ctx input cfg basic world).1.usage.currentUse env.now =
        world.usage.currentUse env.now ∧
      (PremiumSettled env ctx input cfg world.usage ∨ AtLimit env ctx cfg world.usage) := by
  obtain ⟨-, -, limit⟩ := @classifyMetered_report env ctx input cfg world basic
  obtain ⟨reason, eventId, refused, usage⟩ := limit reported
  rw [usage]
  unfold reserveTenant at refused ⊢
  split at refused
  · cases refused
  next served =>
    rw [if_neg served]
    exact ⟨eq_false_of_ne_true served, reservePremiumCall_refused refused⟩

theorem classifyWithUsagePolicy_missed
    (missed : ctx.refresh = true ∨
      cacheGet world.cache (contentHashOf env input cfg) (modelKeyOf cfg) policyVersion = none) :
    classifyWithUsagePolicy env ctx input cfg world =
      match consumeBasicUnit ctx.plan (basicArgs ctx (contentHashOf env input cfg)) env.now
        env.freshBasic world.usage with
      | (usage, none) => ({ world with usage }, none)
      | (usage, some basic) =>
        Prod.map id some (classifyMetered env ctx input cfg basic { world with usage }) := by
  have cached : (if ctx.refresh then none
      else cacheGet world.cache (contentHashOf env input cfg) (modelKeyOf cfg) policyVersion) =
      none := by
    rcases missed with refresh | missed
    · rw [if_pos refresh]
    · rw [missed, ite_self]
  unfold classifyWithUsagePolicy
  dsimp only
  rw [cached]
  dsimp only
  generalize consumeBasicUnit ctx.plan (basicArgs ctx (contentHashOf env input cfg)) env.now
    env.freshBasic world.usage = attempt
  obtain ⟨usage, _ | basic⟩ := attempt <;> rfl

theorem classifyWithUsagePolicy_cached {result : MeteredResult}
    (hit : ¬ (ctx.refresh = true ∨
      cacheGet world.cache (contentHashOf env input cfg) (modelKeyOf cfg) policyVersion = none))
    (returned : (classifyWithUsagePolicy env ctx input cfg world).2 = some result) :
    result.processingStatus = .cached := by
  obtain ⟨fresh, found⟩ := not_or.mp hit
  obtain ⟨cached, there⟩ := Option.ne_none_iff_exists'.mp found
  unfold classifyWithUsagePolicy at returned
  dsimp only at returned
  rw [if_neg fresh, there] at returned
  obtain rfl := Option.some.inj returned
  rfl

theorem counted_of_isSome
    (recorded : (consumeBasicUnit ctx.plan (basicArgs ctx (contentHashOf env input cfg)) env.now
      env.freshBasic world.usage).2 = some basic) :
    world.usage.statusOf (basicKey env ctx input cfg) ≠ none ∨
      world.usage.events.find? env.freshBasic.id = none := by
  unfold consumeBasicUnit consumeBasicTx at recorded
  split at recorded
  next id event found =>
    have same : world.usage.findByKey (basicKey env ctx input cfg) = some (id, event) := found
    refine .inl ?_
    rw [UsageStore.statusOf, same]
    simp
  next =>
    split at recorded
    next there absent => exact .inr absent
    next => cases recorded

/-- The limit that is reported is reached, unless the call comes as far as the reservation, finds
a settled event there and the month has room. -/
theorem limitTruthful_iff (env : MeteredEnv) (ctx : MeteredCtx) (input : ClassificationInput)
    (cfg : HybridConfig) (world : MeteredWorld) :
    LimitTruthful env ctx input cfg world ↔
      ¬ (ReservationAsked env ctx input cfg world ∧
        PremiumSettled env ctx input cfg world.usage ∧ ¬ AtLimit env ctx cfg world.usage) := by
  by_cases missed : ctx.refresh = true ∨
      cacheGet world.cache (contentHashOf env input cfg) (modelKeyOf cfg) policyVersion = none
  swap
  · refine iff_of_true (fun result returned reported => ?_) fun asked => missed asked.1.missed
    rw [classifyWithUsagePolicy_cached missed returned] at reported
    cases reported
  have used := @currentUse_consumeBasicUnit world.usage env.now ctx.plan
    (basicArgs ctx (contentHashOf env input cfg)) env.freshBasic
  have stored := @statusOf_consumeBasicUnit world.usage ctx.plan
    (basicArgs ctx (contentHashOf env input cfg)) env.now env.freshBasic
    (premiumKey env ctx input cfg) basicKey_ne_premiumKey
  have recorded := @consumeBasicUnit_isSome world.usage
    (basicArgs ctx (contentHashOf env input cfg)) env.freshBasic ctx.plan env.now
  have counted := @counted_of_isSome env ctx input cfg world
  unfold LimitTruthful
  rw [classifyWithUsagePolicy_missed missed]
  generalize consumeBasicUnit ctx.plan (basicArgs ctx (contentHashOf env input cfg)) env.now
    env.freshBasic world.usage = attempt at used stored recorded counted
  obtain ⟨usage, basic⟩ := attempt
  dsimp only at used stored recorded counted
  constructor
  · rintro truthful ⟨asked, ⟨status, settled⟩, room⟩
    obtain ⟨basic, rfl⟩ := recorded asked.counted
    obtain ⟨reason, eventId, refused⟩ := @reservePremiumCall_settled usage env.now
      (premiumArgs ctx (paidCallOf env ctx input cfg basic) (premiumKey env ctx input cfg))
      env.freshPremium ctx.plan status (stored.trans settled.1) settled.2
    have reported := (@classifyMetered_limit_iff env ctx input cfg { world with usage } basic).mpr
      ⟨asked.wanted, asked.slot, asked.day, reason, eventId, by
        unfold reserveTenant
        rw [asked.served]
        exact refused⟩
    obtain ⟨-, kept, -⟩ := classifyMetered_limit reported
    have exceeded := truthful _ rfl reported
    change LimitExceeded _ _ _ at exceeded
    rw [show (Prod.map id some (classifyMetered env ctx input cfg basic { world with usage })).1 =
      (classifyMetered env ctx input cfg basic { world with usage }).1 from rfl, kept, used]
      at exceeded
    exact room exceeded
  · intro excused result returned reported
    cases basic with
    | none => cases returned
    | some basic =>
      obtain rfl := Option.some.inj returned
      obtain ⟨served, kept, grounds⟩ := classifyMetered_limit reported
      obtain ⟨wanted, slot, day, -⟩ := classifyMetered_limit_iff.mp reported
      change LimitExceeded _ _ (UsageStore.currentUse (classifyMetered env ctx input cfg basic
        { world with usage }).1.usage env.now)
      rw [kept, used]
      by_contra room
      rcases grounds with ⟨status, settled⟩ | exceeded
      · exact excused ⟨⟨missed, counted rfl, wanted, slot, day, served⟩,
          ⟨status, stored.symm.trans settled.1, settled.2⟩, room⟩
      · rw [AtLimit, used] at exceeded
        exact room exceeded

/-- Content that is reported processed by the rules has a unit, where no event of another kind
stands under its key. -/
theorem unitTruthful_of_succeeded
    (unit : ∀ status, world.usage.statusOf (basicKey env ctx input cfg) = some status →
      status = .succeeded) : UnitTruthful env ctx input cfg world := by
  intro result returned reported
  by_cases missed : ctx.refresh = true ∨
      cacheGet world.cache (contentHashOf env input cfg) (modelKeyOf cfg) policyVersion = none
  swap
  · rw [classifyWithUsagePolicy_cached missed returned] at reported
    cases reported
  have stored := @statusOf_consumeBasicUnit_self world.usage
    (basicArgs ctx (contentHashOf env input cfg)) env.freshBasic ctx.plan env.now
  rw [classifyWithUsagePolicy_missed missed] at returned ⊢
  generalize consumeBasicUnit ctx.plan (basicArgs ctx (contentHashOf env input cfg)) env.now
    env.freshBasic world.usage = attempt at stored returned ⊢
  obtain ⟨usage, basic⟩ := attempt
  cases basic with
  | none => cases returned
  | some basic =>
    obtain rfl := Option.some.inj returned
    have report := @classifyMetered_report env ctx input cfg { world with usage } basic
    have granted : basic.denied = false := by
      have base := report.rules reported
      simp only [paidCallOf] at base
      split at base
      · cases base
      next granted => exact eq_false_of_ne_true granted
    refine report.kept.final (by decide) ((stored rfl).trans ?_)
    rw [granted]
    cases known : world.usage.statusOf (basicKey env ctx input cfg) with
    | none =>
      rw [show world.usage.statusOf (basicArgs ctx (contentHashOf env input cfg)).idempotencyKey =
        none from known]
      rfl
    | some status =>
      rw [show world.usage.statusOf (basicArgs ctx (contentHashOf env input cfg)).idempotencyKey =
        some status from known, unit status known]
      rfl

end Report

/-- After every history of a tenant: a denial is reported again exactly for the keys that were
never denied; a limit that is reported is reached, unless the call comes as far as the
reservation, finds a settled event there and the month has room; and content that is reported
processed by the rules has a unit, where its key has no event but a succeeded one. -/
theorem meteringTruthful_iff (calls : List UsageCall) (key : String) (env : MeteredEnv)
    (ctx : MeteredCtx) (input : ClassificationInput) (cfg : HybridConfig) (world : MeteredWorld)
    (history : world.usage = runUsage greatestZero calls) :
    (DeniedAgain calls key ↔ ¬ FirstDenied calls key) ∧
      (LimitTruthful env ctx input cfg world ↔
        ¬ (ReservationAsked env ctx input cfg world ∧
          PremiumSettled env ctx input cfg (runUsage greatestZero calls) ∧
          ¬ AtLimit env ctx cfg (runUsage greatestZero calls))) ∧
      ((∀ status, (runUsage greatestZero calls).statusOf (basicKey env ctx input cfg) =
          some status → status = .succeeded) → UnitTruthful env ctx input cfg world) := by
  rw [← history]
  exact ⟨deniedAgain_iff calls key, limitTruthful_iff env ctx input cfg world,
    unitTruthful_of_succeeded⟩

/-! A reservation that was given back. -/

/-- The greeting was reserved before, and the reservation was released without a charge. -/
def releasedHistory : List UsageCall :=
  [.getOrCreateCurrentPeriod "free" 0,
    .reserve "free"
      { provider := "openai", modelKey := "openai", estMicros := 1
        idempotencyKey := premiumKey greetingEnv greetingCtx greetingInput greetingConfig
        refs := ⟨none, none, none⟩, internalAccess := false } 0 ⟨"first", "first", 0⟩,
    .finalize "first" unbilledFailure]

def releasedWorld : MeteredWorld where
  usage := runUsage greatestZero releasedHistory
  global := .empty
  cache := .empty
  guard := .initial
  trace := []

theorem meteringTruthful_of_newTenant :
    ({ releasedWorld with usage := .empty } : MeteredWorld).usage = runUsage greatestZero [] ∧
      LimitTruthful greetingEnv greetingCtx greetingInput greetingConfig
        { releasedWorld with usage := .empty } := by
  obtain ⟨-, limit, -⟩ := meteringTruthful_iff [] "key" greetingEnv greetingCtx greetingInput
    greetingConfig { releasedWorld with usage := .empty } rfl
  refine ⟨rfl, limit.mpr ?_⟩
  rintro ⟨-, ⟨status, stored, -⟩, -⟩
  cases stored

theorem releasedWorld_report :
    (classifyWithUsagePolicy greetingEnv greetingCtx greetingInput greetingConfig
      releasedWorld).2.map (·.processingStatus) = some .premiumLimitReached := by
  decide +kernel

theorem releasedWorld_use :
    (classifyWithUsagePolicy greetingEnv greetingCtx greetingInput greetingConfig
      releasedWorld).1.usage.currentUse greetingEnv.now = (0, 0) := by
  decide +kernel

/-- After the failure of a provider the same content is refused for a limit, of which nothing
is used. -/
theorem not_meteringTruthful :
    ¬ ∀ (calls : List UsageCall) (world : MeteredWorld),
      world.usage = runUsage greatestZero calls →
      (∀ key, DeniedAgain calls key) ∧
        ∀ env ctx input cfg, UnitTruthful env ctx input cfg world ∧
          LimitTruthful env ctx input cfg world := by
  intro truthful
  obtain ⟨result, returned, reported⟩ := Option.map_eq_some_iff.mp releasedWorld_report
  obtain ⟨-, limit⟩ := (truthful releasedHistory releasedWorld rfl).2 greetingEnv greetingCtx
    greetingInput greetingConfig
  have exceeded := limit result returned reported
  rw [AtLimit, releasedWorld_use] at exceeded
  have room : reserveGuard
      (resolveEffectiveUsagePolicy greetingCtx.plan none greetingCtx.internalAccess)
      (premiumEstimate greetingCtx greetingConfig) ⟨0, "free", 0, 0, 0⟩ = true := by
    decide +kernel
  rw [show ((0 : Int), (0 : Int)) = ((⟨0, "free", 0, 0, 0⟩ : UsagePeriod).premiumCallsUsed,
    (⟨0, "free", 0, 0, 0⟩ : UsagePeriod).premiumCostMicros) from rfl, limitExceeded_iff] at exceeded
  exact Bool.noConfusion (room.symm.trans exceeded)

end Tamanor.Sync
