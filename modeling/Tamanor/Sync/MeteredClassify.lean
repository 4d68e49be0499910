import Tamanor.Ai.Pipeline
import Tamanor.Db.GlobalUsageRepo
import Tamanor.Db.ResultCache
import Tamanor.Db.UsageRepo
import Tamanor.Sync.PaidAiGuard

/-! The metered classification service (`metered-classify.ts`): cache, then rules, then
the paid provider behind a slot of the process, a global reservation and a reservation
of the tenant. What happens outside (clocks, generated ids, the provider, a database
error) is in the environment. -/

set_option autoImplicit false

namespace Tamanor.Sync

open Tamanor.Core Tamanor.Db Ai Library Library.Text

inductive ProcessingStatus where
  | processedRules | processedLocal | processedPaid | cached | basicLimitReached
  | premiumLimitReached | paidAiDisabled | failed
deriving DecidableEq

structure MeteredCtx where
  tenantId : String
  plan : String
  accessState : Option String
  internalAccess : Bool
  reputationItemId : Option String
  contentItemId : Option String
  correlationId : Option String
  refresh : Bool

variable (ctx : MeteredCtx)

def MeteredCtx.refs : EventRefs where
  reputationItemId := ctx.reputationItemId
  contentItemId := ctx.contentItemId
  correlationId := ctx.correlationId

structure MeteredResult extends HybridResult where
  processingTier : ProcessingTier
  processingStatus : ProcessingStatus
  processingReason : Option String
  contentHash : String

structure MeteredEnv where
  database : CharacterDatabase
  runtime : Runtime
  /-- What the providers answer in the free pass. -/
  providers : Providers
  forceDiagnosticsError : Bool
  fuse : PaidAiFuseConfig
  now : Int
  freshCacheHit : FreshEvent
  freshBasic : FreshEvent
  freshPremium : FreshEvent
  /-- The reservation of the tenant fails with a database error. -/
  reserveThrows : Bool
  /-- What the providers answer to an attempt of the paid pass; `none` is a timeout. -/
  answers : Nat → Option Providers
  /-- A provider injected in place of the paid pass. -/
  callProvider : Option (Nat → Except String HybridResult)

inductive MeteredStep where
  | slotAcquired
  | globalReserved
  | tenantReserved (eventId : String)
  | providerCalled
  | slotReleased
deriving DecidableEq

/-- The state of the tenant's and of the global tables, of the process, and the steps
taken so far. -/
structure MeteredWorld where
  usage : UsageStore
  global : GlobalUsageStore
  cache : ResultCache HybridResult
  guard : PaidAiGuard
  trace : List MeteredStep

variable (world : MeteredWorld)

def MeteredWorld.record (step : MeteredStep) : MeteredWorld :=
  { world with trace := world.trace ++ [step] }

def classifierVersion : String := "risk-rules-v1"

def paidProvider (cfg : HybridConfig) : String :=
  if cfg.aiRisk.provider = "" then "none" else cfg.aiRisk.provider

def modelKeyOf (cfg : HybridConfig) : String :=
  match cfg.aiRisk.openai with
  | some openai =>
    if paidProvider cfg = "openai" ∧ openai.model ≠ "" then openai.model else paidProvider cfg
  | none => paidProvider cfg

def contentVersionOf (input : ClassificationInput) (cfg : HybridConfig) : ContentVersion where
  text := input.text
  rating := input.rating
  context := input.platform.value.toList ++ '|' :: cfg.workspaceLocale.toList
  classifierVersion := classifierVersion.toList
  policyVersion := policyVersion.toList

def contentHashOf (env : MeteredEnv) (input : ClassificationInput) (cfg : HybridConfig) : String :=
  contentVersionHash env.database env.runtime (contentVersionOf input cfg)

def rulesConfig (cfg : HybridConfig) : HybridConfig :=
  { cfg with
    aiRisk :=
      { enabled := false, provider := "none", minConfidence := cfg.aiRisk.minConfidence
        callMode := cfg.aiRisk.callMode, openai := none } }

def paidAttempt (env : MeteredEnv) (input : ClassificationInput) (cfg : HybridConfig)
    (attempt : Nat) : Except String HybridResult :=
  match env.callProvider with
  | some callProvider => callProvider attempt
  | none =>
    match env.answers attempt with
    | none => .error "paid_provider_timeout"
    | some providers =>
      .ok (classifyHybrid env.database providers env.forceDiagnosticsError input
        { cfg with aiRisk := { cfg.aiRisk with enabled := true, provider := paidProvider cfg } })

/-- The attempts from `attempt` on: the outcome and how many there were. -/
def callProviderWithRetry (call : Nat → Except String HybridResult) :
    (retries attempt : Nat) → Except String HybridResult × Nat
  | 0, attempt => (call attempt, 1)
  | retries + 1, attempt =>
    match call attempt with
    | .ok result => (.ok result, 1)
    | .error _ =>
      let (outcome, calls) := callProviderWithRetry call retries (attempt + 1)
      (outcome, calls + 1)

structure PaidCall where
  provider : String
  modelKey : String
  estMicros : Nat
  contentHash : String
  rules : HybridResult
  baseStatus : ProcessingStatus
  basicDenied : Bool
  basicReason : Option String

def PaidCall.done (call : PaidCall) (result : HybridResult) (tier : ProcessingTier)
    (status : ProcessingStatus) (reason : Option String) : MeteredResult :=
  { result with
    processingTier := tier
    processingStatus := status
    processingReason := reason
    contentHash := call.contentHash }

def MeteredWorld.releaseGlobal (env : MeteredEnv) (call : PaidCall) : MeteredWorld :=
  { world with
    global := releaseGlobalDailyCall call.provider call.estMicros env.now world.global }

def MeteredWorld.refund (env : MeteredEnv) (call : PaidCall) (eventId : String) : MeteredWorld :=
  { world with
    usage := (finalizePremiumCall greatestZero eventId unbilledFailure world.usage).1 }.releaseGlobal
      env call

def MeteredWorld.recordFailure (world : MeteredWorld) (env : MeteredEnv) : MeteredWorld :=
  { world with guard := world.guard.recordFailure env.fuse env.now }

def aiCallOf (result : HybridResult) : Option ProviderCallRecord :=
  result.providerCalls.find? fun call => call.type == .aiRisk && call.status != "skipped"

def actualMicrosOf (call : PaidCall) (paid : HybridResult) : Nat :=
  match paid.aiUsage with
  | some usage =>
    actualCostMicros call.provider call.modelKey usage.inputTokens usage.outputTokens
  | none => call.estMicros

def MeteredWorld.charge (env : MeteredEnv) (call : PaidCall) (eventId : String)
    (paid : HybridResult) : MeteredWorld :=
  let actual := actualMicrosOf call paid
  { world with
    usage := (finalizePremiumCall greatestZero eventId
      { status := .succeeded
        actualCostMicros := some actual
        billed := some true
        inputTokens := paid.aiUsage.map TokenUsage.inputTokens
        outputTokens := paid.aiUsage.map TokenUsage.outputTokens } world.usage).1
    global := finalizeGlobalDailyCall call.provider call.estMicros actual env.now world.global
    guard := world.guard.recordSuccess
    cache := cachePut world.cache call.contentHash call.modelKey policyVersion paid }

def settlePaidCall (env : MeteredEnv) (call : PaidCall) (eventId : String)
    (outcome : Except String HybridResult) (world : MeteredWorld) : MeteredWorld × MeteredResult :=
  match outcome with
  | .error message =>
    ((world.refund env call eventId).recordFailure env,
      call.done call.rules .rules .failed (some
        (if message = "paid_provider_timeout" then "paid_provider_timeout"
        else "paid_provider_error")))
  | .ok paid =>
    match aiCallOf paid with
    | none =>
      ({ world with
          usage := (releaseReservation greatestZero eventId "gate_not_fired" world.usage).1
          }.releaseGlobal env call,
        call.done paid .rules call.baseStatus
          (if call.basicDenied then call.basicReason else some "gate_not_fired"))
    | some record =>
      if record.status = "failed" ∨ record.status = "unavailable" then
        ((world.refund env call eventId).recordFailure env,
          call.done call.rules .rules .failed (some "paid_provider_failed"))
      else
        (world.charge env call eventId paid, call.done paid .paid .processedPaid none)

def callPaidProvider (env : MeteredEnv) (input : ClassificationInput) (cfg : HybridConfig)
    (call : PaidCall) (eventId : String) (world : MeteredWorld) : MeteredWorld × MeteredResult :=
  let (outcome, calls) :=
    callProviderWithRetry (paidAttempt env input cfg) env.fuse.maxRetries 0
  settlePaidCall env call eventId outcome
    { world with trace := world.trace ++ List.replicate calls .providerCalled }

def premiumArgs (call : PaidCall) (idempotencyKey : String) : ReserveArgs where
  provider := call.provider
  modelKey := call.modelKey
  estMicros := call.estMicros
  idempotencyKey := idempotencyKey
  refs := ctx.refs
  internalAccess := ctx.internalAccess

/-- `reservePremiumCall`; `none` if it throws. -/
def reserveTenant (env : MeteredEnv) (ctx : MeteredCtx) (call : PaidCall) (idempotencyKey : String)
    (store : UsageStore) : UsageStore × Option ReserveResult :=
  if env.reserveThrows then (store, none)
  else
    reservePremiumCall ctx.plan (premiumArgs ctx call idempotencyKey) env.now env.freshPremium store

def paidFallback (env : MeteredEnv) (ctx : MeteredCtx) (input : ClassificationInput)
    (cfg : HybridConfig) (call : PaidCall) (idempotencyKey : String) (world : MeteredWorld) :
    MeteredWorld × MeteredResult :=
  let (global, refused) := reserveGlobalDailyCall call.provider call.estMicros
    ⟨env.fuse.globalDailyCallLimit, env.fuse.globalDailyCostLimitMicros⟩ env.now world.global
  let world := { world with global }
  match refused with
  | some reason => (world, call.done call.rules .rules call.baseStatus (some reason))
  | none =>
    let world := world.record .globalReserved
    let (usage, reserved) := reserveTenant env ctx call idempotencyKey world.usage
    let world := { world with usage }
    match reserved with
    | none =>
      (world.releaseGlobal env call,
        call.done call.rules .rules .failed (some "paid_provider_error"))
    | some (.refused reason _) =>
      (world.releaseGlobal env call,
        call.done call.rules .rules .premiumLimitReached (some reason))
    | some (.ok _ _ true _) =>
      (world.releaseGlobal env call,
        call.done call.rules .rules call.baseStatus (some "reused_reservation"))
    | some (.ok eventId _ false _) =>
      callPaidProvider env input cfg call eventId (world.record (.tenantReserved eventId))

/-- `try … finally`: the slot is given back however the part ends. -/
def withSlot (part : MeteredWorld → MeteredWorld × MeteredResult) : MeteredWorld × MeteredResult :=
  let (world, result) := part (world.record .slotAcquired)
  ({ world with guard := world.guard.release }.record .slotReleased, result)

def refreshKey (contentHash : String) : Option String :=
  if ctx.refresh then some ("refresh:" ++ ctx.correlationId.getD contentHash) else none

def allowlisted (env : MeteredEnv) (ctx : MeteredCtx) : Bool :=
  env.fuse.tenantAllowlist.isEmpty || env.fuse.tenantAllowlist.contains ctx.tenantId

def effectivePolicy : UsagePolicy :=
  resolveEffectiveUsagePolicy ctx.plan ctx.accessState ctx.internalAccess

def wantPaid (env : MeteredEnv) (ctx : MeteredCtx) (cfg : HybridConfig) : Bool :=
  (effectivePolicy ctx).allowPaidFallback && cfg.aiRisk.enabled && paidProvider cfg != "none" &&
    allowlisted env ctx

def rulesResult (env : MeteredEnv) (input : ClassificationInput) (cfg : HybridConfig) :
    HybridResult :=
  classifyHybrid env.database env.providers env.forceDiagnosticsError input (rulesConfig cfg)

def paidCallOf (env : MeteredEnv) (ctx : MeteredCtx) (input : ClassificationInput)
    (cfg : HybridConfig) (basic : BasicResult) : PaidCall where
  provider := paidProvider cfg
  modelKey := modelKeyOf cfg
  estMicros := estimateCostMicros (paidProvider cfg) (modelKeyOf cfg)
    (effectivePolicy ctx).maxInputTokensPerCall (effectivePolicy ctx).maxOutputTokensPerCall
  contentHash := contentHashOf env input cfg
  rules := rulesResult env input cfg
  baseStatus := if basic.denied then .basicLimitReached else .processedRules
  basicDenied := basic.denied
  basicReason := basic.reason

def basicArgs (contentHash : String) : BasicArgs where
  idempotencyKey := "basic:" ++ (refreshKey ctx contentHash).getD contentHash
  tier := .rules
  refs := ctx.refs
  internalAccess := ctx.internalAccess

def classifyMetered (env : MeteredEnv) (ctx : MeteredCtx) (input : ClassificationInput)
    (cfg : HybridConfig) (basic : BasicResult) (world : MeteredWorld) :
    MeteredWorld × MeteredResult :=
  let call := paidCallOf env ctx input cfg basic
  if !wantPaid env ctx cfg then
    (world, call.done call.rules .rules call.baseStatus
      (if allowlisted env ctx then basic.reason else some "tenant_not_allowlisted"))
  else
    let (guard, refused) := world.guard.tryAcquire env.fuse env.now
    let world := { world with guard }
    match refused with
    | some reason =>
      (world, call.done call.rules .rules
        (if reason = "paid_ai_disabled" then .paidAiDisabled else call.baseStatus) (some reason))
    | none =>
      withSlot world (paidFallback env ctx input cfg call
        ("prem:" ++ (refreshKey ctx call.contentHash).getD call.contentHash ++ ":" ++
          call.modelKey))

/-- `none` if the basic unit cannot be recorded: the call then throws. -/
def classifyWithUsagePolicy (env : MeteredEnv) (ctx : MeteredCtx) (input : ClassificationInput)
    (cfg : HybridConfig) (world : MeteredWorld) : MeteredWorld × Option MeteredResult :=
  let contentHash := contentHashOf env input cfg
  let cached :=
    if ctx.refresh then none
    else cacheGet world.cache contentHash (modelKeyOf cfg) policyVersion
  match cached with
  | some result =>
    ({ world with
        usage := recordCacheHit
          { idempotencyKey := "cache:" ++ contentHash ++ ":" ++ modelKeyOf cfg, refs := ctx.refs }
          ctx.plan env.now env.freshCacheHit world.usage },
      some { result with
        processingTier := .rules
        processingStatus := .cached
        processingReason := none
        contentHash })
  | none =>
    let (usage, basic) :=
      consumeBasicUnit ctx.plan (basicArgs ctx contentHash) env.now env.freshBasic world.usage
    let world := { world with usage }
    match basic with
    | none => (world, none)
    | some basic =>
      let (world, result) := classifyMetered env ctx input cfg basic world
      (world, some result)

end Tamanor.Sync
