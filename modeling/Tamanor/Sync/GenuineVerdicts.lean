import Tamanor.Ai.VerdictFloors
import Tamanor.Sync.CacheSoundness

/-! What metered classification answers with, fresh or from the cache: an answer of the pipeline
to an input with the key of the call. The cache keeps this over every call. -/

set_option autoImplicit false

namespace Tamanor.Sync

open Tamanor.Core Tamanor.Db Ai Library Library.Text

structure MeteredEnv.Calibrated (env : MeteredEnv) : Prop where
  uninjected : env.callProvider = none
  free : env.providers.Calibrated
  paid : ∀ attempt, ∀ providers ∈ env.answers attempt, providers.Calibrated

structure Genuine (env : MeteredEnv) (contentHash : String) (result : HybridResult) : Prop where
  answered : ∃ providers forceDiagnosticsError input cfg, Providers.Calibrated providers ∧
    Char.ofNat 0 ∉ cfg.workspaceLocale.toList ∧ contentHashOf env input cfg = contentHash ∧
    result = classifyHybrid env.database providers forceDiagnosticsError input cfg

def GenuineCache (env : MeteredEnv) (cache : ResultCache HybridResult) : Prop :=
  ∀ key, ∀ result ∈ cache.find? key, Genuine env key.contentHash result

/-- The part of an outcome that the next calls can see, and its answer. -/
structure GenuineOutcome (env : MeteredEnv) (contentHash : String)
    (outcome : MeteredWorld × MeteredResult) : Prop where
  result : Genuine env contentHash outcome.2.toHybridResult
  cache : GenuineCache env outcome.1.cache

section Genuine

variable {env : MeteredEnv} {contentHash : String} {result : HybridResult}

theorem Genuine.confidence (genuine : Genuine env contentHash result) : result.confidence ≤ 1 := by
  obtain ⟨providers, forceDiagnosticsError, input, cfg, calibrated, -, -, rfl⟩ := genuine.answered
  exact classifyHybrid_confidence _ calibrated _ _ _

/-- A genuine answer has the level that the filed category asks for, whichever input with this
key it was given to. -/
theorem Genuine.leastLevel {input : ClassificationInput} {cfg : HybridConfig}
    (genuine : Genuine env (contentHashOf env input cfg) result)
    (collisionFree : Function.Injective env.runtime.sha256)
    (plain : Char.ofNat 0 ∉ cfg.workspaceLocale.toList) (sentiment riskLevel : String)
    (confidence : ℚ) :
    rank (matchControlCategory env.database
        { text := input.text, riskSignals := result.explanation.riskSignals
          categories := result.categories
          sentiment, riskLevel, confidence }).leastLevel.value ≤ rank result.level := by
  obtain ⟨providers, forceDiagnosticsError, other, otherConfig, -, otherPlain, hash, answered⟩ :=
    genuine.answered
  obtain ⟨same, -⟩ := content_of_key collisionFree plain otherPlain hash.symm
  exact rank_leastLevel_le answered same sentiment riskLevel confidence

theorem GenuineCache.put {cache : ResultCache HybridResult} (genuine : GenuineCache env cache)
    (answered : Genuine env contentHash result) (modelKey policyVersion : String) :
    GenuineCache env (cachePut cache contentHash modelKey policyVersion result) := by
  intro key other found
  unfold cachePut at found
  rw [Option.mem_def, Table.find?_upsert] at found
  split at found
  next same =>
    cases found
    rw [same]
    exact answered
  next => exact genuine key other found

theorem callProviderWithRetry_ok {call : Nat → Except String HybridResult}
    (genuine : ∀ attempt result, call attempt = .ok result → Genuine env contentHash result)
    (retries attempt : Nat)
    (answered : (callProviderWithRetry call retries attempt).1 = .ok result) :
    Genuine env contentHash result := by
  induction retries generalizing attempt with
  | zero => exact genuine attempt result answered
  | succ retries ih =>
    unfold callProviderWithRetry at answered
    cases called : call attempt with
    | ok first =>
      rw [called] at answered
      cases answered
      exact genuine attempt _ called
    | error message =>
      rw [called] at answered
      exact ih (attempt + 1) answered

end Genuine

section Call

variable {env : MeteredEnv} {ctx : MeteredCtx} {input : ClassificationInput} {cfg : HybridConfig}
  {call : PaidCall} {world : MeteredWorld}

theorem paidAttempt_ok (calibrated : env.Calibrated)
    (plain : Char.ofNat 0 ∉ cfg.workspaceLocale.toList) (attempt : Nat) (result : HybridResult)
    (answered : paidAttempt env input cfg attempt = .ok result) :
    Genuine env (contentHashOf env input cfg) result := by
  unfold paidAttempt at answered
  rw [calibrated.uninjected] at answered
  dsimp only at answered
  cases came : env.answers attempt with
  | none =>
    rw [came] at answered
    cases answered
  | some providers =>
    rw [came] at answered
    cases answered
    exact ⟨providers, _, input,
      { cfg with aiRisk := { cfg.aiRisk with enabled := true, provider := paidProvider cfg } },
      calibrated.paid attempt providers came, plain, rfl, rfl⟩

theorem rulesResult_genuine (calibrated : env.Calibrated)
    (plain : Char.ofNat 0 ∉ cfg.workspaceLocale.toList) :
    Genuine env (contentHashOf env input cfg) (rulesResult env input cfg) :=
  ⟨env.providers, _, input, rulesConfig cfg, calibrated.free, plain, rfl, rfl⟩

theorem settlePaidCall_genuine (rules : Genuine env call.contentHash call.rules)
    (cache : GenuineCache env world.cache) (eventId : String)
    {outcome : Except String HybridResult}
    (answered : ∀ result, outcome = .ok result → Genuine env call.contentHash result) :
    GenuineOutcome env call.contentHash (settlePaidCall env call eventId outcome world) := by
  cases outcome with
  | error message => exact ⟨rules, cache⟩
  | ok paid =>
    have genuine := answered paid rfl
    cases consulted : aiCallOf paid with
    | none =>
      simp only [settlePaidCall, consulted]
      exact ⟨genuine, cache⟩
    | some record =>
      simp only [settlePaidCall, consulted]
      split
      · exact ⟨rules, cache⟩
      · exact ⟨genuine, cache.put genuine _ _⟩

section

variable (calibrated : env.Calibrated) (plain : Char.ofNat 0 ∉ cfg.workspaceLocale.toList)
include calibrated plain

theorem callPaidProvider_genuine (hash : call.contentHash = contentHashOf env input cfg)
    (rules : Genuine env call.contentHash call.rules) (cache : GenuineCache env world.cache)
    (eventId : String) :
    GenuineOutcome env call.contentHash
      (callPaidProvider env input cfg call eventId world) := by
  unfold callPaidProvider
  dsimp only
  have kept : GenuineCache env { world with
      trace := world.trace ++ List.replicate
        (callProviderWithRetry (paidAttempt env input cfg) env.fuse.maxRetries 0).2
        MeteredStep.providerCalled }.cache := cache
  refine settlePaidCall_genuine rules kept eventId ?_
  intro result answered
  refine callProviderWithRetry_ok (fun attempt result answered => ?_) _ 0 answered
  rw [hash]
  exact paidAttempt_ok calibrated plain attempt result answered

theorem paidFallback_genuine (hash : call.contentHash = contentHashOf env input cfg)
    (rules : Genuine env call.contentHash call.rules) (cache : GenuineCache env world.cache)
    (idempotencyKey : String) :
    GenuineOutcome env call.contentHash
      (paidFallback env ctx input cfg call idempotencyKey world) := by
  unfold paidFallback
  dsimp only
  split
  next => exact ⟨rules, cache⟩
  next =>
    split
    next => exact ⟨rules, cache⟩
    next => exact ⟨rules, cache⟩
    next => exact ⟨rules, cache⟩
    next =>
      refine callPaidProvider_genuine calibrated plain hash rules ?_ _
      exact cache

theorem classifyMetered_genuine (cache : GenuineCache env world.cache) (basic : BasicResult) :
    GenuineOutcome env (contentHashOf env input cfg)
      (classifyMetered env ctx input cfg basic world) := by
  have rules : Genuine env (contentHashOf env input cfg) (rulesResult env input cfg) :=
    rulesResult_genuine calibrated plain
  unfold classifyMetered
  dsimp only
  split
  · exact ⟨rules, cache⟩
  · split
    next => exact ⟨rules, cache⟩
    next =>
      have part := @paidFallback_genuine env ctx input cfg (paidCallOf env ctx input cfg basic)
        ({ world with guard := (world.guard.tryAcquire env.fuse env.now).1 }.record .slotAcquired)
        calibrated plain rfl rules cache
          ("prem:" ++ (refreshKey ctx (contentHashOf env input cfg)).getD
            (contentHashOf env input cfg) ++ ":" ++ modelKeyOf cfg)
      exact ⟨part.result, part.cache⟩

theorem classifyWithUsagePolicy_genuine (cache : GenuineCache env world.cache) :
    (∀ classified ∈ (classifyWithUsagePolicy env ctx input cfg world).2,
      Genuine env (contentHashOf env input cfg) classified.toHybridResult) ∧
    GenuineCache env (classifyWithUsagePolicy env ctx input cfg world).1.cache := by
  unfold classifyWithUsagePolicy
  dsimp only
  split
  next result found =>
    refine ⟨?_, cache⟩
    intro classified same
    cases same
    split at found
    · cases found
    · exact cache _ result found
  next =>
    generalize consumeBasicUnit _ _ _ _ _ = consumed
    obtain ⟨usage, basic⟩ := consumed
    cases basic with
    | none =>
      refine ⟨?_, cache⟩
      intro classified same
      cases same
    | some basic =>
      have kept : GenuineCache env { world with usage }.cache := cache
      have part := @classifyMetered_genuine env ctx input cfg { world with usage } calibrated plain
        kept basic
      dsimp only
      generalize classifyMetered env ctx input cfg basic { world with usage } = outcome at part ⊢
      refine ⟨?_, part.cache⟩
      intro classified same
      cases same
      exact part.result

end

end Call

end Tamanor.Sync
