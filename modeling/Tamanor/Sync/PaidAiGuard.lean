import Mathlib.Data.Int.Basic

/-! The fuses of one process in front of the paid provider (`paid-ai-guard.ts`): kill
switch, circuit breaker, requests per minute and concurrency. -/

set_option autoImplicit false

namespace Tamanor.Sync

structure PaidAiFuseConfig where
  enabled : Bool
  emergencyDisable : Bool
  globalDailyCallLimit : Nat
  globalDailyCostLimitMicros : Nat
  rpmLimit : Nat
  maxConcurrency : Nat
  maxRetries : Nat
  circuitFailureThreshold : Nat
  circuitCooldownMs : Nat
  tenantAllowlist : List String

def PaidAiFuseConfig.effectiveEnabled (cfg : PaidAiFuseConfig) : Bool :=
  cfg.enabled && !cfg.emergencyDisable &&
    !(cfg.globalDailyCallLimit == 0 || cfg.globalDailyCostLimitMicros == 0)

structure PaidAiGuard where
  windowMinute : Int
  windowCount : Nat
  inFlight : Nat
  failures : Nat
  circuitOpenUntil : Int
  halfOpen : Bool

def PaidAiGuard.initial : PaidAiGuard := ⟨-1, 0, 0, 0, 0, false⟩

namespace PaidAiGuard

def probe (guard : PaidAiGuard) : PaidAiGuard :=
  if 0 < guard.circuitOpenUntil then { guard with circuitOpenUntil := 0, halfOpen := true }
  else guard

def countIn (guard : PaidAiGuard) (minute : Int) : Nat :=
  if minute = guard.windowMinute then guard.windowCount else 0

/-- The answer is the reason of a refusal, or `none` with a slot taken. -/
def tryAcquire (cfg : PaidAiFuseConfig) (now : Int) (guard : PaidAiGuard) :
    PaidAiGuard × Option String :=
  if !cfg.effectiveEnabled then (guard, some "paid_ai_disabled")
  else if 0 < guard.circuitOpenUntil ∧ now < guard.circuitOpenUntil then
    (guard, some "provider_circuit_open")
  else
    let guard := guard.probe
    let minute := now.fdiv 60000
    let count := guard.countIn minute
    if cfg.rpmLimit < count + 1 then (guard, some "rpm_limit")
    else if cfg.maxConcurrency ≤ guard.inFlight then (guard, some "max_concurrency")
    else
      ({ guard with windowMinute := minute, windowCount := count + 1
                    inFlight := guard.inFlight + 1 }, none)

def release (guard : PaidAiGuard) : PaidAiGuard := { guard with inFlight := guard.inFlight - 1 }

def recordSuccess (guard : PaidAiGuard) : PaidAiGuard :=
  { guard with failures := 0, halfOpen := false, circuitOpenUntil := 0 }

def openCircuit (cfg : PaidAiFuseConfig) (now : Int) (guard : PaidAiGuard) : PaidAiGuard :=
  { guard with circuitOpenUntil := now + cfg.circuitCooldownMs, failures := 0 }

def recordFailure (cfg : PaidAiFuseConfig) (now : Int) (guard : PaidAiGuard) : PaidAiGuard :=
  if guard.halfOpen then { guard with halfOpen := false }.openCircuit cfg now
  else if cfg.circuitFailureThreshold ≤ guard.failures + 1 then guard.openCircuit cfg now
  else { guard with failures := guard.failures + 1 }

variable {cfg : PaidAiFuseConfig} {now : Int} {guard : PaidAiGuard}

@[simp] theorem probe_inFlight : guard.probe.inFlight = guard.inFlight := by
  unfold probe
  split <;> rfl

theorem tryAcquire_inFlight :
    (guard.tryAcquire cfg now).1.inFlight =
      guard.inFlight + if (guard.tryAcquire cfg now).2 = none then 1 else 0 := by
  unfold tryAcquire
  split
  · rfl
  · split
    · rfl
    · dsimp only
      split
      · exact probe_inFlight
      · split
        · exact probe_inFlight
        · simp

@[simp] theorem recordSuccess_inFlight : guard.recordSuccess.inFlight = guard.inFlight := rfl

@[simp] theorem recordFailure_inFlight :
    (guard.recordFailure cfg now).inFlight = guard.inFlight := by
  unfold recordFailure openCircuit
  split
  · rfl
  · split <;> rfl

end PaidAiGuard

end Tamanor.Sync
