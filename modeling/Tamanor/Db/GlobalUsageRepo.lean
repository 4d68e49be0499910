import Tamanor.Library.CivilDate
import Tamanor.Library.Table

/-! The daily cap on paid calls over all tenants (`global-usage-repo.ts`). The counters
are natural numbers: `GREATEST(…, 0)` is the subtraction that stops at zero. -/

set_option autoImplicit false

namespace Tamanor.Db

open Library

structure GlobalUsage where
  callsUsed : Nat
  costMicros : Nat

abbrev GlobalUsageStore := Table (Int × String) GlobalUsage

def dayStart (now : Int) : Int := now.fdiv millisecondsPerDay * millisecondsPerDay

structure GlobalCaps where
  callLimit : Nat
  costLimitMicros : Nat

def GlobalCaps.admit (caps : GlobalCaps) (estMicros : Nat) (usage : GlobalUsage) : Bool :=
  decide (usage.callsUsed + 1 ≤ caps.callLimit) &&
    decide (usage.costMicros + estMicros ≤ caps.costLimitMicros)

/-- The answer is the reason of a refusal, or `none` with a call reserved. -/
def reserveGlobalDailyCall (provider : String) (estMicros : Nat) (caps : GlobalCaps) (now : Int)
    (store : GlobalUsageStore) : GlobalUsageStore × Option String :=
  let key := (dayStart now, provider)
  let store := store.insert key { callsUsed := 0, costMicros := 0 }
  match store.find? key with
  | none => (store, some "global_daily_cost_limit")
  | some usage =>
    if caps.admit estMicros usage then
      (store.modify key fun usage =>
        { callsUsed := usage.callsUsed + 1, costMicros := usage.costMicros + estMicros }, none)
    else if caps.callLimit < usage.callsUsed + 1 then (store, some "global_daily_call_limit")
    else (store, some "global_daily_cost_limit")

def finalizeGlobalDailyCall (provider : String) (reservedMicros actualMicros : Nat) (now : Int)
    (store : GlobalUsageStore) : GlobalUsageStore :=
  if (actualMicros : Int) - reservedMicros = 0 then store
  else
    store.modify (dayStart now, provider) fun usage =>
      { usage with
        costMicros := ((usage.costMicros : Int) + (actualMicros - reservedMicros)).toNat }

def releaseGlobalDailyCall (provider : String) (reservedMicros : Nat) (now : Int)
    (store : GlobalUsageStore) : GlobalUsageStore :=
  store.modify (dayStart now, provider) fun usage =>
    { callsUsed := usage.callsUsed - 1, costMicros := usage.costMicros - reservedMicros }

def globalUsage (store : GlobalUsageStore) (key : Int × String) : GlobalUsage :=
  (store.find? key).getD { callsUsed := 0, costMicros := 0 }

/-! What the three statements do to the counters. -/

variable {store : GlobalUsageStore} {provider : String} {estMicros : Nat} {caps : GlobalCaps}
  {now : Int}

theorem globalUsage_modify {key changed : Int × String} (change : GlobalUsage → GlobalUsage)
    {usage : GlobalUsage} (found : store.find? changed = some usage) :
    globalUsage (store.modify changed change) key =
      if key = changed then change (globalUsage store key) else globalUsage store key := by
  unfold globalUsage
  rw [Table.find?_modify]
  split
  next same =>
    rw [same, found]
    rfl
  next => rfl

theorem globalUsage_insert (added key : Int × String) :
    globalUsage (store.insert added { callsUsed := 0, costMicros := 0 }) key =
      globalUsage store key := by
  cases found : store.find? added with
  | some usage => rw [Table.insert_taken found]
  | none =>
    unfold globalUsage
    rw [Table.find?_insert added found]
    split
    next same =>
      rw [same, found]
      rfl
    next => rfl

theorem find?_insert_self (store : GlobalUsageStore) (key : Int × String) (usage : GlobalUsage) :
    ∃ present, (store.insert key usage).find? key = some present := by
  cases found : store.find? key with
  | some present =>
    rw [Table.insert_taken found]
    exact ⟨present, found⟩
  | none =>
    rw [Table.find?_insert key found, if_pos rfl]
    exact ⟨usage, rfl⟩

structure GlobalReserved (provider : String) (estMicros : Nat) (now : Int)
    (before after : GlobalUsageStore) : Prop where
  row : ∃ usage, after.find? (dayStart now, provider) = some usage
  counters : ∀ key, globalUsage after key =
    if key = (dayStart now, provider) then
      { callsUsed := (globalUsage before key).callsUsed + 1
        costMicros := (globalUsage before key).costMicros + estMicros }
    else globalUsage before key

theorem reserveGlobalDailyCall_spec (provider : String) (estMicros : Nat) (caps : GlobalCaps)
    (now : Int) (store : GlobalUsageStore) :
    match (reserveGlobalDailyCall provider estMicros caps now store).2 with
    | none => GlobalReserved provider estMicros now store
        (reserveGlobalDailyCall provider estMicros caps now store).1
    | some _ => ∀ key, globalUsage (reserveGlobalDailyCall provider estMicros caps now store).1 key =
        globalUsage store key := by
  unfold reserveGlobalDailyCall
  obtain ⟨usage, present⟩ := find?_insert_self store (dayStart now, provider) ⟨0, 0⟩
  dsimp only
  rw [present]
  dsimp only
  by_cases admitted : caps.admit estMicros usage = true
  · rw [if_pos admitted]
    refine ⟨⟨_, by rw [Table.find?_modify, if_pos rfl, present]; rfl⟩, ?_⟩
    intro key
    rw [globalUsage_modify _ present, globalUsage_insert]
  · rw [if_neg admitted]
    split
    next granted => split at granted <;> cases granted
    next =>
      intro key
      split <;> exact globalUsage_insert _ _

theorem GlobalReserved.release {before after : GlobalUsageStore}
    (reserved : GlobalReserved provider estMicros now before after) (key : Int × String) :
    globalUsage (releaseGlobalDailyCall provider estMicros now after) key =
      globalUsage before key := by
  obtain ⟨usage, present⟩ := reserved.row
  unfold releaseGlobalDailyCall
  rw [globalUsage_modify _ present, reserved.counters]
  split
  · simp
  · rfl

theorem GlobalReserved.finalize {before after : GlobalUsageStore}
    (reserved : GlobalReserved provider estMicros now before after) (actualMicros : Nat)
    (key : Int × String) :
    globalUsage (finalizeGlobalDailyCall provider estMicros actualMicros now after) key =
      if key = (dayStart now, provider) then
        { callsUsed := (globalUsage before key).callsUsed + 1
          costMicros := (globalUsage before key).costMicros + actualMicros }
      else globalUsage before key := by
  obtain ⟨usage, present⟩ := reserved.row
  unfold finalizeGlobalDailyCall
  split
  next unchanged =>
    have same : actualMicros = estMicros := by omega
    rw [reserved.counters, same]
  next =>
    rw [globalUsage_modify _ present, reserved.counters]
    split
    · simp only [GlobalUsage.mk.injEq, true_and]
      omega
    · rfl

end Tamanor.Db
