import Tamanor.Db.UsageRepoProperties

/-! Repeated calls with one idempotency key (`usage-repo.ts`). An event that is no longer
reserved stays as it is, through all periods; what a repeated call reports of it is a matter
of the two operations, and each loses what the other one keeps. -/

set_option autoImplicit false

namespace Tamanor.Db

open Tamanor.Core Library

def UsageStore.statusOf (store : UsageStore) (key : String) : Option UsageEventStatus :=
  (store.findByKey key).map (·.2.status)

/-- An event is final unless it is reserved; the final ones keep their status. -/
structure UsageStore.Keeps (before after : UsageStore) : Prop where
  final : ∀ {key status}, status ≠ .reserved → before.statusOf key = some status →
    after.statusOf key = some status

section Keeps

variable {before between after store : UsageStore} {key : String} {status : UsageEventStatus}
  {clamp : Int → Int}

theorem UsageStore.Keeps.unchanged (same : after.events = before.events) : before.Keeps after := by
  refine ⟨fun _ stored => ?_⟩
  rw [statusOf, findByKey] at stored ⊢
  rwa [same]

theorem UsageStore.Keeps.trans (first : before.Keeps between) (second : between.Keeps after) :
    before.Keeps after :=
  ⟨fun final stored => second.final final (first.final final stored)⟩

variable {id : String}

theorem UsageStore.statusOf_insert {event : UsageEvent} (absent : before.events.find? id = none)
    (inserted : after.events = before.events.insert id event) :
    after.statusOf key =
      (before.statusOf key).or (if event.idempotencyKey = key then some event.status else none) := by
  rw [statusOf, statusOf, findByKey, findByKey, inserted, Table.rows_insert id absent,
    List.find?_append]
  cases before.events.rows.find? fun row => row.2.idempotencyKey == key with
  | some row => rfl
  | none => by_cases same : event.idempotencyKey = key <;> simp [same]

theorem UsageStore.Keeps.insert {event : UsageEvent} (absent : before.events.find? id = none)
    (inserted : after.events = before.events.insert id event) : before.Keeps after := by
  refine ⟨fun _ stored => ?_⟩
  rw [statusOf_insert absent inserted, stored]
  rfl

theorem UsageStore.Keeps.rewrite {change : UsageEvent → UsageEvent}
    (rewritten : after.events = before.events.modify id change)
    (kept : ∀ event, (change event).idempotencyKey = event.idempotencyKey)
    (final : ∀ event, before.events.find? id = some event → event.status ≠ .reserved →
      (change event).status = event.status) : before.Keeps after := by
  refine ⟨fun notReserved stored => ?_⟩
  rw [statusOf, findByKey, rewritten,
    Table.find?_rows_modify before.events id change fun event _ => by rw [kept]]
  rw [statusOf, findByKey] at stored
  obtain ⟨⟨other, event⟩, found, rfl⟩ := Option.map_eq_some_iff.mp stored
  rw [found]
  dsimp only [Option.map_some]
  split
  next same =>
    have there := Table.find?_of_find?_rows found
    obtain rfl : other = id := same
    exact congrArg some (final event there notReserved)
  next => rfl

theorem UsageStore.Keeps.getOrCreate (plan : String) (now : Int) :
    store.Keeps (getOrCreateCurrentPeriod plan now store) :=
  .unchanged rfl

theorem UsageStore.Keeps.reserve (policy : UsagePolicy) (args : ReserveArgs) (periodId : Int)
    (fresh : FreshEvent) : store.Keeps (reserveTx policy args periodId fresh store).1 := by
  unfold reserveTx
  split
  · exact .unchanged rfl
  · split
    next period there absent =>
      dsimp only
      split <;> exact .insert absent rfl
    next => exact .unchanged rfl

theorem UsageStore.Keeps.finalize (eventId : String) (outcome : FinalizeOutcome) :
    store.Keeps (finalizePremiumCall clamp eventId outcome store).1 := by
  unfold finalizePremiumCall
  split
  · exact .unchanged rfl
  next event found =>
    split
    · exact .unchanged rfl
    next reserved =>
      rw [not_not] at reserved
      have same : ∀ other, store.events.find? eventId = some other → other.status = .reserved := by
        intro other there
        rw [found] at there
        cases there
        exact reserved
      split
      · exact .rewrite rfl (fun _ => rfl) fun other there final => absurd (same other there) final
      · exact .rewrite rfl (fun _ => rfl) fun other there final => absurd (same other there) final

theorem UsageStore.Keeps.note (eventId reason : String) :
    store.Keeps (noteReason eventId reason store) := by
  have rewritten : (noteReason eventId reason store).events =
      store.events.modify eventId fun event => { event with reason := some reason } := rfl
  exact .rewrite rewritten (fun _ => rfl) fun _ _ _ => rfl

theorem UsageStore.Keeps.release (eventId reason : String) :
    store.Keeps (releaseReservation clamp eventId reason store).1 := by
  have finalized := @UsageStore.Keeps.finalize store clamp eventId unbilledFailure
  unfold releaseReservation
  generalize finalizePremiumCall clamp eventId unbilledFailure store = attempt at finalized ⊢
  obtain ⟨released, result⟩ := attempt
  dsimp only
  split
  · exact finalized.trans (.note eventId reason)
  · exact finalized

theorem UsageStore.Keeps.recover (stale : List (String × UsageEvent))
    (remaining : store.StillStale stale) : store.Keeps (stale.foldl (recoverOne clamp) store) := by
  induction stale generalizing store with
  | nil => exact .unchanged rfl
  | cons first rest ih =>
    obtain ⟨found, reserved⟩ := remaining.2 first List.mem_cons_self
    have step : store.Keeps (recoverOne clamp store first) := by
      refine .rewrite rfl (fun _ => rfl) fun other there final => ?_
      rw [found] at there
      cases there
      exact absurd reserved final
    exact step.trans (ih remaining.step)

theorem UsageStore.Keeps.consume (policy : UsagePolicy) (args : BasicArgs) (periodId : Int)
    (fresh : FreshEvent) : store.Keeps (consumeBasicTx policy args periodId fresh store).1 := by
  unfold consumeBasicTx
  split
  · exact .unchanged rfl
  · split
    next period there absent =>
      split <;> exact .insert absent rfl
    next => exact .unchanged rfl

theorem UsageStore.Keeps.cacheHit (args : CacheHitArgs) (periodId : Int) (fresh : FreshEvent) :
    store.Keeps (recordCacheHitTx args periodId fresh store) := by
  unfold recordCacheHitTx
  split
  next there absent => exact .insert absent rfl
  next => exact .unchanged rfl

theorem UsageStore.Keeps.apply (call : UsageCall) : store.Keeps (call.apply clamp store) := by
  cases call with
  | getOrCreateCurrentPeriod plan now => exact .getOrCreate plan now
  | reserve plan args periodId fresh => exact .reserve _ args periodId fresh
  | finalize eventId outcome => exact .finalize eventId outcome
  | noteReason eventId reason => exact .note eventId reason
  | recoverStale olderThanMs now => exact .recover _ (store.stillStale_staleReservations _)
  | consumeBasic plan args periodId fresh => exact .consume _ args periodId fresh
  | recordCacheHit args periodId fresh => exact .cacheHit args periodId fresh

theorem UsageStore.Keeps.run (calls : List UsageCall) :
    store.Keeps (calls.foldl (UsageCall.apply clamp) store) := by
  induction calls generalizing store with
  | nil => exact .unchanged rfl
  | cons call calls ih => exact (UsageStore.Keeps.apply call).trans ih

end Keeps

def UsageStore.currentUse (store : UsageStore) (now : Int) : Int × Int :=
  match store.periods.find? (currentPeriodBounds now).1 with
  | some period => (period.premiumCallsUsed, period.premiumCostMicros)
  | none => (0, 0)

theorem find?_getOrCreateCurrentPeriod (plan : String) (now : Int) (store : UsageStore) :
    ∃ period, (getOrCreateCurrentPeriod plan now store).periods.find? (currentPeriodBounds now).1 =
      some period ∧ (period.premiumCallsUsed, period.premiumCostMicros) = store.currentUse now := by
  unfold getOrCreateCurrentPeriod UsageStore.currentUse
  dsimp only
  cases present : store.periods.find? (currentPeriodBounds now).1 with
  | some period =>
    rw [Table.insert_taken present]
    exact ⟨period, present, rfl⟩
  | none => exact ⟨_, Table.find?_insert_self present, rfl⟩

theorem statusOf_consumeBasicUnit {store : UsageStore} {plan : String} {args : BasicArgs}
    {now : Int} {fresh : FreshEvent} {key : String} (other : args.idempotencyKey ≠ key) :
    (consumeBasicUnit plan args now fresh store).1.statusOf key = store.statusOf key := by
  unfold consumeBasicUnit consumeBasicTx
  split
  · rfl
  · split
    next there absent =>
      have inserted (event : UsageEvent) (same : event.idempotencyKey = args.idempotencyKey) :
          (store.insertEvent fresh.id event).statusOf key = store.statusOf key := by
        rw [UsageStore.statusOf_insert absent rfl, same, if_neg other, Option.or_none]
        rfl
      split <;> exact inserted _ rfl
    next => rfl

/-- In the history of a tenant, a call for a basic unit of this key was denied. -/
def FirstDenied (calls : List UsageCall) (key : String) : Prop :=
  ∃ before plan args periodId fresh after result,
    calls = before ++ .consumeBasic plan args periodId fresh :: after ∧ args.idempotencyKey = key ∧
    (consumeBasicTx (resolveEffectiveUsagePolicy plan none args.internalAccess) args periodId fresh
      (runUsage greatestZero before)).2 = some result ∧ result.denied = true

def DeniedAgain (calls : List UsageCall) (key : String) : Prop :=
  FirstDenied calls key → ∀ plan args now fresh, args.idempotencyKey = key →
    ∀ result, (consumeBasicUnit plan args now fresh (runUsage greatestZero calls)).2 = some result →
      result.denied = true

section Basic

variable {store : UsageStore} {args : BasicArgs} {fresh : FreshEvent}

theorem consumeBasicTx_statusOf {policy : UsagePolicy} {periodId : Int} {result : BasicResult}
    (unknown : store.statusOf args.idempotencyKey = none)
    (returned : (consumeBasicTx policy args periodId fresh store).2 = some result) :
    (consumeBasicTx policy args periodId fresh store).1.statusOf args.idempotencyKey =
      some (if result.denied then .denied else .succeeded) := by
  have missing : store.findByKey args.idempotencyKey = none := Option.map_eq_none_iff.mp unknown
  unfold consumeBasicTx at returned ⊢
  rw [missing] at returned ⊢
  dsimp only at returned ⊢
  split at returned
  next period absent there taken =>
    split at returned
    next within =>
      obtain rfl := Option.some.inj returned
      rw [if_pos within, UsageStore.statusOf_insert taken rfl, unknown]
      simp [basicEvent]
    next beyond =>
      obtain rfl := Option.some.inj returned
      rw [if_neg beyond, UsageStore.statusOf_insert taken rfl, unknown]
      simp [basicEvent]
  next => cases returned

theorem consumeBasicTx_replay (policy : UsagePolicy) (args : BasicArgs) (periodId : Int)
    (fresh : FreshEvent) {status : UsageEventStatus}
    (stored : store.statusOf args.idempotencyKey = some status) :
    ∃ id, consumeBasicTx policy args periodId fresh store =
      (store, some ⟨false, true, false, none, id⟩) := by
  obtain ⟨⟨id, event⟩, found, -⟩ := Option.map_eq_some_iff.mp stored
  refine ⟨id, ?_⟩
  rw [consumeBasicTx, found]

theorem statusOf_of_firstDenied {calls : List UsageCall} {key : String}
    (denied : FirstDenied calls key) :
    (runUsage greatestZero calls).statusOf key = some .denied := by
  obtain ⟨before, plan, args, periodId, fresh, after, result, rfl, rfl, returned, answer⟩ := denied
  have unknown : (runUsage greatestZero before).statusOf args.idempotencyKey = none := by
    cases known : (runUsage greatestZero before).statusOf args.idempotencyKey with
    | none => rfl
    | some status =>
      obtain ⟨id, replayed⟩ := consumeBasicTx_replay
        (resolveEffectiveUsagePolicy plan none args.internalAccess) args periodId fresh known
      rw [replayed] at returned
      obtain rfl := Option.some.inj returned
      cases answer
  have stored := consumeBasicTx_statusOf unknown returned
  rw [answer, if_pos rfl] at stored
  have run : runUsage greatestZero
      (before ++ .consumeBasic plan args periodId fresh :: after) =
      after.foldl (UsageCall.apply greatestZero)
        (consumeBasicTx (resolveEffectiveUsagePolicy plan none args.internalAccess) args periodId
          fresh (runUsage greatestZero before)).1 := by
    rw [runUsage, List.foldl_append]
    rfl
  rw [run]
  exact (UsageStore.Keeps.run after).final (by decide) stored

theorem consumeBasicUnit_isSome {plan : String} {now : Int}
    (counted : store.statusOf args.idempotencyKey ≠ none ∨ store.events.find? fresh.id = none) :
    ∃ basic, (consumeBasicUnit plan args now fresh store).2 = some basic := by
  unfold consumeBasicUnit
  cases stored : store.statusOf args.idempotencyKey with
  | some status =>
    have same : (getOrCreateCurrentPeriod plan now store).statusOf args.idempotencyKey =
      some status := stored
    obtain ⟨id, replayed⟩ := consumeBasicTx_replay
      (resolveEffectiveUsagePolicy plan none args.internalAccess) args (currentPeriodBounds now).1
      fresh same
    exact ⟨_, congrArg Prod.snd replayed⟩
  | none =>
    have unknown : (getOrCreateCurrentPeriod plan now store).findByKey args.idempotencyKey =
      none := Option.map_eq_none_iff.mp stored
    have absent : (getOrCreateCurrentPeriod plan now store).events.find? fresh.id = none :=
      counted.resolve_left (not_not.mpr stored)
    obtain ⟨period, there, -⟩ := find?_getOrCreateCurrentPeriod plan now store
    unfold consumeBasicTx
    rw [unknown, there, absent]
    dsimp only
    split <;> exact ⟨_, rfl⟩

theorem statusOf_consumeBasicUnit_self {plan : String} {now : Int} {basic : BasicResult}
    (returned : (consumeBasicUnit plan args now fresh store).2 = some basic) :
    (consumeBasicUnit plan args now fresh store).1.statusOf args.idempotencyKey =
      some ((store.statusOf args.idempotencyKey).getD
        (if basic.denied then .denied else .succeeded)) := by
  unfold consumeBasicUnit at returned ⊢
  cases known : store.statusOf args.idempotencyKey with
  | some status =>
    have same : (getOrCreateCurrentPeriod plan now store).statusOf args.idempotencyKey =
      some status := known
    obtain ⟨id, replayed⟩ := consumeBasicTx_replay
      (resolveEffectiveUsagePolicy plan none args.internalAccess) args (currentPeriodBounds now).1
      fresh same
    rw [replayed, same]
    rfl
  | none => exact consumeBasicTx_statusOf known returned

theorem deniedAgain_iff (calls : List UsageCall) (key : String) :
    DeniedAgain calls key ↔ ¬ FirstDenied calls key := by
  constructor
  · intro again denied
    let args : BasicArgs := ⟨key, .rules, ⟨none, none, none⟩, false⟩
    have stored := (UsageStore.Keeps.getOrCreate "free" 0).final (by decide)
      (statusOf_of_firstDenied denied)
    obtain ⟨id, replayed⟩ := consumeBasicTx_replay (resolveEffectiveUsagePolicy "free" none false)
      args (currentPeriodBounds 0).1 ⟨"", "", 0⟩ stored
    have reported := again denied "free" args 0 ⟨"", "", 0⟩ rfl _ (congrArg Prod.snd replayed)
    cases reported
  · exact fun never denied => absurd denied never

end Basic

/-- Neither open nor charged: released, failed, denied, or a cache hit. -/
def UsageEventStatus.Settled (status : UsageEventStatus) : Prop :=
  status ≠ .reserved ∧ status ≠ .succeeded

def LimitExceeded (policy : UsagePolicy) (estMicros : Nat) (used : Int × Int) : Prop :=
  (∃ limit, policy.premiumCallsPerPeriod = some limit ∧ (limit : Int) < used.1 + 1) ∨
    ∃ limit, policy.premiumCostLimitMicros = some limit ∧ (limit : Int) < used.2 + estMicros

section Premium

variable {store : UsageStore} {now : Int}

theorem withinLimit_eq_false_iff {limit : Option Nat} {wanted : Int} :
    withinLimit limit wanted = false ↔ ∃ bound, limit = some bound ∧ (bound : Int) < wanted := by
  cases limit <;> simp [withinLimit]

theorem limitExceeded_iff {policy : UsagePolicy} {estMicros : Nat} {period : UsagePeriod} :
    LimitExceeded policy estMicros (period.premiumCallsUsed, period.premiumCostMicros) ↔
      reserveGuard policy estMicros period = false := by
  rw [reserveGuard, Bool.and_eq_false_iff, withinLimit_eq_false_iff, withinLimit_eq_false_iff]
  rfl

@[simp] theorem currentUse_getOrCreateCurrentPeriod (plan : String) :
    (getOrCreateCurrentPeriod plan now store).currentUse now = store.currentUse now := by
  obtain ⟨period, found, used⟩ := find?_getOrCreateCurrentPeriod plan now store
  rw [← used, UsageStore.currentUse, found]

@[simp] theorem currentUse_consumeBasicUnit (plan : String) (args : BasicArgs) (fresh : FreshEvent) :
    (consumeBasicUnit plan args now fresh store).1.currentUse now = store.currentUse now := by
  rw [← @currentUse_getOrCreateCurrentPeriod store now plan]
  unfold consumeBasicUnit consumeBasicTx
  split
  · rfl
  · split
    · split
      · simp only [UsageStore.currentUse, UsageStore.insertEvent, Table.find?_modify, if_pos]
        cases (getOrCreateCurrentPeriod plan now store).periods.find? (currentPeriodBounds now).1 <;>
          rfl
      · rfl
    · rfl

variable {args : ReserveArgs} {fresh : FreshEvent}

theorem reserveTx_refused {policy : UsagePolicy} {periodId : Int} {reason eventId : String}
    (refused : (reserveTx policy args periodId fresh store).2 = some (.refused reason eventId)) :
    (reserveTx policy args periodId fresh store).1.periods = store.periods ∧
      ((∃ status, store.statusOf args.idempotencyKey = some status ∧ status.Settled) ∨
        ∃ period, store.periods.find? periodId = some period ∧
          reserveGuard policy args.estMicros period = false) := by
  unfold reserveTx at refused ⊢
  cases known : store.findByKey args.idempotencyKey with
  | some row =>
    obtain ⟨id, existing⟩ := row
    rw [known] at refused
    refine ⟨rfl, .inl ⟨existing.status, ?_, ?_⟩⟩
    · rw [UsageStore.statusOf, known, Option.map_some]
    · by_cases held : existing.status = .reserved ∨ existing.status = .succeeded
      · simp [reserveReplay, held] at refused
      · exact not_or.mp held
  | none =>
    rw [known] at refused
    cases there : store.periods.find? periodId with
    | none => simp [there] at refused
    | some period =>
      cases taken : store.events.find? fresh.id with
      | some event => simp [there, taken] at refused
      | none =>
        rw [there, taken] at refused
        dsimp only at refused ⊢
        split at refused
        · cases refused
        next beyond =>
          rw [if_neg beyond]
          exact ⟨rfl, .inr ⟨period, rfl, eq_false_of_ne_true beyond⟩⟩

/-- A refusal writes no counter, and has one of two grounds: a settled event under the key, or
the limits of the current month. -/
theorem reservePremiumCall_refused {plan : String} {reason eventId : String}
    (refused : (reservePremiumCall plan args now fresh store).2 = some (.refused reason eventId)) :
    (reservePremiumCall plan args now fresh store).1.currentUse now = store.currentUse now ∧
      ((∃ status, store.statusOf args.idempotencyKey = some status ∧ status.Settled) ∨
        LimitExceeded (resolveEffectiveUsagePolicy plan none args.internalAccess) args.estMicros
          (store.currentUse now)) := by
  obtain ⟨periods, grounds⟩ := reserveTx_refused refused
  obtain ⟨period, found, used⟩ := find?_getOrCreateCurrentPeriod
    (resolveEffectiveUsagePolicy plan none args.internalAccess).plan.value now store
  constructor
  · rw [← used, UsageStore.currentUse]
    have same : (reservePremiumCall plan args now fresh store).1.periods.find?
        (currentPeriodBounds now).1 = some period := (congrArg (Table.find? · _) periods).trans found
    rw [same]
  · refine grounds.imp id ?_
    rintro ⟨other, there, beyond⟩
    obtain rfl := Option.some.inj (found.symm.trans there)
    rw [← used]
    exact limitExceeded_iff.mpr beyond

theorem reservePremiumCall_settled {plan : String} {status : UsageEventStatus}
    (stored : store.statusOf args.idempotencyKey = some status) (settled : status.Settled) :
    ∃ reason eventId, (reservePremiumCall plan args now fresh store).2 =
      some (.refused reason eventId) := by
  obtain ⟨⟨id, existing⟩, found, rfl⟩ := Option.map_eq_some_iff.mp stored
  refine ⟨existing.reason.getD "already_finalized", id, ?_⟩
  have known : (getOrCreateCurrentPeriod
      (resolveEffectiveUsagePolicy plan none args.internalAccess).plan.value now store).findByKey
        args.idempotencyKey = some (id, existing) := found
  unfold reservePremiumCall reserveTx
  dsimp only
  rw [known]
  dsimp only
  rw [reserveReplay, if_neg (not_or.mpr settled)]

end Premium

end Tamanor.Db
