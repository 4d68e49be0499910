import Tamanor.Db.UsageRepo

/-! Conservation of the usage counters: in every store that committed transactions
can reach, the counters of a period are what its paid events add up to. -/

set_option autoImplicit false

namespace Tamanor.Db

open Tamanor.Core Library

/-- A paid event that holds a call: reserved, or finalized with a charge. -/
def UsageEvent.charged (event : UsageEvent) : Bool :=
  event.processingTier == .paid &&
    (event.status == .reserved || event.status == .succeeded || event.status == .failed)

def UsageEvent.cost (event : UsageEvent) : Nat :=
  if event.status = .reserved then event.reservedCostMicros else event.actualCostMicros.getD 0

def UsageEvent.heldCalls (event : UsageEvent) : Int := if event.charged then 1 else 0

def UsageEvent.heldCost (event : UsageEvent) : Int := if event.charged then event.cost else 0

def inPeriod (held : UsageEvent → Int) (periodId : Int) (_ : String) (event : UsageEvent) : Int :=
  if event.usagePeriodId = periodId then held event else 0

theorem UsageEvent.heldCalls_nonneg (event : UsageEvent) : 0 ≤ event.heldCalls := by
  unfold heldCalls
  split <;> decide

theorem UsageEvent.heldCost_nonneg (event : UsageEvent) : 0 ≤ event.heldCost := by
  unfold heldCost
  split
  · exact Int.natCast_nonneg _
  · exact Int.le_refl 0

def UsageEvent.Open (event : UsageEvent) : Prop :=
  event.processingTier = .paid ∧ event.status = .reserved

theorem UsageEvent.Open.held {event : UsageEvent} (isOpen : event.Open) :
    event.heldCalls = 1 ∧ event.heldCost = event.reservedCostMicros := by
  obtain ⟨paid, reserved⟩ := isOpen
  simp [heldCalls, heldCost, charged, cost, paid, reserved]

theorem releaseEvent_held (reason : Option String) (event : UsageEvent) :
    (releaseEvent reason event).heldCalls = 0 ∧ (releaseEvent reason event).heldCost = 0 := by
  simp [releaseEvent, UsageEvent.heldCalls, UsageEvent.heldCost, UsageEvent.charged]

theorem finalizeEvent_held {event : UsageEvent} (isOpen : event.Open) (outcome : FinalizeOutcome)
    (actual : Nat) :
    (finalizeEvent outcome actual event).heldCalls = 1 ∧
      (finalizeEvent outcome actual event).heldCost = actual := by
  cases settled : outcome.status <;>
    simp [finalizeEvent, UsageEvent.heldCalls, UsageEvent.heldCost, UsageEvent.charged,
      UsageEvent.cost, FinalStatus.eventStatus, settled, isOpen.1]

structure UsageStore.Conserved (store : UsageStore) : Prop where
  calls : ∀ {periodId period}, store.periods.find? periodId = some period →
    period.premiumCallsUsed = store.events.total (inPeriod UsageEvent.heldCalls periodId)
  cost : ∀ {periodId period}, store.periods.find? periodId = some period →
    period.premiumCostMicros = store.events.total (inPeriod UsageEvent.heldCost periodId)
  /-- Only paid events are ever reserved. -/
  paid : ∀ {eventId event}, store.events.find? eventId = some event →
    event.status = .reserved → event.processingTier = .paid
  /-- Every event belongs to a period that exists. -/
  anchored : ∀ {eventId event}, store.events.find? eventId = some event →
    ∃ period, store.periods.find? event.usagePeriodId = some period

theorem UsageStore.Conserved.empty : UsageStore.empty.Conserved where
  calls found := by cases found
  cost found := by cases found
  paid found := by cases found
  anchored found := by cases found

section Steps

variable {store : UsageStore} {periodId : Int} {period : UsagePeriod} {eventId : String}
  {event : UsageEvent}

/-- A write to one period and to some of its events conserves, if the period is
adjusted by what the events hold more (`delta`). -/
theorem UsageStore.Conserved.change (conserved : store.Conserved)
    (there : store.periods.find? periodId = some period) {adjust : UsagePeriod → UsagePeriod}
    {events : Table String UsageEvent} (delta : (UsageEvent → Int) → Int)
    (sums : ∀ held otherId, events.total (inPeriod held otherId) =
      store.events.total (inPeriod held otherId) + if otherId = periodId then delta held else 0)
    (reads : ∀ {eventId event}, events.find? eventId = some event →
      store.events.find? eventId = some event ∨
        (event.usagePeriodId = periodId ∧ (event.status = .reserved → event.processingTier = .paid)))
    (calls : (adjust period).premiumCallsUsed =
      period.premiumCallsUsed + delta UsageEvent.heldCalls)
    (cost : (adjust period).premiumCostMicros =
      period.premiumCostMicros + delta UsageEvent.heldCost) :
    UsageStore.Conserved { periods := store.periods.modify periodId adjust, events } := by
  -- The one computation behind both counters.
  have counter (held : UsageEvent → Int) (used : UsagePeriod → Int)
      (before : ∀ {otherId other}, store.periods.find? otherId = some other →
        used other = store.events.total (inPeriod held otherId))
      (adjusted : used (adjust period) = used period + delta held) {otherId : Int}
      {after : UsagePeriod}
      (found : (store.periods.modify periodId adjust).find? otherId = some after) :
      used after = events.total (inPeriod held otherId) := by
    rw [sums]
    rw [Table.find?_modify] at found
    by_cases same : otherId = periodId
    · subst same
      rw [if_pos rfl, there] at found
      cases found
      rw [if_pos rfl, adjusted, before there]
    · rw [if_neg same] at found
      rw [if_neg same, before found, Int.add_zero]
  have kept {otherId : Int} (exists_ : ∃ other, store.periods.find? otherId = some other) :
      ∃ other, (store.periods.modify periodId adjust).find? otherId = some other := by
    obtain ⟨other, there⟩ := exists_
    rw [Table.find?_modify, there]
    split <;> simp
  refine ⟨?_, ?_, ?_, ?_⟩
  · intro otherId other found
    exact counter _ UsagePeriod.premiumCallsUsed conserved.calls calls found
  · intro otherId other found
    exact counter _ UsagePeriod.premiumCostMicros conserved.cost cost found
  · intro eventId event found reserved
    rcases reads found with old | ⟨-, paid⟩
    · exact conserved.paid old reserved
    · exact paid reserved
  · intro eventId event found
    rcases reads found with old | ⟨rfl, -⟩
    · exact kept (conserved.anchored old)
    · exact kept ⟨period, there⟩

theorem UsageStore.Conserved.settle (conserved : store.Conserved)
    (found : store.events.find? eventId = some event) {adjust : UsagePeriod → UsagePeriod}
    {rewrite : UsageEvent → UsageEvent}
    (samePeriod : (rewrite event).usagePeriodId = event.usagePeriodId)
    (paid : (rewrite event).status = .reserved → (rewrite event).processingTier = .paid)
    (calls : ∀ period, store.periods.find? event.usagePeriodId = some period →
      (adjust period).premiumCallsUsed =
        period.premiumCallsUsed + ((rewrite event).heldCalls - event.heldCalls))
    (cost : ∀ period, store.periods.find? event.usagePeriodId = some period →
      (adjust period).premiumCostMicros =
        period.premiumCostMicros + ((rewrite event).heldCost - event.heldCost)) :
    (store.settle event.usagePeriodId adjust eventId rewrite).Conserved := by
  obtain ⟨period, there⟩ := conserved.anchored found
  refine conserved.change there (fun held => held (rewrite event) - held event) ?_ ?_
    (calls period there) (cost period there)
  · intro held otherId
    rw [Table.total_modify _ _ found]
    simp only [inPeriod, samePeriod, eq_comm (a := otherId)]
    split <;> omega
  · intro id read found'
    rw [Table.find?_modify] at found'
    by_cases same : id = eventId
    · subst same
      rw [if_pos rfl, found] at found'
      cases found'
      exact .inr ⟨samePeriod, paid⟩
    · rw [if_neg same] at found'
      exact .inl found'

theorem UsageStore.Conserved.insert (conserved : store.Conserved)
    (fresh : store.events.find? eventId = none)
    (paid : event.status = .reserved → event.processingTier = .paid)
    (belongs : event.usagePeriodId = periodId) (there : store.periods.find? periodId = some period)
    (adjust : UsagePeriod → UsagePeriod)
    (calls : (adjust period).premiumCallsUsed = period.premiumCallsUsed + event.heldCalls)
    (cost : (adjust period).premiumCostMicros = period.premiumCostMicros + event.heldCost) :
    ({ store with periods := store.periods.modify periodId adjust }.insertEvent eventId
      event).Conserved := by
  subst belongs
  refine conserved.change there (fun held => held event) ?_ ?_ calls cost
  · intro held otherId
    rw [Table.total_insert _ fresh]
    simp only [inPeriod, eq_comm (a := otherId)]
  · intro id read found
    rw [Table.find?_insert _ fresh] at found
    split at found
    · cases found
      exact .inr ⟨rfl, paid⟩
    · exact .inl found

theorem UsageStore.Conserved.insertIdle (conserved : store.Conserved)
    (fresh : store.events.find? eventId = none)
    (paid : event.status = .reserved → event.processingTier = .paid)
    (belongs : event.usagePeriodId = periodId) (there : store.periods.find? periodId = some period)
    (idle : event.charged = false) :
    (store.insertEvent eventId event).Conserved := by
  have inserted := conserved.insert fresh paid belongs there id
    (by simp [UsageEvent.heldCalls, idle]) (by simp [UsageEvent.heldCost, idle])
  rwa [Table.modify_self] at inserted

end Steps

/-! Each transaction conserves, with any clamp that leaves counters alone. -/

def Harmless (clamp : Int → Int) : Prop := ∀ value, 0 ≤ value → clamp value = value

theorem harmless_id : Harmless id := fun _ _ => rfl

theorem harmless_greatestZero : Harmless greatestZero := fun _ nonneg => max_eq_left nonneg

section Transactions

variable {store : UsageStore} {clamp : Int → Int}

theorem UsageStore.Conserved.getOrCreateCurrentPeriod (conserved : store.Conserved)
    (plan : String) (now : Int) : (Db.getOrCreateCurrentPeriod plan now store).Conserved := by
  unfold Db.getOrCreateCurrentPeriod
  dsimp only
  cases present : store.periods.find? (currentPeriodBounds now).1 with
  | some period =>
    rw [Table.insert_taken present]
    exact conserved
  | none =>
    have idle (held : UsageEvent → Int) :
        store.events.total (inPeriod held (currentPeriodBounds now).1) = 0 := by
      apply Table.total_eq_zero
      intro eventId event found
      obtain ⟨period, there⟩ := conserved.anchored found
      have other : ¬ event.usagePeriodId = (currentPeriodBounds now).1 := by
        intro same
        rw [same, present] at there
        cases there
      simp [inPeriod, other]
    refine ⟨?_, ?_, conserved.paid, ?_⟩
    · intro periodId period found
      rw [Table.find?_insert _ present] at found
      split at found
      next same =>
        cases found
        simp [same, idle]
      next => exact conserved.calls found
    · intro periodId period found
      rw [Table.find?_insert _ present] at found
      split at found
      next same =>
        cases found
        simp [same, idle]
      next => exact conserved.cost found
    · intro eventId event found
      obtain ⟨period, there⟩ := conserved.anchored found
      exact ⟨period, Table.find?_insert_of_found present there⟩

theorem UsageStore.Conserved.reserveTx (conserved : store.Conserved) (policy : UsagePolicy)
    (args : ReserveArgs) (periodId : Int) (fresh : FreshEvent) :
    (Db.reserveTx policy args periodId fresh store).1.Conserved := by
  unfold Db.reserveTx
  split
  · exact conserved
  · split
    next period there absent =>
      dsimp only
      split
      · refine conserved.insert absent ?_ ?_ there _ ?_ ?_
        · exact fun _ => rfl
        · rfl
        · simp [takeCall, premiumEvent, UsageEvent.heldCalls, UsageEvent.charged]
        · simp [takeCall, premiumEvent, UsageEvent.heldCost, UsageEvent.charged, UsageEvent.cost]
      · exact conserved.insertIdle absent (fun _ => rfl) rfl there
          (by simp [premiumEvent, UsageEvent.charged])
    next => exact conserved

variable {eventId : String} {event : UsageEvent}

theorem UsageStore.Conserved.refundable (conserved : store.Conserved)
    (found : store.events.find? eventId = some event) {period : UsagePeriod}
    (there : store.periods.find? event.usagePeriodId = some period) :
    event.heldCalls ≤ period.premiumCallsUsed ∧ event.heldCost ≤ period.premiumCostMicros := by
  have bound (held : UsageEvent → Int) (nonneg : ∀ event, 0 ≤ held event) :
      held event ≤ store.events.total (inPeriod held event.usagePeriodId) := by
    have row := Table.measure_le_total (inPeriod held event.usagePeriodId) (by
      intro _ other
      unfold inPeriod
      split
      · exact nonneg other
      · exact Int.le_refl 0) found
    simpa [inPeriod] using row
  rw [conserved.calls there, conserved.cost there]
  exact ⟨bound _ UsageEvent.heldCalls_nonneg, bound _ UsageEvent.heldCost_nonneg⟩

theorem UsageStore.Conserved.refund (conserved : store.Conserved) (harmless : Harmless clamp)
    (found : store.events.find? eventId = some event) (reserved : event.status = .reserved)
    (reason : Option String) :
    (store.settle event.usagePeriodId (refundCall clamp event.reservedCostMicros) eventId
      (releaseEvent reason)).Conserved := by
  obtain ⟨heldCalls, heldCost⟩ := UsageEvent.Open.held ⟨conserved.paid found reserved, reserved⟩
  obtain ⟨noCalls, noCost⟩ := releaseEvent_held reason event
  refine conserved.settle found rfl (by simp [releaseEvent]) ?_ ?_
  · intro period there
    have bound := (conserved.refundable found there).1
    rw [noCalls, heldCalls]
    rw [heldCalls] at bound
    change clamp (period.premiumCallsUsed - 1) = _
    rw [harmless _ (by omega)]
    omega
  · intro period there
    have bound := (conserved.refundable found there).2
    rw [noCost, heldCost]
    rw [heldCost] at bound
    change clamp (period.premiumCostMicros - event.reservedCostMicros) = _
    rw [harmless _ (by omega)]
    omega

theorem correctCost_eq (harmless : Harmless clamp) (delta : Int) (period : UsagePeriod)
    (nonneg : 0 ≤ period.premiumCostMicros + delta) :
    correctCost clamp delta period =
      { period with premiumCostMicros := period.premiumCostMicros + delta } := by
  unfold correctCost
  split
  · rw [harmless _ nonneg]
  next same =>
    rw [not_not] at same
    simp [same]

theorem UsageStore.Conserved.correct (conserved : store.Conserved) (harmless : Harmless clamp)
    (found : store.events.find? eventId = some event) (reserved : event.status = .reserved)
    (outcome : FinalizeOutcome) (actual : Nat) :
    (store.settle event.usagePeriodId
      (correctCost clamp ((actual : Int) - event.reservedCostMicros)) eventId
      (finalizeEvent outcome actual)).Conserved := by
  have isOpen : event.Open := ⟨conserved.paid found reserved, reserved⟩
  obtain ⟨heldCalls, heldCost⟩ := isOpen.held
  obtain ⟨stillCalls, newCost⟩ := finalizeEvent_held isOpen outcome actual
  have corrected (period : UsagePeriod)
      (there : store.periods.find? event.usagePeriodId = some period) :=
    correctCost_eq harmless ((actual : Int) - event.reservedCostMicros) period (by
      have bound := (conserved.refundable found there).2
      rw [heldCost] at bound
      omega)
  refine conserved.settle found rfl ?_ ?_ ?_
  · intro _
    exact isOpen.1
  · intro period there
    rw [corrected period there, stillCalls, heldCalls]
    simp
  · intro period there
    rw [corrected period there, newCost, heldCost]

theorem UsageStore.Conserved.finalizePremiumCall (conserved : store.Conserved)
    (harmless : Harmless clamp) (eventId : String) (outcome : FinalizeOutcome) :
    (Db.finalizePremiumCall clamp eventId outcome store).1.Conserved := by
  unfold Db.finalizePremiumCall
  split
  · exact conserved
  next event found =>
    split
    · exact conserved
    next reserved =>
      rw [not_not] at reserved
      split
      · exact conserved.refund harmless found reserved none
      · exact conserved.correct harmless found reserved outcome _

theorem UsageStore.Conserved.noteReason (conserved : store.Conserved) (eventId reason : String) :
    (Db.noteReason eventId reason store).Conserved := by
  unfold Db.noteReason
  cases found : store.events.find? eventId with
  | none =>
    rw [Table.modify_absent found]
    exact conserved
  | some event =>
    have settled : (store.settle event.usagePeriodId id eventId
        fun event => { event with reason := some reason }).Conserved := by
      refine conserved.settle found rfl ?_ ?_ ?_
      · intro reserved
        have paid : event.processingTier = .paid := conserved.paid found reserved
        exact paid
      · intro period _
        simp [UsageEvent.heldCalls, UsageEvent.charged]
      · intro period _
        simp [UsageEvent.heldCost, UsageEvent.charged, UsageEvent.cost]
    rwa [UsageStore.settle, Table.modify_self] at settled

theorem UsageStore.Conserved.consumeBasicTx (conserved : store.Conserved) (policy : UsagePolicy)
    (args : BasicArgs) (periodId : Int) (fresh : FreshEvent) :
    (Db.consumeBasicTx policy args periodId fresh store).1.Conserved := by
  have idle (eventType : String) (units : Nat) (status : UsageEventStatus)
      (reason : Option String) :
      (basicEvent args periodId fresh eventType units status reason).charged = false := by
    cases tier : args.tier <;>
      simp [basicEvent, UsageEvent.charged, BasicTier.processingTier, tier]
  unfold Db.consumeBasicTx
  split
  · exact conserved
  · split
    next period there absent =>
      split
      · refine conserved.insert absent ?_ ?_ there _ ?_ ?_
        · exact fun reserved => by cases reserved
        · rfl
        · simp [UsageEvent.heldCalls, idle]
        · simp [UsageEvent.heldCost, idle]
      · exact conserved.insertIdle absent (fun reserved => by cases reserved) rfl there (idle ..)
    next => exact conserved

theorem UsageStore.Conserved.recordCacheHitTx (conserved : store.Conserved)
    (args : CacheHitArgs) (periodId : Int) (fresh : FreshEvent) :
    (Db.recordCacheHitTx args periodId fresh store).Conserved := by
  unfold Db.recordCacheHitTx
  split
  next there absent =>
    exact conserved.insertIdle absent (fun reserved => by cases reserved) rfl there
      (by simp [cacheHitEvent, UsageEvent.charged])
  next => exact conserved

/-- The rows a sweep has still to recover are as it read them. -/
def UsageStore.StillStale (store : UsageStore) (stale : List (String × UsageEvent)) : Prop :=
  (stale.map Prod.fst).Nodup ∧
    ∀ row ∈ stale, store.events.find? row.1 = some row.2 ∧ row.2.status = .reserved

theorem UsageStore.stillStale_staleReservations (store : UsageStore) (cutoff : Int) :
    store.StillStale (store.staleReservations cutoff) := by
  constructor
  · exact store.events.unique.sublist (List.filter_sublist.map Prod.fst)
  · intro row member
    obtain ⟨present, stale⟩ := List.mem_filter.mp member
    rw [Bool.and_eq_true, beq_iff_eq] at stale
    exact ⟨Table.find?_eq_some_iff.mpr present, stale.1⟩

theorem UsageStore.StillStale.step {first : String × UsageEvent}
    {rest : List (String × UsageEvent)} (stale : store.StillStale (first :: rest)) :
    (recoverOne clamp store first).StillStale rest := by
  obtain ⟨nodup, present⟩ := stale
  rw [List.map_cons, List.nodup_cons] at nodup
  refine ⟨nodup.2, fun row member => ?_⟩
  obtain ⟨found, reserved⟩ := present row (List.mem_cons_of_mem _ member)
  have other : row.1 ≠ first.1 := fun same => nodup.1 (same ▸ List.mem_map_of_mem member)
  refine ⟨?_, reserved⟩
  change (store.events.modify _ _).find? _ = _
  rw [Table.find?_modify, if_neg other, found]

theorem UsageStore.Conserved.recover (harmless : Harmless clamp)
    (stale : List (String × UsageEvent)) (conserved : store.Conserved)
    (remaining : store.StillStale stale) : (stale.foldl (recoverOne clamp) store).Conserved := by
  induction stale generalizing store with
  | nil => exact conserved
  | cons first rest ih =>
    obtain ⟨found, reserved⟩ := remaining.2 first List.mem_cons_self
    exact ih (conserved.refund harmless found reserved _) remaining.step

theorem UsageStore.Conserved.apply (conserved : store.Conserved) (harmless : Harmless clamp)
    (call : UsageCall) : (call.apply clamp store).Conserved := by
  cases call with
  | getOrCreateCurrentPeriod plan now => exact conserved.getOrCreateCurrentPeriod plan now
  | reserve plan args periodId fresh => exact conserved.reserveTx _ args periodId fresh
  | finalize eventId outcome => exact conserved.finalizePremiumCall harmless eventId outcome
  | noteReason eventId reason => exact conserved.noteReason eventId reason
  | recoverStale olderThanMs now =>
    exact conserved.recover harmless _ (store.stillStale_staleReservations _)
  | consumeBasic plan args periodId fresh => exact conserved.consumeBasicTx _ args periodId fresh
  | recordCacheHit args periodId fresh => exact conserved.recordCacheHitTx args periodId fresh

theorem UsageStore.Conserved.refund_clamp (conserved : store.Conserved) (harmless : Harmless clamp)
    (found : store.events.find? eventId = some event) (reserved : event.status = .reserved)
    (rewrite : UsageEvent → UsageEvent) :
    store.settle event.usagePeriodId (refundCall clamp event.reservedCostMicros) eventId rewrite =
      store.settle event.usagePeriodId (refundCall id event.reservedCostMicros) eventId rewrite := by
  obtain ⟨heldCalls, heldCost⟩ := UsageEvent.Open.held ⟨conserved.paid found reserved, reserved⟩
  unfold UsageStore.settle
  rw [Table.modify_congr]
  intro period there
  obtain ⟨calls, cost⟩ := conserved.refundable found there
  rw [heldCalls] at calls
  rw [heldCost] at cost
  unfold refundCall
  rw [harmless _ (by omega), harmless _ (by omega)]
  rfl

theorem UsageStore.Conserved.finalize_clamp (conserved : store.Conserved)
    (harmless : Harmless clamp) (eventId : String) (outcome : FinalizeOutcome) :
    Db.finalizePremiumCall clamp eventId outcome store =
      Db.finalizePremiumCall id eventId outcome store := by
  unfold Db.finalizePremiumCall
  split
  · rfl
  next event found =>
    by_cases reserved : event.status = .reserved
    · simp only [reserved, ne_eq, not_true_eq_false, if_false]
      split
      · rw [conserved.refund_clamp harmless found reserved]
      · obtain ⟨-, heldCost⟩ := UsageEvent.Open.held ⟨conserved.paid found reserved, reserved⟩
        unfold UsageStore.settle
        rw [Table.modify_congr]
        intro period there
        have bound := (conserved.refundable found there).2
        rw [heldCost] at bound
        rw [correctCost_eq harmless _ _ (by omega), correctCost_eq harmless_id _ _ (by omega)]
    · simp [reserved]

theorem UsageStore.Conserved.recover_clamp (harmless : Harmless clamp)
    (stale : List (String × UsageEvent)) (conserved : store.Conserved)
    (remaining : store.StillStale stale) :
    stale.foldl (recoverOne clamp) store = stale.foldl (recoverOne id) store := by
  induction stale generalizing store with
  | nil => rfl
  | cons first rest ih =>
    obtain ⟨found, reserved⟩ := remaining.2 first List.mem_cons_self
    have same : recoverOne clamp store first = recoverOne id store first :=
      conserved.refund_clamp harmless found reserved _
    rw [List.foldl_cons, List.foldl_cons, same]
    exact ih (conserved.refund harmless_id found reserved _) remaining.step

theorem UsageStore.Conserved.apply_clamp (conserved : store.Conserved)
    (harmless : Harmless clamp) (call : UsageCall) :
    call.apply clamp store = call.apply id store := by
  cases call with
  | finalize eventId outcome =>
    exact congrArg Prod.fst (conserved.finalize_clamp harmless eventId outcome)
  | recoverStale olderThanMs now =>
    exact conserved.recover_clamp harmless _ (store.stillStale_staleReservations _)
  | _ => rfl

end Transactions

theorem foldl_conserved {clamp : Int → Int} (harmless : Harmless clamp) (calls : List UsageCall)
    {store : UsageStore} (conserved : store.Conserved) :
    (calls.foldl (UsageCall.apply clamp) store).Conserved := by
  induction calls generalizing store with
  | nil => exact conserved
  | cons call calls ih => exact ih (conserved.apply harmless call)

theorem foldl_clamp {clamp : Int → Int} (harmless : Harmless clamp) (calls : List UsageCall)
    {store : UsageStore} (conserved : store.Conserved) :
    calls.foldl (UsageCall.apply clamp) store = calls.foldl (UsageCall.apply id) store := by
  induction calls generalizing store with
  | nil => rfl
  | cons call calls ih =>
    rw [List.foldl_cons, List.foldl_cons, conserved.apply_clamp harmless call]
    exact ih (conserved.apply harmless_id call)

theorem runUsage_conserved (calls : List UsageCall) : (runUsage greatestZero calls).Conserved :=
  foldl_conserved harmless_greatestZero calls .empty

def UsageStore.Bounded (bound : Nat) (store : UsageStore) : Prop :=
  ∀ periodId period, store.periods.find? periodId = some period → period.premiumCallsUsed ≤ bound

/-- The call limit that a reservation of the run is made under. -/
def UsageCall.ReservesWithin (bound : Nat) : UsageCall → Prop
  | .reserve plan args _ _ =>
    (resolveEffectiveUsagePolicy plan none args.internalAccess).premiumCallsPerPeriod = some bound
  | _ => True

section Bound

variable {bound : Nat} {store : UsageStore}

theorem UsageStore.Bounded.modify (bounded : store.Bounded bound) {periodId : Int}
    {adjust : UsagePeriod → UsagePeriod} {events : Table String UsageEvent}
    (kept : ∀ period, store.periods.find? periodId = some period →
      (adjust period).premiumCallsUsed ≤ bound) :
    UsageStore.Bounded bound { periods := store.periods.modify periodId adjust, events } := by
  intro otherId other found
  rw [Table.find?_modify] at found
  split at found
  next same =>
    subst same
    obtain ⟨period, there, rfl⟩ := Option.map_eq_some_iff.mp found
    exact kept period there
  next => exact bounded otherId other found

theorem UsageStore.Bounded.refund (bounded : store.Bounded bound) {periodId : Int}
    {reservedCostMicros : Nat} {eventId : String} {rewrite : UsageEvent → UsageEvent} :
    (store.settle periodId (refundCall greatestZero reservedCostMicros) eventId rewrite).Bounded
      bound := by
  apply bounded.modify
  intro period there
  have before := bounded periodId period there
  change max (period.premiumCallsUsed - 1) 0 ≤ bound
  omega

theorem reserveGuard_calls {policy : UsagePolicy} {estMicros : Nat} {period : UsagePeriod}
    (granted : reserveGuard policy estMicros period = true) :
    (∀ limit : Nat, policy.premiumCallsPerPeriod = some limit →
      period.premiumCallsUsed + 1 ≤ limit) ∧
    (∀ limit : Nat, policy.premiumCostLimitMicros = some limit →
      period.premiumCostMicros + estMicros ≤ limit) := by
  rw [reserveGuard, Bool.and_eq_true] at granted
  constructor
  · intro limit capped
    simpa [withinLimit, capped] using granted.1
  · intro limit capped
    simpa [withinLimit, capped] using granted.2

theorem UsageStore.Bounded.reserveTx (bounded : store.Bounded bound) {policy : UsagePolicy}
    (capped : policy.premiumCallsPerPeriod = some bound) (args : ReserveArgs) (periodId : Int)
    (fresh : FreshEvent) : (Db.reserveTx policy args periodId fresh store).1.Bounded bound := by
  unfold Db.reserveTx
  split
  · exact bounded
  · split
    next period there absent =>
      dsimp only
      split
      next granted =>
        apply bounded.modify
        intro found there'
        rw [there] at there'
        cases there'
        exact (reserveGuard_calls granted).1 bound capped
      next => exact bounded
    next => exact bounded

theorem UsageStore.Bounded.recover (stale : List (String × UsageEvent))
    (bounded : store.Bounded bound) :
    (stale.foldl (recoverOne greatestZero) store).Bounded bound := by
  induction stale generalizing store with
  | nil => exact bounded
  | cons first rest ih => exact ih bounded.refund

theorem UsageStore.Bounded.apply (bounded : store.Bounded bound) {call : UsageCall}
    (within : call.ReservesWithin bound) : (call.apply greatestZero store).Bounded bound := by
  cases call with
  | getOrCreateCurrentPeriod plan now =>
    intro periodId period found
    cases present : store.periods.find? (currentPeriodBounds now).1 with
    | some existing =>
      simp only [UsageCall.apply, Db.getOrCreateCurrentPeriod,
        Table.insert_taken present] at found
      exact bounded periodId period found
    | none =>
      simp only [UsageCall.apply, Db.getOrCreateCurrentPeriod,
        Table.find?_insert _ present] at found
      split at found
      · cases found
        exact Int.natCast_nonneg bound
      · exact bounded periodId period found
  | reserve plan args periodId fresh => exact bounded.reserveTx within args periodId fresh
  | finalize eventId outcome =>
    simp only [UsageCall.apply, Db.finalizePremiumCall]
    split
    · exact bounded
    · split
      · exact bounded
      · split
        · exact bounded.refund
        · apply bounded.modify
          intro period there
          unfold correctCost
          split <;> exact bounded _ period there
  | noteReason eventId reason => exact bounded
  | recoverStale olderThanMs now => exact bounded.recover _
  | consumeBasic plan args periodId fresh =>
    simp only [UsageCall.apply, Db.consumeBasicTx]
    split
    · exact bounded
    · split
      · split
        · exact bounded.modify fun period there => bounded _ period there
        · exact bounded
      · exact bounded
  | recordCacheHit args periodId fresh =>
    simp only [UsageCall.apply, Db.recordCacheHitTx]
    split <;> exact bounded

theorem runUsage_bounded (calls : List UsageCall)
    (within : ∀ call ∈ calls, call.ReservesWithin bound) :
    (runUsage greatestZero calls).Bounded bound := by
  suffices run : ∀ store : UsageStore, store.Bounded bound →
      (calls.foldl (UsageCall.apply greatestZero) store).Bounded bound from
    run .empty fun periodId period found => by cases found
  induction calls with
  | nil => exact fun store bounded => bounded
  | cons call calls ih =>
    intro store bounded
    exact ih (fun other member => within other (List.mem_cons_of_mem _ member)) _
      (bounded.apply (within call List.mem_cons_self))

end Bound

def UsageStore.paidEvents (store : UsageStore) (periodId : Int) : List UsageEvent :=
  (store.events.rows.map Prod.snd).filter fun event =>
    event.usagePeriodId == periodId && event.charged

theorem total_inPeriod_calls (store : UsageStore) (periodId : Int) :
    store.events.total (inPeriod UsageEvent.heldCalls periodId) =
      (store.paidEvents periodId).length := by
  unfold Table.total UsageStore.paidEvents
  induction store.events.rows with
  | nil => rfl
  | cons row rows ih =>
    rw [List.map_cons, List.sum_cons, ih, List.map_cons, List.filter_cons]
    by_cases member : row.2.usagePeriodId = periodId
    · cases charged : row.2.charged <;> simp [inPeriod, member, UsageEvent.heldCalls, charged]
      omega
    · simp [inPeriod, member]

theorem total_inPeriod_cost (store : UsageStore) (periodId : Int) :
    store.events.total (inPeriod UsageEvent.heldCost periodId) =
      ((store.paidEvents periodId).map UsageEvent.cost).sum := by
  unfold Table.total UsageStore.paidEvents
  induction store.events.rows with
  | nil => rfl
  | cons row rows ih =>
    rw [List.map_cons, List.sum_cons, ih, List.map_cons, List.filter_cons]
    by_cases member : row.2.usagePeriodId = periodId
    · cases charged : row.2.charged <;> simp [inPeriod, member, UsageEvent.heldCost, charged]
    · simp [inPeriod, member]

/-- In every store that committed transactions reach, the counters of a period are
the number and the cost of its paid events, no clamp ever acted, a reservation is
granted only within both limits, and a constant call limit is never exceeded. -/
theorem runUsage_accounts (calls : List UsageCall) :
    (∀ periodId period, (runUsage greatestZero calls).periods.find? periodId = some period →
      period.premiumCallsUsed = ((runUsage greatestZero calls).paidEvents periodId).length ∧
      period.premiumCostMicros =
        (((runUsage greatestZero calls).paidEvents periodId).map UsageEvent.cost).sum) ∧
    runUsage greatestZero calls = runUsage id calls ∧
    (∀ policy args periodId fresh eventId reservedCostMicros grantedId,
      (reserveTx policy args periodId fresh (runUsage greatestZero calls)).2 =
        some (.ok eventId grantedId false reservedCostMicros) →
      ∃ period, (runUsage greatestZero calls).periods.find? periodId = some period ∧
        (∀ limit : Nat, policy.premiumCallsPerPeriod = some limit →
          period.premiumCallsUsed + 1 ≤ limit) ∧
        (∀ limit : Nat, policy.premiumCostLimitMicros = some limit →
          period.premiumCostMicros + args.estMicros ≤ limit)) ∧
    (∀ bound : Nat, (∀ call ∈ calls, call.ReservesWithin bound) →
      ∀ periodId period, (runUsage greatestZero calls).periods.find? periodId = some period →
        period.premiumCallsUsed ≤ bound) := by
  have conserved := runUsage_conserved calls
  refine ⟨?_, foldl_clamp harmless_greatestZero calls .empty, ?_, ?_⟩
  · intro periodId period found
    rw [conserved.calls found, conserved.cost found, total_inPeriod_calls, total_inPeriod_cost]
    exact ⟨rfl, rfl⟩
  · intro policy args periodId fresh eventId reservedCostMicros grantedId granted
    unfold reserveTx at granted
    split at granted
    · simp only [reserveReplay, Option.some.injEq] at granted
      split at granted <;> cases granted
    · split at granted
      next period there absent =>
        dsimp only at granted
        split at granted
        next guarded => exact ⟨period, there, reserveGuard_calls guarded⟩
        next => cases granted
      next => cases granted
  · exact fun bound within => runUsage_bounded calls within

end Tamanor.Db
