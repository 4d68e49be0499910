import Mathlib.Data.List.Dedup
import Tamanor.Db.UsageRepoProperties
import Tamanor.Db.UsageSettlement

/-! When concurrent settlements adjust the period counters exactly once for every
event. -/

set_option autoImplicit false

namespace Tamanor.Db

open Library Library.ReadCommitted

/-- The check that the event's `UPDATE` lacks: the event is still reserved. -/
def stillReserved : Guard UsageKey UsageRow UsageCommand
  | .mark _, .event _, some event => event.status = .reserved
  | _, _, _ => True

instance : (command : UsageCommand) → (key : UsageKey) → (row : Option (UsageRow key)) →
    Decidable (stillReserved command key row)
  | .mark _, .event _, some event => inferInstanceAs (Decidable (event.status = .reserved))
  | .mark _, .event _, none => inferInstanceAs (Decidable True)
  | .mark _, .period _, _ => inferInstanceAs (Decidable True)
  | .adjust _, _, _ => inferInstanceAs (Decidable True)
  | .note _ _, _, _ => inferInstanceAs (Decidable True)

/-- A settlement of an event that was reserved at the start, by a finalization or by
the recovery sweep. -/
def Settlement.Of (store : UsageStore) (item : Settlement) : Prop :=
  ∃ event, store.events.find? item.eventId = some event ∧ event.status = .reserved ∧
    (item = recoveryOf item.eventId event ∨ ∃ outcome, item = settlementOf item.eventId outcome event)

def settledIds (log : List UsageCommand) : List String := (settlements log).map Settlement.eventId

def Settlement.ofPeriod (periodId : Int) (items : List Settlement) : List Settlement :=
  items.filter fun item => item.usagePeriodId = periodId

/-- Every settlement is committed once, with its adjustment, and nothing else adjusts
the counters. -/
structure SettledOnce (store : UsageStore) (db : UsageDatabase) : Prop where
  once : (settledIds db.log).Nodup
  reserved : ∀ item ∈ settlements db.log, item.Of store
  adjusted : adjustments db.log = (settlements db.log).filter Settlement.adjusts
  settled : ∀ {eventId event}, store.events.find? eventId = some event →
    ∃ row, db.rows (.event eventId) = some row ∧
      (eventId ∈ settledIds db.log ↔ event.status = .reserved ∧ row.status ≠ .reserved)
  counters : ∀ periodId, db.rows (.period periodId) =
    (Settlement.ofPeriod periodId (settlements db.log)).foldl
      (fun row item => row.map (item.adjust greatestZero)) (store.periods.find? periodId)
  /-- Counters that were right at the start change by exactly these amounts. -/
  amounts : store.Conserved → ∀ {periodId period}, store.periods.find? periodId = some period →
    ∃ now, db.rows (.period periodId) = some now ∧
      now.premiumCallsUsed = period.premiumCallsUsed +
        ((Settlement.ofPeriod periodId (settlements db.log)).map Settlement.callsChange).sum ∧
      now.premiumCostMicros = period.premiumCostMicros +
        ((Settlement.ofPeriod periodId (settlements db.log)).map Settlement.costChange).sum

section Logs

@[simp] theorem settlements_append (first second : List UsageCommand) :
    settlements (first ++ second) = settlements first ++ settlements second :=
  List.filterMap_append ..

@[simp] theorem adjustments_append (first second : List UsageCommand) :
    adjustments (first ++ second) = adjustments first ++ adjustments second :=
  List.filterMap_append ..

@[simp] theorem settledIds_append (first second : List UsageCommand) :
    settledIds (first ++ second) = settledIds first ++ settledIds second := by
  simp [settledIds]

@[simp] theorem settlements_mark (item : Settlement) : settlements [.mark item] = [item] := rfl

@[simp] theorem settlements_adjust (item : Settlement) : settlements [.adjust item] = [] := rfl

@[simp] theorem settlements_note (eventId reason : String) :
    settlements [.note eventId reason] = [] := rfl

@[simp] theorem adjustments_mark (item : Settlement) : adjustments [.mark item] = [] := rfl

@[simp] theorem adjustments_adjust (item : Settlement) : adjustments [.adjust item] = [item] := rfl

@[simp] theorem adjustments_note (eventId reason : String) :
    adjustments [.note eventId reason] = [] := rfl

theorem Settlement.adjust_of_not_adjusts {item : Settlement} (idle : item.adjusts = false)
    (clamp : Int → Int) : item.adjust clamp = id := by
  obtain ⟨eventId, usagePeriodId, reservedCostMicros, manner⟩ := item
  cases manner with
  | release reason => cases idle
  | finalize outcome actual =>
    have zero : (actual : Int) - reservedCostMicros = 0 := by
      simpa [Settlement.adjusts] using idle
    funext period
    simp [Settlement.adjust, correctCost, zero]

theorem foldl_adjust_filter (items : List Settlement) (row : Option UsagePeriod) :
    (items.filter Settlement.adjusts).foldl (fun row item => row.map (item.adjust greatestZero)) row =
      items.foldl (fun row item => row.map (item.adjust greatestZero)) row := by
  induction items generalizing row with
  | nil => rfl
  | cons item items ih =>
    cases adjusts : item.adjusts with
    | true =>
      rw [List.filter_cons_of_pos adjusts]
      exact ih _
    | false =>
      rw [List.filter_cons_of_neg (by simp [adjusts]), List.foldl_cons,
        Settlement.adjust_of_not_adjusts adjusts, Option.map_id]
      exact ih row

theorem replay_period (log : List UsageCommand) (periodId : Int) (row : Option UsagePeriod) :
    replay settlementSystem log (.period periodId) row =
      (Settlement.ofPeriod periodId (adjustments log)).foldl
        (fun row item => row.map (item.adjust greatestZero)) row := by
  induction log using List.reverseRecOn with
  | nil => rfl
  | append_singleton log command ih =>
    rw [replay_append_singleton, ih, adjustments_append]
    cases command with
    | adjust item =>
      by_cases same : item.usagePeriodId = periodId
      · simp [settlementSystem, UsageCommand.target, UsageCommand.effect, Settlement.ofPeriod,
          same]
      · simp [settlementSystem, UsageCommand.target, Settlement.ofPeriod, same]
    | mark item => simp [settlementSystem, UsageCommand.target]
    | note eventId reason => simp [settlementSystem, UsageCommand.target]

structure UsageEvent.Descends (event row : UsageEvent) : Prop where
  period : row.usagePeriodId = event.usagePeriodId
  cost : row.reservedCostMicros = event.reservedCostMicros
  reserved : row.status = .reserved → event.status = .reserved

theorem Settlement.rewrite_status (item : Settlement) (event : UsageEvent) :
    (item.rewrite event).status ≠ .reserved := by
  obtain ⟨eventId, usagePeriodId, reservedCostMicros, manner⟩ := item
  cases manner with
  | release reason => simp [Settlement.rewrite, releaseEvent]
  | finalize outcome actual =>
    cases status : outcome.status <;>
      simp [Settlement.rewrite, finalizeEvent, FinalStatus.eventStatus, status]

theorem Settlement.rewrite_descends {event row : UsageEvent} (descends : event.Descends row)
    (item : Settlement) : event.Descends (item.rewrite row) := by
  refine ⟨?_, ?_, fun reserved => absurd reserved (item.rewrite_status row)⟩
  · cases manner : item.manner <;>
      simpa [Settlement.rewrite, manner, releaseEvent, finalizeEvent] using descends.period
  · cases manner : item.manner <;>
      simpa [Settlement.rewrite, manner, releaseEvent, finalizeEvent] using descends.cost

theorem replay_event (log : List UsageCommand) (eventId : String) (event : UsageEvent) :
    ∃ row, replay settlementSystem log (.event eventId) (some event) = some row ∧
      event.Descends row := by
  refine replay_induction settlementSystem (.event eventId) event.Descends ⟨rfl, rfl, id⟩ log ?_
  intro command _ row descends
  cases command with
  | adjust item => exact descends
  | mark item => exact item.rewrite_descends descends
  | note otherId reason => exact ⟨descends.period, descends.cost, descends.reserved⟩

end Logs

/-! The statements are those of the sequential repository. -/

section Sequential

def Settlement.apply (item : Settlement) (store : UsageStore) : UsageStore :=
  store.settle item.usagePeriodId (item.adjust greatestZero) item.eventId item.rewrite

theorem finalizePremiumCall_eq_apply (store : UsageStore) (eventId : String)
    (outcome : FinalizeOutcome) :
    (finalizePremiumCall greatestZero eventId outcome store).1 =
      (finalizable eventId outcome store.rows).foldl (fun store item => item.apply store) store := by
  unfold finalizePremiumCall finalizable
  simp only [UsageStore.rows]
  cases found : store.events.find? eventId with
  | none => rfl
  | some event =>
    dsimp only
    by_cases reserved : event.status = .reserved
    · rw [if_neg (not_not.mpr reserved), if_neg (not_not.mpr reserved)]
      by_cases releases : outcome.releases = true
      · rw [if_pos releases]
        simp [settlementOf, releases, Settlement.apply, Settlement.adjust, Settlement.rewrite]
      · rw [if_neg releases]
        simp [settlementOf, releases, Settlement.apply, Settlement.adjust, Settlement.rewrite]
    · rw [if_pos reserved, if_pos reserved]
      rfl

theorem stale_eq_staleReservations (store : UsageStore) (cutoff : Int) :
    stale cutoff (store.events.rows.map Prod.fst) store.rows =
      (store.staleReservations cutoff).map fun row => recoveryOf row.1 row.2 := by
  unfold stale UsageStore.staleReservations
  rw [List.dedup_eq_self.mpr store.events.unique, List.filterMap_map, ← List.filterMap_eq_filter,
    List.map_filterMap]
  apply List.filterMap_congr
  intro row member
  have found : store.events.find? row.1 = some row.2 := Table.find?_eq_some_iff.mpr member
  simp only [Function.comp, UsageStore.rows, found]
  by_cases due : row.2.status = .reserved ∧ row.2.createdAt < cutoff
  · simp [due]
  · rw [if_neg due]
    simp only [Option.guard]
    simp [due]

theorem recoverStaleReservations_eq_apply (store : UsageStore) (olderThanMs now : Int) :
    (recoverStaleReservations greatestZero olderThanMs now store).1 =
      (stale (now - olderThanMs) (store.events.rows.map Prod.fst) store.rows).foldl
        (fun store item => item.apply store) store := by
  rw [stale_eq_staleReservations, List.foldl_map]
  rfl

end Sequential

/-! The clamps never act on counters that are right. -/

section Amounts

variable {store : UsageStore} {item : Settlement}

theorem Settlement.Of.columns (of : item.Of store) :
    ∃ event, store.events.find? item.eventId = some event ∧ event.status = .reserved ∧
      item.usagePeriodId = event.usagePeriodId ∧
      item.reservedCostMicros = event.reservedCostMicros := by
  obtain ⟨event, found, reserved, shape⟩ := of
  refine ⟨event, found, reserved, ?_⟩
  rcases shape with recovered | ⟨outcome, finalized⟩
  · rw [recovered]
    exact ⟨rfl, rfl⟩
  · rw [finalized]
    exact ⟨rfl, rfl⟩

theorem Settlement.Of.conserved (of : item.Of store) (conserved : store.Conserved) :
    (item.apply store).Conserved := by
  obtain ⟨event, found, reserved, period, cost⟩ := of.columns
  unfold Settlement.apply Settlement.adjust Settlement.rewrite
  rw [period, cost]
  cases item.manner with
  | release reason => exact conserved.refund harmless_greatestZero found reserved reason
  | finalize outcome actual =>
    exact conserved.correct harmless_greatestZero found reserved outcome actual

theorem Settlement.Of.adjust (of : item.Of store) (conserved : store.Conserved)
    {period : UsagePeriod} (there : store.periods.find? item.usagePeriodId = some period) :
    item.adjust greatestZero period =
      { period with
        premiumCallsUsed := period.premiumCallsUsed + item.callsChange
        premiumCostMicros := period.premiumCostMicros + item.costChange } := by
  obtain ⟨event, found, reserved, periodId, reservedCost⟩ := of.columns
  rw [periodId] at there
  obtain ⟨calls, cost⟩ := conserved.refundable found there
  obtain ⟨heldCalls, heldCost⟩ := UsageEvent.Open.held ⟨conserved.paid found reserved, reserved⟩
  rw [heldCalls] at calls
  rw [heldCost] at cost
  unfold Settlement.adjust Settlement.callsChange Settlement.costChange
  rw [reservedCost]
  cases item.manner with
  | release reason =>
    dsimp only [refundCall]
    rw [harmless_greatestZero _ (by omega), harmless_greatestZero _ (by omega)]
    rfl
  | finalize outcome actual =>
    dsimp only
    rw [correctCost_eq harmless_greatestZero _ _ (by omega)]
    simp

theorem Settlement.Of.apply {other : Settlement} (of : other.Of store)
    (different : other.eventId ≠ item.eventId) : other.Of (item.apply store) := by
  obtain ⟨event, found, reserved, shape⟩ := of
  refine ⟨event, ?_, reserved, shape⟩
  simp only [Settlement.apply, UsageStore.settle]
  rw [Table.find?_modify, if_neg different, found]

theorem foldl_adjust_amounts {items : List Settlement}
    (distinct : (items.map Settlement.eventId).Nodup) (of : ∀ item ∈ items, item.Of store)
    (conserved : store.Conserved) {periodId : Int} {period : UsagePeriod}
    (there : store.periods.find? periodId = some period) :
    ∃ now, (Settlement.ofPeriod periodId items).foldl
        (fun row item => row.map (item.adjust greatestZero)) (some period) = some now ∧
      now.premiumCallsUsed = period.premiumCallsUsed +
        ((Settlement.ofPeriod periodId items).map Settlement.callsChange).sum ∧
      now.premiumCostMicros = period.premiumCostMicros +
        ((Settlement.ofPeriod periodId items).map Settlement.costChange).sum := by
  induction items generalizing store period with
  | nil => exact ⟨period, rfl, by simp [Settlement.ofPeriod]⟩
  | cons item items ih =>
    rw [List.map_cons, List.nodup_cons] at distinct
    have first := of item List.mem_cons_self
    have rest : ∀ other ∈ items, other.Of (item.apply store) := by
      intro other member
      refine (of other (List.mem_cons_of_mem _ member)).apply ?_
      intro same
      exact distinct.1 (same ▸ List.mem_map_of_mem member)
    have after : (item.apply store).periods.find? periodId =
        if periodId = item.usagePeriodId then some (item.adjust greatestZero period)
        else some period := by
      simp only [Settlement.apply, UsageStore.settle]
      rw [Table.find?_modify, there]
      rfl
    by_cases same : item.usagePeriodId = periodId
    · rw [if_pos same.symm] at after
      obtain ⟨now, folded, calls, cost⟩ := ih distinct.2 rest (first.conserved conserved) after
      have changed := first.adjust conserved (same ▸ there)
      refine ⟨now, ?_, ?_, ?_⟩
      · simpa [Settlement.ofPeriod, same] using folded
      · rw [calls, changed]
        simp [Settlement.ofPeriod, same]
        ring
      · rw [cost, changed]
        simp [Settlement.ofPeriod, same]
        ring
    · rw [if_neg (Ne.symm same)] at after
      obtain ⟨now, folded, calls, cost⟩ := ih distinct.2 rest (first.conserved conserved) after
      exact ⟨now, by simpa [Settlement.ofPeriod, same] using ⟨folded, calls, cost⟩⟩

end Amounts

section Reads

variable {store : UsageStore} {view : UsageView}

def Descended (store : UsageStore) (view : UsageView) : Prop :=
  ∀ {eventId row}, view (.event eventId) = some row →
    ∃ event, store.events.find? eventId = some event ∧ event.Descends row

theorem settlementOf_of {eventId : String} {row : UsageEvent} (descended : Descended store view)
    (seen : view (.event eventId) = some row) (reserved : row.status = .reserved)
    (outcome : FinalizeOutcome) : (settlementOf eventId outcome row).Of store := by
  obtain ⟨event, found, descends⟩ := descended seen
  refine ⟨event, found, descends.reserved reserved, .inr ⟨outcome, ?_⟩⟩
  simp only [settlementOf, descends.period, descends.cost]

theorem recoveryOf_of {eventId : String} {row : UsageEvent} (descended : Descended store view)
    (seen : view (.event eventId) = some row) (reserved : row.status = .reserved) :
    (recoveryOf eventId row).Of store := by
  obtain ⟨event, found, descends⟩ := descended seen
  refine ⟨event, found, descends.reserved reserved, .inl ?_⟩
  simp only [recoveryOf, descends.period, descends.cost]

theorem finalizable_of (descended : Descended store view) (eventId : String)
    (outcome : FinalizeOutcome) : ∀ item ∈ finalizable eventId outcome view, item.Of store := by
  intro item member
  unfold finalizable at member
  split at member
  · cases member
  next row seen =>
    split at member
    · cases member
    next reserved =>
      rw [List.mem_singleton.mp member]
      exact settlementOf_of descended seen (not_not.mp reserved) outcome

theorem finalizable_distinct (eventId : String) (outcome : FinalizeOutcome) :
    ((finalizable eventId outcome view).map Settlement.eventId).Nodup := by
  unfold finalizable
  split
  · exact List.nodup_nil
  · split
    · exact List.nodup_nil
    · exact List.nodup_singleton _

theorem stale_of (descended : Descended store view) (cutoff : Int) (scan : List String) :
    ∀ item ∈ stale cutoff scan view, item.Of store := by
  intro item member
  obtain ⟨eventId, -, read⟩ := List.mem_filterMap.mp member
  split at read
  · cases read
  next row seen =>
    split at read
    next due =>
      cases read
      exact recoveryOf_of descended seen due.1
    next => cases read

theorem stale_distinct (cutoff : Int) (scan : List String) :
    ((stale cutoff scan view).map Settlement.eventId).Nodup := by
  have ids : ((stale cutoff scan view).map Settlement.eventId).Sublist scan.dedup := by
    unfold stale
    induction scan.dedup with
    | nil => exact .slnil
    | cons eventId rest ih =>
      rw [List.filterMap_cons]
      split
      next => exact .cons _ ih
      next item read =>
        have same : item.eventId = eventId := by
          split at read
          · cases read
          · split at read
            · cases read
              rfl
            · cases read
        rw [List.map_cons, same]
        exact .cons_cons _ ih
  exact ids.nodup (List.nodup_dedup scan)

end Reads

section Transaction

abbrev UsageSession := Session UsageKey UsageRow UsageCommand Stage

def Stage.pending : Stage → List Settlement
  | .called _ => []
  | .settling items => items
  | .marking item rest => item :: rest

def Stage.begun : Stage → List Settlement
  | .marking item _ => [item].filter Settlement.adjusts
  | _ => []

structure Settling (store : UsageStore) (rows : UsageView) (session : UsageSession) : Prop where
  fresh : ∀ {call}, session.state = .called call → session.log = []
  adjusted : adjustments session.log =
    (settlements session.log).filter Settlement.adjusts ++ session.state.begun
  distinct : (settledIds session.log ++ session.state.pending.map Settlement.eventId).Nodup
  reserved : ∀ item ∈ settlements session.log ++ session.state.pending, item.Of store
  /-- A settled event is locked, so its committed row is still the reserved one. -/
  marked : ∀ {eventId}, eventId ∈ settledIds session.log →
    ∃ old new, rows (.event eventId) = some old ∧ old.status = .reserved ∧
      session.writes (.event eventId) = some new ∧ new.status ≠ .reserved
  unmarked : ∀ {eventId new}, session.writes (.event eventId) = some new →
    eventId ∉ settledIds session.log →
    ∃ old, rows (.event eventId) = some old ∧ new.status = old.status

variable {store : UsageStore} {rows : UsageView} {session : UsageSession}

theorem Settling.opened (call : SettlementCall) : Settling store rows (.opened (.called call)) where
  fresh _ := rfl
  adjusted := rfl
  distinct := List.nodup_nil
  reserved _ member := by cases member
  marked member := by cases member
  unmarked written := by cases written

theorem Settling.transfer {changed : UsageView} (settling : Settling store rows session)
    (agree : ∀ {eventId}, session.writes (.event eventId) ≠ none →
      changed (.event eventId) = rows (.event eventId)) : Settling store changed session where
  fresh := settling.fresh
  adjusted := settling.adjusted
  distinct := settling.distinct
  reserved := settling.reserved
  marked := by
    intro eventId member
    obtain ⟨old, new, present, reserved, written, settled⟩ := settling.marked member
    refine ⟨old, new, ?_, reserved, written, settled⟩
    rw [agree (by simp [written]), present]
  unmarked := by
    intro eventId new written absent
    rw [agree (by simp [written])]
    exact settling.unmarked written absent

theorem Settling.view_status (settling : Settling store rows session) {eventId : String}
    (unsettled : eventId ∉ settledIds session.log) {row : UsageEvent}
    (seen : session.view rows (.event eventId) = some row) :
    ∃ old, rows (.event eventId) = some old ∧ row.status = old.status := by
  cases written : session.writes (.event eventId) with
  | none =>
    refine ⟨row, ?_, rfl⟩
    simpa [Session.view, written] using seen
  | some new =>
    have same : new = row := by simpa [Session.view, written] using seen
    subst same
    exact settling.unmarked written unsettled

variable {next : Stage}

theorem Settling.proceed (settling : Settling store rows session)
    (descended : Descended store (session.view rows))
    (code : Stage.next session.state (session.view rows) = .proceed next) :
    Settling store rows { session with state := next } := by
  have read (items : List Settlement) (called : ∃ call, session.state = .called call)
      (distinct : (items.map Settlement.eventId).Nodup) (of : ∀ item ∈ items, item.Of store) :
      Settling store rows { session with state := .settling items } := by
    obtain ⟨call, called⟩ := called
    have empty := settling.fresh called
    refine ⟨(fun same => by cases same), ?_, ?_, ?_, settling.marked, settling.unmarked⟩
    · simp [empty, adjustments, settlements, Stage.begun]
    · simpa [empty, settledIds, settlements, Stage.pending] using distinct
    · simpa [empty, settlements, Stage.pending] using of
  cases state : session.state with
  | called call =>
    cases call with
    | finalize eventId outcome =>
      rw [state] at code
      cases code
      exact read _ ⟨_, state⟩ (finalizable_distinct eventId outcome)
        (finalizable_of descended eventId outcome)
    | recover cutoff scan =>
      rw [state] at code
      cases code
      exact read _ ⟨_, state⟩ (stale_distinct cutoff scan) (stale_of descended cutoff scan)
    | noteReason eventId reason =>
      rw [state] at code
      cases code
  | settling items =>
    cases items with
    | nil =>
      rw [state] at code
      cases code
    | cons item rest =>
      rw [state] at code
      simp only [Stage.next] at code
      split at code
      · cases code
      next idle =>
        cases code
        refine ⟨(fun same => by cases same), ?_, ?_, ?_, settling.marked, settling.unmarked⟩
        · have adjusted := settling.adjusted
          rw [state] at adjusted
          simpa [Stage.begun, idle] using adjusted
        · have distinct := settling.distinct
          rwa [state] at distinct
        · have reserved := settling.reserved
          rwa [state] at reserved
  | marking item rest =>
    rw [state] at code
    simp only [Stage.next] at code
    split at code <;> cases code

abbrev issued (session : UsageSession) (rows : UsageView) (command : UsageCommand) (next : Stage) :
    UsageSession :=
  session.issue settlementSystem command next (session.view rows command.target)

theorem issued_log (command : UsageCommand) (next : Stage) :
    (issued session rows command next).log = session.log ++ [command] :=
  Session.issue_log ..

theorem issued_state (command : UsageCommand) (next : Stage) :
    (issued session rows command next).state = next :=
  Session.issue_state ..

theorem issued_writes_of_ne {command : UsageCommand} {key : UsageKey}
    (different : key ≠ command.target) :
    (issued session rows command next).writes key = session.writes key :=
  Session.issue_writes_of_ne different

theorem issued_mark_writes (item : Settlement) (next : Stage) :
    (issued session rows (.mark item) next).writes (.event item.eventId) =
      (session.view rows (.event item.eventId)).map item.rewrite :=
  Session.issue_writes_target settlementSystem (.mark item) next

theorem issued_note_writes (eventId reason : String) (next : Stage) :
    (issued session rows (.note eventId reason) next).writes (.event eventId) =
      (session.view rows (.event eventId)).map fun event => { event with reason := some reason } :=
  Session.issue_writes_target settlementSystem (.note eventId reason) next

theorem Settling.adjust (settling : Settling store rows session) {item : Settlement}
    {rest : List Settlement} (state : session.state = .settling (item :: rest))
    (adjusts : item.adjusts = true) :
    Settling store rows (issued session rows (.adjust item) (.marking item rest)) := by
  have adjusted := settling.adjusted
  have distinct := settling.distinct
  have reserved := settling.reserved
  rw [state] at adjusted distinct reserved
  have writes (eventId : String) :
      (issued session rows (.adjust item) (.marking item rest)).writes (.event eventId) =
        session.writes (.event eventId) :=
    issued_writes_of_ne (by simp [UsageCommand.target])
  refine ⟨?_, ?_, ?_, ?_, ?_, ?_⟩
  · intro call called
    rw [issued_state] at called
    cases called
  · simpa [issued_log, issued_state, Stage.begun, adjusts] using adjusted
  · simpa [issued_log, issued_state, settledIds, Stage.pending] using distinct
  · simpa [issued_log, issued_state, Stage.pending] using reserved
  · intro eventId member
    rw [writes]
    exact settling.marked (by simpa [issued_log, settledIds] using member)
  · intro eventId new written absent
    rw [writes] at written
    exact settling.unmarked written (by simpa [issued_log, settledIds] using absent)

theorem Settling.mark (settling : Settling store rows session) {item : Settlement}
    {rest : List Settlement} (state : session.state = .marking item rest) {row : UsageEvent}
    (seen : session.view rows (.event item.eventId) = some row)
    (stillReserved : row.status = .reserved) :
    Settling store rows (issued session rows (.mark item) (.settling rest)) := by
  have adjusted := settling.adjusted
  have distinct := settling.distinct
  have reserved := settling.reserved
  rw [state] at adjusted distinct reserved
  have unsettled : item.eventId ∉ settledIds session.log := by
    intro member
    have apart := List.disjoint_of_nodup_append distinct member
    simp [Stage.pending] at apart
  obtain ⟨old, present, status⟩ := settling.view_status unsettled seen
  have written : (issued session rows (.mark item) (.settling rest)).writes (.event item.eventId) =
      some (item.rewrite row) := by
    rw [issued_mark_writes, seen, Option.map_some]
  have others {eventId : String} (different : eventId ≠ item.eventId) :
      (issued session rows (.mark item) (.settling rest)).writes (.event eventId) =
        session.writes (.event eventId) :=
    issued_writes_of_ne (by simpa [UsageCommand.target] using different)
  refine ⟨?_, ?_, ?_, ?_, ?_, ?_⟩
  · intro call called
    rw [issued_state] at called
    cases called
  · rw [issued_log, issued_state, adjustments_append, adjusted, settlements_append]
    simp [Stage.begun]
  · simpa [issued_log, issued_state, settledIds, Stage.pending] using distinct
  · simpa [issued_log, issued_state, Stage.pending] using reserved
  · intro eventId member
    by_cases same : eventId = item.eventId
    · subst same
      exact ⟨old, item.rewrite row, present, by rw [← status, stillReserved], written,
        item.rewrite_status row⟩
    · rw [others same]
      exact settling.marked (by simpa [issued_log, settledIds, same] using member)
  · intro eventId new wrote absent
    have other : eventId ∉ settledIds session.log ∧ eventId ≠ item.eventId := by
      simpa [issued_log, settledIds] using absent
    rw [others other.2] at wrote
    exact settling.unmarked wrote other.1

theorem Settling.note (settling : Settling store rows session) {eventId reason : String}
    (state : session.state = .called (.noteReason eventId reason)) :
    Settling store rows (issued session rows (.note eventId reason) (.settling [])) := by
  have empty := settling.fresh state
  have nothing : settledIds session.log = [] := by simp [empty, settledIds, settlements]
  refine ⟨?_, ?_, ?_, ?_, ?_, ?_⟩
  · intro call called
    rw [issued_state] at called
    cases called
  · simp [issued_log, issued_state, empty, Stage.begun, adjustments, settlements]
  · simp [issued_log, issued_state, empty, Stage.pending, settledIds, settlements]
  · simp [issued_log, issued_state, empty, Stage.pending, settlements]
  · intro other member
    simp [issued_log, empty, settledIds, settlements] at member
  · intro other new written _
    by_cases same : other = eventId
    · subst same
      rw [issued_note_writes] at written
      obtain ⟨row, seen, rfl⟩ := Option.map_eq_some_iff.mp written
      obtain ⟨old, present, status⟩ := settling.view_status (by simp [nothing]) seen
      exact ⟨old, present, status⟩
    · rw [issued_writes_of_ne (by simpa [UsageCommand.target] using same)] at written
      exact settling.unmarked written (by simp [nothing])

theorem Settling.update (settling : Settling store rows session) {command : UsageCommand}
    {drawn : Nat} (code : Stage.next session.state (session.view rows) = .update command drawn next)
    (permitted : stillReserved command command.target (session.view rows command.target)) :
    Settling store rows (issued session rows command next) := by
  cases state : session.state with
  | called call =>
    rw [state] at code
    cases call with
    | finalize eventId outcome => cases code
    | recover cutoff scan => cases code
    | noteReason eventId reason =>
      cases code
      exact settling.note state
  | settling items =>
    rw [state] at code
    cases items with
    | nil => cases code
    | cons item rest =>
      simp only [Stage.next] at code
      split at code
      next adjusts =>
        cases code
        exact settling.adjust state adjusts
      next => cases code
  | marking item rest =>
    rw [state] at code
    simp only [Stage.next] at code
    split at code
    · cases code
    next row seen =>
      cases code
      simp only [UsageCommand.target, seen, stillReserved] at permitted
      exact settling.mark state seen permitted

theorem Stage.next_commit {stage : Stage} {view : UsageView} (code : stage.next view = .commit) :
    stage = .settling [] := by
  cases stage with
  | called call => cases call <;> cases code
  | settling items =>
    cases items with
    | nil => rfl
    | cons item rest =>
      simp only [Stage.next] at code
      split at code <;> cases code
  | marking item rest =>
    simp only [Stage.next] at code
    split at code <;> cases code

end Transaction

section Run

structure SettlingRun (store : UsageStore) (db : UsageDatabase) : Prop where
  sound : db.Sound settlementSystem store.rows
  sessions : ∀ {tx session}, db.sessions tx = some session → Settling store db.rows session
  once : (settledIds db.log).Nodup
  reserved : ∀ item ∈ settlements db.log, item.Of store
  adjusted : adjustments db.log = (settlements db.log).filter Settlement.adjusts
  settled : ∀ {eventId event}, store.events.find? eventId = some event →
    ∃ row, db.rows (.event eventId) = some row ∧
      if eventId ∈ settledIds db.log then row.status ≠ .reserved else row.status = event.status

variable {store : UsageStore} {db after : UsageDatabase} {tx : Nat} {session : UsageSession}

theorem SettlingRun.opened : SettlingRun store (Database.opened store.rows 0) where
  sound := .opened 0
  sessions found := by cases found
  once := List.nodup_nil
  reserved _ member := by cases member
  adjusted := rfl
  settled := by
    intro eventId event found
    exact ⟨event, found, by simp [Database.opened, settledIds, settlements]⟩

theorem SettlingRun.descended (run : SettlingRun store db) (found : db.sessions tx = some session) :
    Descended store (session.view db.rows) := by
  intro eventId row seen
  rw [run.sound.view found] at seen
  cases present : store.events.find? eventId with
  | none => simp [UsageStore.rows, present] at seen
  | some event =>
    obtain ⟨last, replayed, descends⟩ := replay_event (db.log ++ session.log) eventId event
    simp only [UsageStore.rows, present] at seen
    rw [replayed] at seen
    cases seen
    exact ⟨event, rfl, descends⟩

theorem SettlingRun.setSession (run : SettlingRun store db)
    (sound : (db.setSession tx session).Sound settlementSystem store.rows)
    (settling : Settling store db.rows session) : SettlingRun store (db.setSession tx session) where
  sound := sound
  sessions := by
    intro other stored found
    rcases Database.setSession_sessions found with ⟨rfl, rfl⟩ | ⟨-, found⟩
    · exact settling
    · exact run.sessions found
  once := run.once
  reserved := run.reserved
  adjusted := run.adjusted
  settled := run.settled

theorem SettlingRun.close (run : SettlingRun store db) (tx : Nat) :
    SettlingRun store (db.close tx) where
  sound := run.sound.close tx
  sessions found := run.sessions (Database.close_sessions found).2
  once := run.once
  reserved := run.reserved
  adjusted := run.adjusted
  settled := run.settled

theorem SettlingRun.unsettled (run : SettlingRun store db)
    (found : db.sessions tx = some session) {eventId : String}
    (member : eventId ∈ settledIds session.log) : eventId ∉ settledIds db.log := by
  intro settled
  have settling := run.sessions found
  obtain ⟨old, -, present, reserved, -, -⟩ := settling.marked member
  obtain ⟨item, itemMember, rfl⟩ := List.mem_map.mp member
  obtain ⟨event, there, -, -⟩ := settling.reserved item (List.mem_append_left _ itemMember)
  obtain ⟨row, same, status⟩ := run.settled there
  rw [present] at same
  cases same
  rw [if_pos settled] at status
  exact status reserved

theorem SettlingRun.commit (run : SettlingRun store db) (found : db.sessions tx = some session)
    (state : session.state = .settling []) : SettlingRun store (db.commit tx session) := by
  have settling := run.sessions found
  have adjusted := settling.adjusted
  have distinct := settling.distinct
  have reserved := settling.reserved
  rw [state] at adjusted distinct reserved
  refine ⟨run.sound.commit found, ?_, ?_, ?_, ?_, ?_⟩
  · intro other stored foundOther
    obtain ⟨different, foundOther⟩ := Database.close_sessions foundOther
    apply (run.sessions foundOther).transfer
    intro eventId writes
    have free := run.sound.exclusive found foundOther different writes
    simp [Database.commit, Session.view, free]
  · simp only [Database.commit, settledIds_append]
    refine List.Nodup.append run.once (by simpa [Stage.pending] using distinct) ?_
    intro eventId inLog inSession
    exact run.unsettled found inSession inLog
  · intro item member
    simp only [Database.commit, settlements_append, List.mem_append] at member
    rcases member with inLog | inSession
    · exact run.reserved item inLog
    · exact reserved item (List.mem_append_left _ inSession)
  · simp only [Database.commit, adjustments_append, settlements_append, List.filter_append]
    rw [run.adjusted, adjusted]
    simp [Stage.begun]
  · intro eventId event there
    obtain ⟨row, present, status⟩ := run.settled there
    simp only [Database.commit, settledIds_append, List.mem_append]
    by_cases inSession : eventId ∈ settledIds session.log
    · obtain ⟨old, new, -, -, written, settled⟩ := settling.marked inSession
      exact ⟨new, by simp [Session.view, written], by simpa [inSession] using settled⟩
    · cases written : session.writes (.event eventId) with
      | none =>
        refine ⟨row, by simpa [Session.view, written] using present, ?_⟩
        simpa [inSession] using status
      | some new =>
        obtain ⟨old, same, kept⟩ := settling.unmarked written inSession
        rw [present] at same
        cases same
        refine ⟨new, by simp [Session.view, written], ?_⟩
        simpa [inSession, kept] using status

theorem SettlingRun.update (run : SettlingRun store db) (found : db.sessions tx = some session)
    {command : UsageCommand} {drawn : Nat} {next : Stage}
    (code : Stage.next session.state (session.view db.rows) = .update command drawn next)
    (available : db.Available tx command.target)
    (permitted : stillReserved command command.target (session.view db.rows command.target)) :
    SettlingRun store (db.update settlementSystem tx session command drawn next) := by
  have rows : (db.update settlementSystem tx session command drawn next).rows = db.rows :=
    Database.update_rows command drawn next
  have log : (db.update settlementSystem tx session command drawn next).log = db.log :=
    Database.update_log command drawn next
  refine ⟨run.sound.update drawn next found available, ?_, ?_, ?_, ?_, ?_⟩
  · intro other stored foundOther
    rw [rows]
    rcases Database.update_sessions foundOther with ⟨rfl, rfl⟩ | ⟨-, foundOther⟩
    · exact (run.sessions found).update code permitted
    · exact run.sessions foundOther
  · rw [log]
    exact run.once
  · rw [log]
    exact run.reserved
  · rw [log]
    exact run.adjusted
  · rw [rows, log]
    exact run.settled

theorem SettlingRun.step (run : SettlingRun store db)
    (steps : db.Steps settlementSystem stillReserved after) : SettlingRun store after := by
  have sound := run.sound.step steps
  cases steps with
  | idle => exact run
  | start free => exact run.setSession sound (.opened _)
  | close => exact run.close _
  | draw => exact ⟨sound, run.sessions, run.once, run.reserved, run.adjusted, run.settled⟩
  | proceed found code =>
    exact run.setSession sound ((run.sessions found).proceed (run.descended found) code)
  | update found code available permitted => exact run.update found code available permitted
  | commit found code => exact run.commit found (Stage.next_commit code)

theorem SettlingRun.counters (run : SettlingRun store db) (periodId : Int) :
    db.rows (.period periodId) =
      (Settlement.ofPeriod periodId (settlements db.log)).foldl
        (fun row item => row.map (item.adjust greatestZero)) (store.periods.find? periodId) := by
  have swap : Settlement.ofPeriod periodId ((settlements db.log).filter Settlement.adjusts) =
      (Settlement.ofPeriod periodId (settlements db.log)).filter Settlement.adjusts := by
    simp only [Settlement.ofPeriod, List.filter_filter, Bool.and_comm]
  rw [run.sound.committed, replay_period, run.adjusted, swap, foldl_adjust_filter]
  rfl

theorem SettlingRun.settledOnce (run : SettlingRun store db) : SettledOnce store db where
  once := run.once
  reserved := run.reserved
  adjusted := run.adjusted
  settled := by
    intro eventId event there
    obtain ⟨row, present, status⟩ := run.settled there
    refine ⟨row, present, ?_, ?_⟩
    · intro member
      obtain ⟨item, itemMember, rfl⟩ := List.mem_map.mp member
      obtain ⟨start, found, reserved, -⟩ := run.reserved item itemMember
      rw [there] at found
      cases found
      rw [if_pos member] at status
      exact ⟨reserved, status⟩
    · rintro ⟨reserved, settled⟩
      by_contra absent
      rw [if_neg absent] at status
      exact settled (status.trans reserved)
  counters := run.counters
  amounts := by
    intro conserved periodId period there
    rw [run.counters, there]
    exact foldl_adjust_amounts run.once run.reserved conserved there

end Run

/-- Where every settlement finds its event still reserved, the counters are adjusted
once for every settled event, whatever the transactions and their interleaving. -/
theorem settle_settledOnce (store : UsageStore) (actions : List UsageAction)
    (guarded : (Database.opened store.rows 0).Guarded settlementSystem stillReserved actions) :
    SettledOnce store (settle store actions) := by
  have run : SettlingRun store (settle store actions) :=
    Database.run_invariant (fun run steps => run.step steps) .opened guarded
  exact run.settledOnce

/-! A sweep that meets a finalization. -/

def raceReserve (name : String) (createdAt : Int) : UsageCall :=
  .reserve "starter"
    { provider := "openai", modelKey := "gpt-4o-mini", estMicros := 300, idempotencyKey := name
      refs := ⟨none, none, none⟩, internalAccess := false } 0 ⟨name, name, createdAt⟩

def raceStore : UsageStore :=
  runUsage greatestZero
    [.getOrCreateCurrentPeriod "starter" 0, raceReserve "old" 0, raceReserve "recent" 600000]

/-- The provider call of the old reservation fails while the sweep runs. -/
def raceCalls : List UsageAction :=
  [.start 1 (.finalize "old" unbilledFailure), .start 2 (.recover 300000 ["old", "recent"])]

/-- Both transactions read the reservation before either of them settles it. -/
def race : List UsageAction :=
  raceCalls ++ [.exec 1, .exec 2, .exec 1, .exec 1, .exec 1, .exec 2, .exec 2, .exec 2]

/-- The call is given back twice: none is left for the reservation that is still open. -/
theorem settle_race :
    ¬ SettledOnce raceStore (settle raceStore race) ∧
      ((raceStore.periods.find? 0).map UsagePeriod.premiumCallsUsed,
        ((settle raceStore race).rows (.period 0)).map UsagePeriod.premiumCallsUsed,
        ((settle raceStore race).rows (.event "recent")).map UsageEvent.status) =
        (some 2, some 0, some .reserved) := by
  refine ⟨fun settledOnce => ?_, by decide +kernel⟩
  exact absurd settledOnce.once (by decide +kernel)

/-- One after the other, the two transactions settle it once. -/
theorem settle_settledOnce_serial :
    (Database.opened raceStore.rows 0).Guarded settlementSystem stillReserved
        (raceCalls ++ [.exec 1, .exec 1, .exec 1, .exec 1, .exec 2, .exec 2]) ∧
      SettledOnce raceStore (settle raceStore
        (raceCalls ++ [.exec 1, .exec 1, .exec 1, .exec 1, .exec 2, .exec 2])) :=
  ⟨by decide +kernel, settle_settledOnce _ _ (by decide +kernel)⟩

end Tamanor.Db
