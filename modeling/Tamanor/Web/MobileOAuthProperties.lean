import Tamanor.Web.MobileOAuth

/-! When an OAuth flow moves one way only: its state is consumed once, a final status stays, a
selection is linked once and the statuses that are reported are those of the flow. -/

set_option autoImplicit false

namespace Tamanor.Web

open Db Library

inductive SelectionFlight where
  | applying | applied

/-- A select that has found its flow open and has not finalized it yet. -/
def OAuthStage.flight : OAuthStage → Option SelectionFlight
  | .applying => some .applying
  | .applied _ => some .applied
  | _ => none

namespace OAuthSystem

variable (system : OAuthSystem)

def nobodySelects : Bool := system.calls.rows.all fun entry => entry.2.stage.flight.isNone

def unexpired : Bool :=
  system.flow.all fun flow => isTerminalFlowStatus flow.status || decide (system.now < flow.expiresAt)

/-- The finalization of a select takes effect in time, or finds the status that it reports. -/
def settles (now : Int) (answer : SelectionAnswer) (fails : Bool) : Bool :=
  match system.flow with
  | none => answer.report.isNone
  | some flow =>
    if isTerminalFlowStatus flow.status then answer.report.all (· == flow.effectiveStatus now)
    else !fails && decide (system.now < flow.expiresAt)

/-- The mark finds its flow open; a finalization comes before the expiry; a select goes on alone
and settles; the reply of a cancellation is read. -/
def meetsGuards : OAuthAction → Bool
  | .mark call fails =>
    match system.calls.find? call with
    | some ⟨_, .marking _⟩ => fails || system.flow.all (!isTerminalFlowStatus ·.status)
    | _ => true
  | .finalize call fails =>
    match system.calls.find? call with
    | some ⟨_, .failing _⟩ => fails || system.unexpired
    | some ⟨_, .dismissing _⟩ => fails || system.unexpired
    | some ⟨now, .applied answer⟩ => system.settles now answer fails
    | _ => true
  | .read call fails =>
    match system.calls.find? call with
    | some ⟨now, .selecting⟩ =>
      fails || !system.flow.any (·.effectiveStatus now == .selectionRequired) ||
        system.nobodySelects
    | _ => true
  | .reread call fails =>
    match system.calls.find? call with
    | some ⟨_, .rereading _⟩ => !fails && system.flow.isSome
    | _ => true
  | _ => true

def KeepsFinalStatus (action : OAuthAction) : Prop :=
  ∀ flow after, system.flow = some flow → (system.step action).flow = some after →
    isTerminalFlowStatus (flow.effectiveStatus system.now) = true →
    after.effectiveStatus (system.step action).now = flow.effectiveStatus system.now

end OAuthSystem

structure FlowHolds (flow : ConnectorOAuthFlow) (now : Int) (actions : List OAuthAction) :
    Prop where
  consumedOnce : ∀ reached ∈ Runs.states OAuthSystem.step (startedFlow flow now) actions,
    reached.consumed ≤ 1
  oneWay : Runs.Meets OAuthSystem.step OAuthSystem.KeepsFinalStatus (startedFlow flow now) actions
  linkedOnce : ∀ reached ∈ Runs.states OAuthSystem.step (startedFlow flow now) actions,
    reached.linked ≤ 1
  reported : ∀ reached ∈ Runs.states OAuthSystem.step (startedFlow flow now) actions,
    ∀ report ∈ reached.reports, report.persisted = some report.reported

/-! What the statements leave of a row. -/

structure RowStays (now later : Int) (flow after : ConnectorOAuthFlow) : Prop where
  consumed : flow.stateConsumedAt.isSome = true → after.stateConsumedAt.isSome = true
  terminal : isTerminalFlowStatus flow.status = true → isTerminalFlowStatus after.status = true
  status : isTerminalFlowStatus (flow.effectiveStatus now) = true →
    after.effectiveStatus later = flow.effectiveStatus now

variable {flow : ConnectorOAuthFlow} {now : Int}

theorem effectiveStatus_open (unsettled : isTerminalFlowStatus flow.status = false) :
    flow.effectiveStatus now = if flow.expiresAt ≤ now then .expired else flow.status := by
  unfold ConnectorOAuthFlow.effectiveStatus
  rw [if_neg]
  intro final
  rcases final with same | same | same
  · rw [same] at unsettled
    cases unsettled
  · rw [same] at unsettled
    cases unsettled
  · rw [same] at unsettled
    cases unsettled

theorem rowStays_open {after : ConnectorOAuthFlow}
    (consumed : flow.stateConsumedAt.isSome = true → after.stateConsumedAt.isSome = true)
    (before : isTerminalFlowStatus flow.status = false)
    (later : isTerminalFlowStatus after.status = false)
    (expiry : after.expiresAt = flow.expiresAt) : RowStays now now flow after where
  consumed := consumed
  terminal := by
    intro final
    rw [before] at final
    cases final
  status := by
    intro final
    rw [effectiveStatus_open before] at final ⊢
    rw [effectiveStatus_open later, expiry]
    split
    next => rfl
    next unexpired =>
      rw [if_neg unexpired, before] at final
      cases final

theorem rowStays_elapse (flow : ConnectorOAuthFlow) (now : Int) (time : Nat) :
    RowStays now (now + time) flow flow where
  consumed := id
  terminal := id
  status := by
    intro final
    unfold ConnectorOAuthFlow.effectiveStatus at final ⊢
    split
    next => rfl
    next undecided =>
      rw [if_neg undecided] at final
      split at final
      next expired =>
        rw [if_pos expired, if_pos]
        omega
      next unexpired =>
        rw [if_neg unexpired]
        split
        · cases status : flow.status with
          | expired => rfl
          | completed => exact (undecided (.inl status)).elim
          | failed => exact (undecided (.inr (.inl status))).elim
          | cancelled => exact (undecided (.inr (.inr status))).elim
          | pending =>
            rw [status] at final
            cases final
          | providerPending =>
            rw [status] at final
            cases final
          | selectionRequired =>
            rw [status] at final
            cases final
        · rfl

theorem rowStays_refl (flow : ConnectorOAuthFlow) (now : Int) : RowStays now now flow flow :=
  ⟨id, id, fun _ => rfl⟩

theorem rowStays_consume (flow : ConnectorOAuthFlow) (now instant : Int) :
    RowStays now now flow (flow.consume instant) := by
  unfold ConnectorOAuthFlow.consume
  split
  next can =>
    have unsettled : isTerminalFlowStatus flow.status = false := by
      unfold ConnectorOAuthFlow.canConsume at can
      simp only [Bool.and_eq_true, Bool.not_eq_true'] at can
      exact can.2
    exact rowStays_open (fun _ => rfl) unsettled rfl rfl
  next => exact rowStays_refl flow now

theorem rowStays_mark (unsettled : isTerminalFlowStatus flow.status = false)
    (resultRefId : Option String) :
    RowStays now now flow (flow.markSelectionRequired resultRefId) :=
  rowStays_open id unsettled rfl rfl

variable {after : OAuthSystem} {instant : Int} {row : ConnectorOAuthFlow} {answer : SelectionAnswer}
  {fails : Bool} {call : Nat}

theorem rowStays_finalize {input : ConnectorOAuthFlow.FinalizeInput}
    (unexpired : isTerminalFlowStatus flow.status = false → now < flow.expiresAt)
    (final : isTerminalFlowStatus input.status = true) :
    RowStays now now flow (flow.finalize input instant) := by
  unfold ConnectorOAuthFlow.finalize
  split
  next => exact rowStays_refl flow now
  next nonterminal =>
    have unsettled : isTerminalFlowStatus flow.status = false := by simpa using nonterminal
    refine ⟨id, fun _ => final, ?_⟩
    intro effective
    rw [effectiveStatus_open unsettled, if_neg (not_le.mpr (unexpired unsettled)), unsettled] at effective
    cases effective

theorem terminal_finalize {input : ConnectorOAuthFlow.FinalizeInput}
    (final : isTerminalFlowStatus input.status = true) :
    isTerminalFlowStatus (flow.finalize input instant).status = true := by
  unfold ConnectorOAuthFlow.finalize
  split
  next terminal => exact terminal
  next => exact final

/-- A step does not create the flow again, and keeps what is final about it. -/
def FlowStays (system after : OAuthSystem) : Prop :=
  ∀ row, after.flow = some row →
    ∃ flow, system.flow = some flow ∧ RowStays system.now after.now flow row

variable {system : OAuthSystem} {action : OAuthAction}

theorem FlowStays.of_eq (flow : after.flow = system.flow) (now : after.now = system.now) :
    FlowStays system after := by
  intro row found
  rw [flow] at found
  rw [now]
  exact ⟨row, found, rowStays_refl row system.now⟩

theorem FlowStays.of_map (change : ConnectorOAuthFlow → ConnectorOAuthFlow)
    (flow : after.flow = system.flow.map change) (now : after.now = system.now)
    (stays : ∀ row, system.flow = some row → RowStays system.now system.now row (change row)) :
    FlowStays system after := by
  intro row found
  rw [flow] at found
  rw [now]
  obtain ⟨before, foundBefore, rfl⟩ := Option.map_eq_some_iff.mp found
  exact ⟨before, foundBefore, stays before foundBefore⟩

theorem FlowStays.finalized (input : ConnectorOAuthFlow.FinalizeInput) (fails : Bool)
    (flow : after.flow = system.finalized input fails) (now : after.now = system.now)
    (final : isTerminalFlowStatus input.status = true)
    (unexpired : fails = false → ∀ row, system.flow = some row →
      isTerminalFlowStatus row.status = false → system.now < row.expiresAt) :
    FlowStays system after := by
  unfold OAuthSystem.finalized at flow
  cases fails with
  | true => exact .of_eq flow now
  | false =>
    apply FlowStays.of_map _ flow now
    intro row found
    exact rowStays_finalize (unexpired rfl row found) final

theorem SelectionAnswer.finalization_final (answer : SelectionAnswer) :
    isTerminalFlowStatus answer.finalization.status = true := by
  cases answer with
  | threw => rfl
  | refused code => rfl
  | applied result =>
    unfold SelectionAnswer.finalization
    dsimp only
    split <;> rfl

theorem unexpired_row (unexpired : system.unexpired = true) (found : system.flow = some row)
    (unsettled : isTerminalFlowStatus row.status = false) :
    system.now < row.expiresAt := by
  unfold OAuthSystem.unexpired at unexpired
  rw [found] at unexpired
  simpa [unsettled] using unexpired

theorem settles_row (settles : system.settles instant answer fails = true)
    (found : system.flow = some row) (unsettled : isTerminalFlowStatus row.status = false) :
    fails = false ∧ system.now < row.expiresAt := by
  unfold OAuthSystem.settles at settles
  rw [found] at settles
  simpa [unsettled] using settles

theorem flowStays_step (meets : system.meetsGuards action = true) :
    FlowStays system (system.step action) := by
  cases action with
  | elapse time =>
    intro row found
    exact ⟨row, found, rowStays_elapse row system.now time⟩
  | sweep =>
    intro row found
    exact ⟨row, (Option.filter_eq_some_iff.mp found).1, rowStays_refl row system.now⟩
  | start call request =>
    unfold OAuthSystem.step OAuthSystem.start
    dsimp only
    split <;> exact .of_eq rfl rfl
  | consume call =>
    unfold OAuthSystem.step OAuthSystem.consume
    dsimp only
    split
    next instant provider found =>
      split
      · exact .of_map _ rfl rfl (fun row _ => rowStays_consume row system.now instant)
      · exact .of_eq rfl rfl
    next => exact .of_eq rfl rfl
  | readBack call =>
    unfold OAuthSystem.step OAuthSystem.readBack
    dsimp only
    split
    next =>
      split
      · exact .of_eq rfl rfl
      · split
        · exact .of_eq rfl rfl
        · split <;> exact .of_eq rfl rfl
    next => exact .of_eq rfl rfl
  | checkSession call valid =>
    unfold OAuthSystem.step OAuthSystem.checkSession
    dsimp only
    split <;> exact .of_eq rfl rfl
  | exchange call answer =>
    unfold OAuthSystem.step OAuthSystem.exchange
    dsimp only
    split
    next =>
      split <;> exact .of_eq rfl rfl
    next => exact .of_eq rfl rfl
  | mark call fails =>
    unfold OAuthSystem.meetsGuards at meets
    dsimp only at meets
    unfold OAuthSystem.step OAuthSystem.mark
    dsimp only
    split
    next instant resultRefId found =>
      rw [found] at meets
      dsimp only at meets
      split
      · exact .of_eq rfl rfl
      next succeeds =>
        refine FlowStays.of_map (fun row => row.markSelectionRequired resultRefId) ?_ rfl ?_
        · rfl
        intro row foundRow
        apply rowStays_mark
        rw [foundRow] at meets
        simpa [succeeds] using meets
    next => exact .of_eq rfl rfl
  | finalize call fails =>
    unfold OAuthSystem.meetsGuards at meets
    dsimp only at meets
    unfold OAuthSystem.step OAuthSystem.finalize
    dsimp only
    split
    next instant code found =>
      rw [found] at meets
      dsimp only at meets
      refine FlowStays.finalized ⟨.failed, some code, none⟩ fails ?_ rfl rfl ?_
      · rfl
      intro succeeds row foundRow unsettled
      rw [succeeds] at meets
      exact unexpired_row meets foundRow unsettled
    next instant answer found =>
      rw [found] at meets
      dsimp only at meets
      refine FlowStays.finalized answer.finalization fails ?_ rfl answer.finalization_final ?_
      · rfl
      intro _ row foundRow unsettled
      exact (settles_row meets foundRow unsettled).2
    next instant view found =>
      rw [found] at meets
      dsimp only at meets
      refine FlowStays.finalized ⟨.cancelled, some "user_cancelled", none⟩ fails ?_ rfl rfl ?_
      · rfl
      intro succeeds row foundRow unsettled
      rw [succeeds] at meets
      exact unexpired_row meets foundRow unsettled
    next => exact .of_eq rfl rfl
  | read call fails =>
    unfold OAuthSystem.step OAuthSystem.read
    dsimp only
    split
    next =>
      split <;> exact .of_eq rfl rfl
    next => exact .of_eq rfl rfl
    next => exact .of_eq rfl rfl
    next => exact .of_eq rfl rfl
    next => exact .of_eq rfl rfl
  | apply call answer =>
    unfold OAuthSystem.step OAuthSystem.apply
    dsimp only
    split <;> exact .of_eq rfl rfl
  | reread call fails =>
    unfold OAuthSystem.step OAuthSystem.reread
    dsimp only
    split <;> exact .of_eq rfl rfl

def OAuthSystem.flight (system : OAuthSystem) (call : Nat) : Option SelectionFlight :=
  (system.calls.find? call).bind (·.stage.flight)

structure SelectsAlone (flight : Nat → Option SelectionFlight) (flow : Option ConnectorOAuthFlow)
    (linked : Nat) : Prop where
  alone : ∀ call other, (flight call).isSome = true → (flight other).isSome = true → call = other
  linkedOnce : linked ≤ 1
  unlinked : ∀ call, flight call = some .applying → linked = 0
  settled : linked ≠ 0 → (∀ call, flight call = none) →
    ∀ row, flow = some row → isTerminalFlowStatus row.status = true

theorem flight_setStage {running : OAuthCall} (found : system.calls.find? call = some running)
    (stage : OAuthStage) (other : Nat) :
    (system.setStage call stage).flight other =
      if other = call then stage.flight else system.flight other := by
  unfold OAuthSystem.flight OAuthSystem.setStage
  rw [Table.find?_modify]
  split
  next same =>
    rw [same, found]
    rfl
  next => rfl

theorem flight_setStage_idle {running : OAuthCall} (found : system.calls.find? call = some running)
    {stage : OAuthStage} (was : running.stage.flight = none) (is : stage.flight = none) :
    (system.setStage call stage).flight = system.flight := by
  funext other
  rw [flight_setStage found]
  split
  next same =>
    unfold OAuthSystem.flight
    rw [same, found, Option.bind_some, was, is]
  next => rfl

theorem flight_start (call : Nat) (request : OAuthRequest) :
    (system.start call request).flight = system.flight := by
  unfold OAuthSystem.start
  split
  · rfl
  next free =>
    have fresh : system.calls.find? call = none := by simpa using free
    funext other
    unfold OAuthSystem.flight
    dsimp only
    rw [Table.find?_insert call fresh]
    split
    next same =>
      rw [same, fresh]
      cases request with
      | callback provider => rfl
      | select => rfl
      | cancel => rfl
    next => rfl

theorem nobodySelects_iff : system.nobodySelects = true ↔ ∀ call, system.flight call = none := by
  unfold OAuthSystem.nobodySelects
  rw [List.all_eq_true]
  constructor
  · intro all call
    unfold OAuthSystem.flight
    cases found : system.calls.find? call with
    | none => rfl
    | some running => simpa using all (call, running) (Table.find?_eq_some_iff.mp found)
  · intro none entry member
    have idle := none entry.1
    unfold OAuthSystem.flight at idle
    rw [Table.find?_eq_some_iff.mpr member] at idle
    simpa using idle

variable {flight : Nat → Option SelectionFlight} {linked : Nat}

theorem SelectsAlone.of_flow {before after : Option ConnectorOAuthFlow}
    (alone : SelectsAlone flight before linked)
    (terminal : ∀ row, after = some row → ∃ flow, before = some flow ∧
      (isTerminalFlowStatus flow.status = true → isTerminalFlowStatus row.status = true)) :
    SelectsAlone flight after linked where
  alone := alone.alone
  linkedOnce := alone.linkedOnce
  unlinked := alone.unlinked
  settled := by
    intro some idle row found
    obtain ⟨flow, foundFlow, kept⟩ := terminal row found
    exact kept (alone.settled some idle flow foundFlow)

structure FlowInvariant (system : OAuthSystem) : Prop where
  consumedOnce : system.consumed ≤ 1
  consumedMark : system.consumed ≠ 0 → ∀ row, system.flow = some row →
    row.stateConsumedAt.isSome = true
  selects : SelectsAlone system.flight system.flow system.linked
  reported : ∀ report ∈ system.reports, report.persisted = some report.reported

theorem FlowInvariant.quiet (inv : FlowInvariant system) (stays : FlowStays system after)
    (consumed : after.consumed = system.consumed) (linked : after.linked = system.linked)
    (reports : after.reports = system.reports) (flight : after.flight = system.flight) :
    FlowInvariant after where
  consumedOnce := by
    rw [consumed]
    exact inv.consumedOnce
  consumedMark := by
    intro some row found
    rw [consumed] at some
    obtain ⟨flow, foundFlow, kept⟩ := stays row found
    exact kept.consumed (inv.consumedMark some flow foundFlow)
  selects := by
    rw [flight, linked]
    apply inv.selects.of_flow
    intro row found
    obtain ⟨flow, foundFlow, kept⟩ := stays row found
    exact ⟨flow, foundFlow, kept.terminal⟩
  reported := by
    rw [reports]
    exact inv.reported

theorem FlowInvariant.setStage (inv : FlowInvariant system) {running : OAuthCall}
    {stage : OAuthStage} (found : system.calls.find? call = some running)
    (was : running.stage.flight = none) (is : stage.flight = none) :
    FlowInvariant (system.setStage call stage) :=
  inv.quiet (.of_eq rfl rfl) rfl rfl rfl (flight_setStage_idle found was is)

theorem FlowInvariant.consume (inv : FlowInvariant system) (call : Nat) :
    FlowInvariant (system.consume call) := by
  unfold OAuthSystem.consume
  split
  next instant provider found =>
    split
    next can =>
      obtain ⟨flow, foundFlow, canConsume⟩ : ∃ flow, system.flow = some flow ∧
          flow.canConsume instant = true := by
        cases foundFlow : system.flow with
        | none =>
          rw [foundFlow] at can
          cases can
        | some flow =>
          rw [foundFlow] at can
          exact ⟨flow, rfl, can⟩
      have unconsumed : system.consumed = 0 := by
        by_contra some
        have marked := inv.consumedMark some flow foundFlow
        unfold ConnectorOAuthFlow.canConsume at canConsume
        simp only [Bool.and_eq_true, Option.isNone_iff_eq_none] at canConsume
        rw [canConsume.1.1] at marked
        cases marked
      refine ⟨?_, ?_, ?_, inv.reported⟩
      · change system.consumed + 1 ≤ 1
        rw [unconsumed]
      · intro _ row foundRow
        obtain ⟨before, foundBefore, rfl⟩ := Option.map_eq_some_iff.mp foundRow
        rw [foundFlow] at foundBefore
        cases foundBefore
        unfold ConnectorOAuthFlow.consume
        rw [if_pos canConsume]
        rfl
      · have kept : (system.setStage call (.consumed provider)).flight = system.flight :=
          flight_setStage_idle found rfl rfl
        change SelectsAlone (system.setStage call (.consumed provider)).flight _ system.linked
        rw [kept]
        apply inv.selects.of_flow
        intro row foundRow
        obtain ⟨before, foundBefore, rfl⟩ := Option.map_eq_some_iff.mp foundRow
        exact ⟨before, foundBefore, (rowStays_consume before system.now instant).terminal⟩
    next =>
      exact inv.setStage found rfl rfl
  next => exact inv

theorem FlowInvariant.read (inv : FlowInvariant system)
    (meets : system.meetsGuards (.read call fails) = true) :
    FlowInvariant (system.read call fails) := by
  unfold OAuthSystem.read
  split
  next instant flow found foundFlow =>
    split
    next unfinished =>
      unfold OAuthSystem.meetsGuards at meets
      dsimp only at meets
      rw [found, foundFlow] at meets
      obtain ⟨succeeds, status⟩ := Bool.and_eq_true_iff.mp unfinished
      have nobody : system.nobodySelects = true := by
        have succeeds : fails = false := by simpa using succeeds
        simpa [succeeds, status] using meets
      have idle := nobodySelects_iff.mp nobody
      have unlinked : system.linked = 0 := by
        by_contra some
        have terminal := inv.selects.settled some idle flow foundFlow
        have status : flow.effectiveStatus instant = .selectionRequired := by simpa using status
        unfold ConnectorOAuthFlow.effectiveStatus at status
        split at status
        · rw [status] at terminal
          cases terminal
        · split at status
          · cases status
          · rw [status] at terminal
            cases terminal
      refine ⟨inv.consumedOnce, inv.consumedMark, ⟨?_, inv.selects.linkedOnce, ?_, ?_⟩, inv.reported⟩
      · intro first second flies otherFlies
        have only {other : Nat}
            (flies : ((system.setStage call .applying).flight other).isSome = true) :
            other = call := by
          by_contra apart
          rw [flight_setStage found, if_neg apart, idle] at flies
          cases flies
        rw [only flies, only otherFlies]
      · intro _ _
        exact unlinked
      · intro some
        exact (some unlinked).elim
    next =>
      exact inv.setStage found rfl rfl
  next instant flow found foundFlow =>
    refine inv.quiet (.of_eq ?_ ?_) ?_ ?_ ?_ (flight_setStage_idle found rfl ?_)
    case refine_6 =>
      split <;> rfl
    all_goals rfl
  next found _ => exact inv.setStage found rfl rfl
  next found _ => exact inv.setStage found rfl rfl
  next => exact inv

theorem FlowInvariant.apply (inv : FlowInvariant system) (call : Nat) (answer : SelectionAnswer) :
    FlowInvariant (system.apply call answer) := by
  unfold OAuthSystem.apply
  split
  next instant found =>
    have applying : system.flight call = some .applying := by
      unfold OAuthSystem.flight
      rw [found]
      rfl
    have unlinked := inv.selects.unlinked call applying
    have only {other : Nat} (flies : (system.flight other).isSome = true) : other = call :=
      inv.selects.alone other call flies (by rw [applying]; rfl)
    have kept {other : Nat}
        (flies : ((system.setStage call (.applied answer)).flight other).isSome = true) :
        other = call := by
      by_contra apart
      rw [flight_setStage found, if_neg apart] at flies
      exact apart (only flies)
    refine ⟨inv.consumedOnce, inv.consumedMark, ⟨?_, ?_, ?_, ?_⟩, inv.reported⟩
    · intro first second flies otherFlies
      rw [kept flies, kept otherFlies]
    · change system.linked + (if answer.links then 1 else 0) ≤ 1
      rw [unlinked]
      split
      · exact le_refl 1
      · exact Nat.zero_le 1
    · intro other applies
      have same : other = call := kept (by
        change ((system.setStage call (.applied answer)).flight other) = some .applying at applies
        rw [applies]
        rfl)
      change ((system.setStage call (.applied answer)).flight other) = some .applying at applies
      rw [flight_setStage found, if_pos same] at applies
      cases applies
    · intro _ idle
      have flies := idle call
      change (system.setStage call (.applied answer)).flight call = none at flies
      rw [flight_setStage found, if_pos rfl] at flies
      cases flies
  next => exact inv

theorem effectiveStatus_final {status : OAuthFlowStatus} (is : row.status = status)
    (final : status = .completed ∨ status = .failed) (now : Int) :
    row.effectiveStatus now = status := by
  unfold ConnectorOAuthFlow.effectiveStatus
  rw [is, if_pos]
  rcases final with completed | failed
  · exact .inl completed
  · exact .inr (.inl failed)

theorem SelectionAnswer.report_status {reported : OAuthFlowStatus}
    (reports : answer.report = some reported) :
    answer.finalization.status = reported ∧ (reported = .completed ∨ reported = .failed) := by
  cases answer with
  | threw => cases reports
  | refused code =>
    cases reports
    exact ⟨rfl, .inr rfl⟩
  | applied result =>
    refine ⟨Option.some.inj reports, ?_⟩
    rw [← Option.some.inj reports]
    unfold SelectionAnswer.finalization
    dsimp only
    split
    · exact .inr rfl
    · exact .inl rfl

theorem finalized_settles (settles : system.settles instant answer fails = true) :
    (∀ row, system.finalized answer.finalization fails = some row →
      isTerminalFlowStatus row.status = true) ∧
    ∀ reported, answer.report = some reported →
      (system.finalized answer.finalization fails).map (fun row => row.effectiveStatus instant) =
        some reported := by
  cases foundFlow : system.flow with
  | none =>
    have gone : system.finalized answer.finalization fails = none := by
      unfold OAuthSystem.finalized
      rw [foundFlow]
      split <;> rfl
    constructor
    · intro row found
      rw [gone] at found
      cases found
    · intro reported reports
      unfold OAuthSystem.settles at settles
      rw [foundFlow, reports] at settles
      cases settles
  | some flow =>
    cases terminal : isTerminalFlowStatus flow.status with
    | true =>
      have kept : system.finalized answer.finalization fails = some flow := by
        unfold OAuthSystem.finalized
        rw [foundFlow]
        split
        · rfl
        · unfold ConnectorOAuthFlow.finalize
          rw [Option.map_some, if_pos terminal]
      constructor
      · intro row found
        rw [kept] at found
        cases found
        exact terminal
      · intro reported reports
        unfold OAuthSystem.settles at settles
        rw [foundFlow] at settles
        dsimp only at settles
        rw [if_pos terminal, reports] at settles
        rw [kept, Option.map_some]
        have same : reported = flow.effectiveStatus instant := by simpa using settles
        rw [same]
    | false =>
      obtain ⟨succeeds, -⟩ := settles_row settles foundFlow terminal
      have kept : system.finalized answer.finalization fails =
          some (flow.finalize answer.finalization system.now) := by
        unfold OAuthSystem.finalized
        rw [foundFlow, succeeds]
        rfl
      constructor
      · intro row found
        rw [kept] at found
        cases found
        exact terminal_finalize answer.finalization_final
      · intro reported reports
        obtain ⟨status, final⟩ := SelectionAnswer.report_status reports
        rw [kept, Option.map_some]
        congr 1
        apply effectiveStatus_final ?_ final
        unfold ConnectorOAuthFlow.finalize
        rw [if_neg (by simp [terminal])]
        exact status

theorem FlowInvariant.finalize (inv : FlowInvariant system)
    (meets : system.meetsGuards (.finalize call fails) = true) :
    FlowInvariant (system.finalize call fails) := by
  have stays : FlowStays system (system.finalize call fails) := flowStays_step meets
  unfold OAuthSystem.meetsGuards at meets
  dsimp only at meets
  unfold OAuthSystem.finalize at stays ⊢
  split
  next instant code found =>
    rw [found] at stays
    exact inv.quiet stays rfl rfl rfl (flight_setStage_idle found rfl rfl)
  next instant answer found =>
    rw [found] at meets stays
    dsimp only at meets stays
    obtain ⟨terminal, reported⟩ := finalized_settles meets
    have applied : system.flight call = some .applied := by
      unfold OAuthSystem.flight
      rw [found]
      rfl
    have idle : ∀ other, (system.setStage call .ended).flight other = none := by
      intro other
      rw [flight_setStage found]
      split
      · rfl
      next apart =>
        by_contra flies
        have flies : (system.flight other).isSome = true := Option.isSome_iff_ne_none.mpr flies
        exact apart (inv.selects.alone other call flies (by rw [applied]; rfl))
    refine ⟨inv.consumedOnce, ?_, ⟨?_, inv.selects.linkedOnce, ?_, ?_⟩, ?_⟩
    · intro some row foundRow
      obtain ⟨flow, foundFlow, kept⟩ := stays row foundRow
      exact kept.consumed (inv.consumedMark some flow foundFlow)
    · intro first second flies
      have none := idle first
      change ((system.setStage call .ended).flight first).isSome = true at flies
      rw [none] at flies
      cases flies
    · intro other applies
      change (system.setStage call .ended).flight other = some .applying at applies
      rw [idle other] at applies
      cases applies
    · intro _ _ row foundRow
      exact terminal row foundRow
    · intro report member
      dsimp only at member
      split at member
      · exact inv.reported report member
      next status reports =>
        rcases List.mem_cons.mp member with rfl | earlier
        · exact reported status reports
        · exact inv.reported report earlier
  next instant view found =>
    rw [found] at stays
    exact inv.quiet stays rfl rfl rfl (flight_setStage_idle found rfl rfl)
  next => exact inv

theorem FlowInvariant.reread (inv : FlowInvariant system)
    (meets : system.meetsGuards (.reread call fails) = true) :
    FlowInvariant (system.reread call fails) := by
  unfold OAuthSystem.meetsGuards at meets
  dsimp only at meets
  unfold OAuthSystem.reread
  split
  next instant view found =>
    rw [found] at meets
    dsimp only at meets
    obtain ⟨succeeds, present⟩ := Bool.and_eq_true_iff.mp meets
    obtain ⟨flow, foundFlow⟩ := Option.isSome_iff_exists.mp present
    have succeeds : fails = false := by simpa using succeeds
    refine ⟨inv.consumedOnce, inv.consumedMark, ?_, ?_⟩
    · have kept : (system.setStage call .ended).flight = system.flight :=
        flight_setStage_idle found rfl rfl
      change SelectsAlone (system.setStage call .ended).flight system.flow system.linked
      rw [kept]
      exact inv.selects
    · intro report member
      rcases List.mem_cons.mp member with rfl | earlier
      · dsimp only
        rw [succeeds, foundFlow]
        rfl
      · exact inv.reported report earlier
  next => exact inv

theorem FlowInvariant.step (inv : FlowInvariant system) (meets : system.meetsGuards action = true) :
    FlowInvariant (system.step action) := by
  have stays := flowStays_step meets
  cases action with
  | elapse time => exact inv.quiet stays rfl rfl rfl rfl
  | sweep => exact inv.quiet stays rfl rfl rfl rfl
  | start call request =>
    have same : (system.start call request).consumed = system.consumed ∧
        (system.start call request).linked = system.linked ∧
        (system.start call request).reports = system.reports := by
      unfold OAuthSystem.start
      split <;> exact ⟨rfl, rfl, rfl⟩
    exact inv.quiet stays same.1 same.2.1 same.2.2 (flight_start call request)
  | consume call => exact inv.consume call
  | readBack call =>
    unfold OAuthSystem.step OAuthSystem.readBack at stays ⊢
    dsimp only at stays ⊢
    split
    next found =>
      rw [found] at stays
      dsimp only at stays
      split
      · exact inv.setStage found rfl rfl
      · split
        · exact inv.setStage found rfl rfl
        · split <;> exact inv.setStage found rfl rfl
    next => exact inv
  | checkSession call valid =>
    unfold OAuthSystem.step OAuthSystem.checkSession
    dsimp only
    split
    next found =>
      split <;> exact inv.setStage found rfl rfl
    next => exact inv
  | exchange call answer =>
    unfold OAuthSystem.step OAuthSystem.exchange
    dsimp only
    split
    next found =>
      split <;> exact inv.setStage found rfl rfl
    next => exact inv
  | mark call fails =>
    unfold OAuthSystem.step OAuthSystem.mark at stays ⊢
    dsimp only at stays ⊢
    split
    next found =>
      rw [found] at stays
      dsimp only at stays
      split
      · exact inv.setStage found rfl rfl
      next succeeds =>
        rw [if_neg succeeds] at stays
        exact inv.quiet stays rfl rfl rfl (flight_setStage_idle found rfl rfl)
    next => exact inv
  | finalize call fails => exact inv.finalize meets
  | read call fails => exact inv.read meets
  | apply call answer => exact inv.apply call answer
  | reread call fails => exact inv.reread meets

def OAuthSystem.Guarded (system : OAuthSystem) (action : OAuthAction) : Prop :=
  system.meetsGuards action = true

instance (system : OAuthSystem) : DecidablePred system.Guarded :=
  fun _ => inferInstanceAs (Decidable (_ = true))

theorem keepsFinalStatus_step (meets : system.Guarded action) : system.KeepsFinalStatus action := by
  intro before after found foundAfter final
  obtain ⟨flow, foundFlow, stays⟩ := flowStays_step meets after foundAfter
  rw [found] at foundFlow
  cases foundFlow
  exact stays.status final

theorem flowInvariant_started (flow : ConnectorOAuthFlow) (now : Int) :
    FlowInvariant (startedFlow flow now) where
  consumedOnce := Nat.zero_le 1
  consumedMark := fun some => (some rfl).elim
  selects :=
    { alone := by
        intro call other flies
        cases flies
      linkedOnce := Nat.zero_le 1
      unlinked := fun _ _ => rfl
      settled := fun some => (some rfl).elim }
  reported := by
    intro report member
    cases member

/-- In every guarded run the flow moves one way, and what is reported of it is true. -/
theorem flowHolds_of_guarded (flow : ConnectorOAuthFlow) (now : Int) (actions : List OAuthAction)
    (guarded : Runs.Meets OAuthSystem.step OAuthSystem.Guarded (startedFlow flow now) actions) :
    FlowHolds flow now actions := by
  have invariants : ∀ reached ∈ Runs.states OAuthSystem.step (startedFlow flow now) actions,
      FlowInvariant reached :=
    Runs.invariant_states (fun inv meets => FlowInvariant.step inv meets)
      (flowInvariant_started flow now) guarded
  constructor
  · intro reached member
    exact (invariants reached member).consumedOnce
  · exact guarded.of_invariant (fun inv meets => FlowInvariant.step inv meets)
      (fun _ meets => keepsFinalStatus_step meets) (flowInvariant_started flow now)
  · intro reached member
    exact (invariants reached member).selects.linkedOnce
  · intro reached member
    exact (invariants reached member).reported

def pagesFlow : ConnectorOAuthFlow :=
  createConnectorOAuthFlow "session" .mobile .metaProvider 10

def authorized : List OAuthAction :=
  [.start 0 (.callback .metaProvider), .consume 0, .readBack 0, .checkSession 0 true,
    .exchange 0 (.ok (some "onboarding"))]

def selectPage (call : Nat) : List OAuthAction :=
  [.apply call (.applied ⟨1, 0, 0, ["page"]⟩), .finalize call false]

/-- A second delivery of the callback, a selection and a late cancellation. -/
theorem flowHolds_of_replayed :
    FlowHolds pagesFlow 0 (authorized ++ [.start 1 (.callback .metaProvider), .consume 1,
      .mark 0 false, .start 2 .select, .read 2 false] ++ selectPage 2 ++
        [.start 3 .cancel, .read 3 false, .finalize 3 false, .reread 3 false]) :=
  flowHolds_of_guarded pagesFlow 0 (authorized ++ [.start 1 (.callback .metaProvider), .consume 1,
    .mark 0 false, .start 2 .select, .read 2 false] ++ selectPage 2 ++
      [.start 3 .cancel, .read 3 false, .finalize 3 false, .reread 3 false]) (by decide)

def cancelled : List OAuthAction := [.start 1 .cancel, .read 1 false, .finalize 1 false]

def selectedTwice : List OAuthAction :=
  authorized ++ [.mark 0 false, .start 1 .select, .start 2 .select, .read 1 false,
    .read 2 false] ++ selectPage 1 ++ selectPage 2

/-- The callback's last statement revives a cancelled flow, and two selects link twice. -/
theorem not_flowHolds :
    ¬FlowHolds pagesFlow 0 (authorized ++ cancelled ++ [.mark 0 false]) ∧
      ¬FlowHolds pagesFlow 0 selectedTwice := by
  constructor
  · intro holds
    have stays := holds.oneWay.at_step
    have before : (Runs.run OAuthSystem.step (startedFlow pagesFlow 0)
        (authorized ++ cancelled)).flow.map (·.status) = some .cancelled := by decide
    have after : ((Runs.run OAuthSystem.step (startedFlow pagesFlow 0)
        (authorized ++ cancelled)).step (.mark 0 false)).flow.map (·.status) =
          some .selectionRequired := by decide
    obtain ⟨flow, found, status⟩ := Option.map_eq_some_iff.mp before
    obtain ⟨revived, foundRevived, revivedStatus⟩ := Option.map_eq_some_iff.mp after
    have told : flow.effectiveStatus
        (Runs.run OAuthSystem.step (startedFlow pagesFlow 0) (authorized ++ cancelled)).now =
          .cancelled := by
      unfold ConnectorOAuthFlow.effectiveStatus
      rw [if_pos (.inr (.inr status))]
      exact status
    have same := stays flow revived found foundRevived (by rw [told]; rfl)
    rw [told, effectiveStatus_open (by rw [revivedStatus]; rfl), revivedStatus] at same
    split at same
    · cases same
    · cases same
  · intro holds
    have twice : (Runs.run OAuthSystem.step (startedFlow pagesFlow 0) selectedTwice).linked = 2 := by
      decide
    have once := holds.linkedOnce _ (Runs.run_mem_states selectedTwice)
    rw [twice] at once
    exact absurd once (by decide)

end Tamanor.Web
