import Tamanor.Db.OutboxWorkers

/-! When settled events stay settled. A settlement names the event only, so a worker whose
event was reclaimed overwrites what the worker that reclaimed it has done. -/

set_option autoImplicit false

namespace Tamanor.Db

open Library OutboxSystem

def Reclaimed (events : OutboxTable) (ev : ClaimedRow) : Prop :=
  ∃ event, events.find? ev.id = some event ∧ ev.attemptCount < event.attemptCount

def LatestClaim (events : OutboxTable) (ev : ClaimedRow) : Prop :=
  ∀ event, events.find? ev.id = some event → event.attemptCount = ev.attemptCount

def KeepsTerminalStatus (system : OutboxSystem) (action : OutboxAction) : Prop :=
  ∀ id event event', system.events.find? id = some event →
    (system.step action).events.find? id = some event' →
    event.status.IsTerminal → event'.status = event.status

def CompletesUnderLatestClaim (system : OutboxSystem) (action : OutboxAction) : Prop :=
  ∀ worker ev outcome, action = .settle worker →
    (system.workers worker).deciding = some (ev, outcome) →
    (∃ reason, outboxSettlement ev (system.workers worker).now outcome = .completed reason) →
    LatestClaim system.events ev

def SettlesUnreclaimed (system : OutboxSystem) (action : OutboxAction) : Prop :=
  ∀ worker ev outcome, action = .settle worker →
    (system.workers worker).deciding = some (ev, outcome) → ¬Reclaimed system.events ev

instance (events : OutboxTable) (ev : ClaimedRow) : Decidable (Reclaimed events ev) :=
  decidable_of_iff
    ((events.find? ev.id).any fun event => decide (ev.attemptCount < event.attemptCount))
    (by simp [Reclaimed, Option.any_eq_true])

instance (system : OutboxSystem) (worker : Nat) :
    Decidable (SettlesUnreclaimed system (.settle worker)) :=
  decidable_of_iff (∀ decided ∈ (system.workers worker).deciding,
      ¬Reclaimed system.events decided.1) (by
    constructor
    · rintro unreclaimed other ev outcome ⟨⟩ decided
      exact unreclaimed (ev, outcome) decided
    · rintro unreclaimed ⟨ev, outcome⟩ decided
      exact unreclaimed worker ev outcome rfl decided)

instance (system : OutboxSystem) : DecidablePred (SettlesUnreclaimed system)
  | .claim .. | .process .. | .crash _ => .isTrue fun _ _ _ same => nomatch same
  | .settle _ => inferInstance

variable {system : OutboxSystem} {action : OutboxAction} {ev : ClaimedRow}

/-- A held claim is on its event, which is being processed unless it was claimed again. -/
structure HoldsClaim (events : OutboxTable) (ev : ClaimedRow) (event : OutboxEvent) : Prop where
  found : events.find? ev.id = some event
  tenant : event.tenantId = ev.tenantId
  counted : ev.attemptCount ≤ event.attemptCount
  processing : ev.attemptCount = event.attemptCount → event.status = .processing

structure TracksClaims (system : OutboxSystem) : Prop where
  distinct : ∀ worker, ((system.workers worker).held.map ClaimedRow.id).Nodup
  apart : ∀ worker other, worker ≠ other → ∀ ev ∈ (system.workers worker).held,
    ∀ ev' ∈ (system.workers other).held, ev.id = ev'.id → ev.attemptCount ≠ ev'.attemptCount
  holds : ∀ worker, ∀ ev ∈ (system.workers worker).held, ∃ event, HoldsClaim system.events ev event

theorem tracksClaims_start (events : OutboxTable) : TracksClaims (start events) where
  distinct := fun _ => List.nodup_nil
  apart := fun _ _ _ _ member => absurd member List.not_mem_nil
  holds := fun _ _ member => absurd member List.not_mem_nil

variable {now : Int} {events : OutboxTable}

theorem holdsClaim_claimBatch {size : Option ℚ} (member : ev ∈ (claimBatch now size events).2) :
    ∃ event, HoldsClaim (claimBatch now size events).1 ev event := by
  obtain ⟨event, -, -, same, after⟩ := mem_claimBatch member
  refine ⟨_, after, ?_, ?_, fun _ => rfl⟩
  · rw [same]
    rfl
  · rw [same]
    exact le_rfl

theorem HoldsClaim.claimBatch {size : Option ℚ} {event : OutboxEvent}
    (holds : HoldsClaim events ev event) :
    (∃ event', HoldsClaim (claimBatch now size events).1 ev event') ∧
      ∀ ev' ∈ (claimBatch now size events).2, ev.id = ev'.id → ev.attemptCount < ev'.attemptCount := by
  constructor
  · rcases find?_claimBatch now size holds.found with
      ⟨-, kept⟩ | ⟨-, -, claims⟩
    · exact ⟨event, kept, holds.tenant, holds.counted, holds.processing⟩
    · exact ⟨Db.claimed now event, claims, holds.tenant, Nat.le_succ_of_le holds.counted, fun _ => rfl⟩
  · intro ev' member same
    obtain ⟨stored, found, -, is, -⟩ := mem_claimBatch member
    rw [← same, holds.found] at found
    cases found
    rw [is]
    exact Nat.lt_succ_of_le holds.counted

theorem TracksClaims.latest {worker : Nat} {outcome : OutboxOutcome} (tracks : TracksClaims system)
    (decided : (system.workers worker).deciding = some (ev, outcome))
    (unreclaimed : ¬Reclaimed system.events ev) :
    ∃ event, HoldsClaim system.events ev event ∧ ev.attemptCount = event.attemptCount := by
  have held : ev ∈ (system.workers worker).held := by
    rw [OutboxWorker.held, decided]
    exact List.mem_cons_self
  obtain ⟨event, holds⟩ := tracks.holds worker ev held
  refine ⟨event, holds, ?_⟩
  have counted := holds.counted
  by_contra changed
  exact unreclaimed ⟨event, holds.found, by omega⟩

theorem HoldsClaim.settle {ev ev' : ClaimedRow} {event stored : OutboxEvent}
    (outcome : OutboxOutcome) (holds : HoldsClaim events ev' event)
    (latest : HoldsClaim events ev stored) (current : ev.attemptCount = stored.attemptCount)
    (older : ev'.id = ev.id → ev'.attemptCount ≠ ev.attemptCount) :
    ∃ event', HoldsClaim (settleEvent ev now outcome events) ev' event' := by
  by_cases same : ev'.id = ev.id
  · obtain rfl : stored = event := by
      have found := latest.found
      rw [← same, holds.found] at found
      exact (Option.some.inj found).symm
    refine ⟨(outboxSettlement ev now outcome).write now stored, ?_, ?_, ?_, ?_⟩
    · rw [find?_settle, holds.found, Option.map_some, if_pos ⟨same, latest.tenant⟩]
    · rw [tenantId_write]
      exact holds.tenant
    · rw [attemptCount_write]
      exact holds.counted
    · rw [attemptCount_write]
      intro equal
      exact absurd (equal.trans current.symm) (older same)
  · refine ⟨event, ?_, holds.tenant, holds.counted, holds.processing⟩
    rw [find?_settle_other _ same]
    exact holds.found

theorem TracksClaims.step (tracks : TracksClaims system) (settles : SettlesUnreclaimed system action) :
    TracksClaims (system.step action) := by
  rcases step_cases system action with
    ⟨worker, now, size, rfl, idle, after⟩ | ⟨worker, ev, outcome, rfl, decided, after⟩ |
    ⟨sameEvents, fewer⟩
  · rw [after]
    have mine : (⟨now, (claimBatch now size system.events).2, none⟩ : OutboxWorker).held =
        (claimBatch now size system.events).2 := rfl
    constructor
    case distinct =>
      intro other
      by_cases here : other = worker
      · rw [here, workers_withWorker_self, mine]
        exact nodup_claimBatch _ _ _
      · rw [workers_withWorker_other here]
        exact tracks.distinct other
    case apart =>
      intro first second different ev member ev' member' same
      by_cases here : first = worker
      · rw [here, workers_withWorker_self, mine] at member
        rw [workers_withWorker_other (fun there => different (here.trans there.symm))] at member'
        obtain ⟨event, holds⟩ := tracks.holds second ev' member'
        exact (holds.claimBatch.2 ev member same.symm).ne'
      · rw [workers_withWorker_other here] at member
        obtain ⟨event, holds⟩ := tracks.holds first ev member
        by_cases there : second = worker
        · rw [there, workers_withWorker_self, mine] at member'
          exact (holds.claimBatch.2 ev' member' same).ne
        · rw [workers_withWorker_other there] at member'
          exact tracks.apart first second different ev member ev' member' same
    case holds =>
      intro other ev member
      by_cases here : other = worker
      · rw [here, workers_withWorker_self, mine] at member
        exact holdsClaim_claimBatch member
      · rw [workers_withWorker_other here] at member
        obtain ⟨event, holds⟩ := tracks.holds other ev member
        exact holds.claimBatch.1
  · rw [after]
    have before : (system.workers worker).held = ev :: (system.workers worker).remaining := by
      rw [OutboxWorker.held, decided]
      rfl
    have rest : ({ system.workers worker with deciding := none } : OutboxWorker).held =
        (system.workers worker).remaining := rfl
    have distinct := tracks.distinct worker
    rw [before, List.map_cons, List.nodup_cons] at distinct
    have held : ev ∈ (system.workers worker).held := before ▸ List.mem_cons_self
    have fewer {other : Nat} {ev' : ClaimedRow} (member : ev' ∈ ((OutboxSystem.withWorker
        { system with events := settleEvent ev (system.workers worker).now outcome system.events }
        worker { system.workers worker with deciding := none }).workers other).held) :
        ev' ∈ (system.workers other).held ∧
          (ev'.id = ev.id → ev'.attemptCount ≠ ev.attemptCount) := by
      by_cases here : other = worker
      · rw [here, workers_withWorker_self, rest] at member
        rw [here, before]
        exact ⟨List.mem_cons_of_mem _ member, fun same => absurd
          (same ▸ List.mem_map_of_mem member) distinct.1⟩
      · rw [workers_withWorker_other here] at member
        exact ⟨member, tracks.apart other worker here ev' member ev held⟩
    constructor
    case distinct =>
      intro other
      by_cases here : other = worker
      · rw [here, workers_withWorker_self, rest]
        exact distinct.2
      · rw [workers_withWorker_other here]
        exact tracks.distinct other
    case apart =>
      intro first second different ev' member ev'' member' same
      exact tracks.apart first second different ev' (fewer member).1 ev'' (fewer member').1 same
    case holds =>
      intro other ev' member
      obtain ⟨member, older⟩ := fewer member
      obtain ⟨event, holds⟩ := tracks.holds other ev' member
      rw [events_withWorker]
      obtain ⟨stored, latest, current⟩ := tracks.latest decided (settles worker ev outcome rfl decided)
      exact holds.settle outcome latest current older
  · have kept {worker : Nat} {ev : ClaimedRow} (member : ev ∈ ((system.step action).workers worker).held) :
        ev ∈ (system.workers worker).held := (fewer worker).subset member
    constructor
    case distinct =>
      intro worker
      obtain ⟨rows, perm, sublist⟩ := fewer worker
      exact (perm.map ClaimedRow.id).nodup_iff.mp
        ((tracks.distinct worker).sublist (sublist.map ClaimedRow.id))
    case apart =>
      intro first second different ev member ev' member' same
      exact tracks.apart first second different ev (kept member) ev' (kept member') same
    case holds =>
      intro worker ev member
      rw [sameEvents]
      exact tracks.holds worker ev (kept member)

theorem TracksClaims.keepsTerminalStatus (tracks : TracksClaims system)
    (settles : SettlesUnreclaimed system action) : KeepsTerminalStatus system action := by
  intro id event event' found found' terminal
  rcases step_cases system action with
    ⟨worker, now, size, rfl, -, after⟩ | ⟨worker, ev, outcome, rfl, decided, after⟩ | ⟨same, -⟩
  · rw [after, events_withWorker] at found'
    rcases find?_claimBatch now size found with ⟨-, kept⟩ | ⟨claimable, -⟩
    · rw [kept] at found'
      cases found'
      rfl
    · exact absurd terminal (not_isTerminal_of_isClaimable claimable)
  · rw [after, events_withWorker] at found'
    by_cases here : id = ev.id
    · subst here
      obtain ⟨stored, holds, current⟩ := tracks.latest decided (settles worker ev outcome rfl decided)
      have same : stored = event := Option.some.inj (holds.found.symm.trans found)
      have processing := holds.processing current
      rw [same] at processing
      rcases terminal with completed | deadLetter
      · rw [processing] at completed
        cases completed
      · rw [processing] at deadLetter
        cases deadLetter
    · rw [find?_settle_other outcome here, found] at found'
      cases found'
      rfl
  · rw [same, found] at found'
    cases found'
    rfl

theorem TracksClaims.completesUnderLatestClaim (tracks : TracksClaims system)
    (settles : SettlesUnreclaimed system action) : CompletesUnderLatestClaim system action := by
  rintro worker ev outcome same decided - event found
  obtain ⟨stored, holds, current⟩ := tracks.latest decided (settles worker ev outcome same decided)
  rw [holds.found] at found
  cases found
  exact current.symm

/-- If no worker settles an event that was reclaimed from it, a settled event stays as it is,
and it is completed under its latest claim. -/
theorem outbox_terminal_of_settlesUnreclaimed (events : OutboxTable) (actions : List OutboxAction)
    (unreclaimed : Runs.Meets OutboxSystem.step SettlesUnreclaimed (start events) actions) :
    Runs.Meets OutboxSystem.step KeepsTerminalStatus (start events) actions ∧
      Runs.Meets OutboxSystem.step CompletesUnderLatestClaim (start events) actions := by
  have initial := tracksClaims_start events
  exact ⟨unreclaimed.of_invariant TracksClaims.step TracksClaims.keepsTerminalStatus initial,
    unreclaimed.of_invariant TracksClaims.step TracksClaims.completesUnderLatestClaim initial⟩

def createsOne : CreateNotification := fun _ _ _ => some (.ok 1 1 0)

def throwsError : CreateNotification := fun _ _ _ => none

def reclaimedAfterCrash : List OutboxAction :=
  [.claim 0 0 none, .crash 0, .claim 1 300_001 none, .process 1 "event" createsOne, .settle 1]

theorem outbox_terminal_of_crash :
    Runs.Meets OutboxSystem.step KeepsTerminalStatus (start queuedEvents) reclaimedAfterCrash ∧
      Runs.Meets OutboxSystem.step CompletesUnderLatestClaim (start queuedEvents)
        reclaimedAfterCrash :=
  outbox_terminal_of_settlesUnreclaimed queuedEvents reclaimedAfterCrash (by decide +kernel)

/-- The first worker outlives its lease; its attempt fails after a second worker is done. -/
def reclaimedFromSlow (create : CreateNotification) : List OutboxAction :=
  [.claim 0 0 none, .claim 1 300_001 none, .process 1 "event" createsOne, .settle 1,
    .process 0 "event" create, .settle 0]

theorem not_outbox_terminal_of_slow :
    ¬Runs.Meets OutboxSystem.step KeepsTerminalStatus (start queuedEvents)
        (reclaimedFromSlow throwsError) ∧
      ¬Runs.Meets OutboxSystem.step CompletesUnderLatestClaim (start queuedEvents)
        (reclaimedFromSlow createsOne) := by
  constructor
  · intro kept
    have last := kept.2.2.2.2.2.1
    have completed : ((Runs.run OutboxSystem.step (start queuedEvents)
        ((reclaimedFromSlow throwsError).take 5)).events.find? "event").map OutboxEvent.status =
          some .completed := by decide +kernel
    have pending : ((Runs.run OutboxSystem.step (start queuedEvents)
        (reclaimedFromSlow throwsError)).events.find? "event").map OutboxEvent.status =
          some .pending := by decide +kernel
    obtain ⟨event, found, wasCompleted⟩ := Option.map_eq_some_iff.mp completed
    obtain ⟨event', found', isPending⟩ := Option.map_eq_some_iff.mp pending
    have same := last "event" event event' found found' (.inl wasCompleted)
    rw [wasCompleted, isPending] at same
    cases same
  · intro latest
    have last := latest.2.2.2.2.2.1
    have decided : (((Runs.run OutboxSystem.step (start queuedEvents)
        ((reclaimedFromSlow createsOne).take 5)).workers 0).deciding) =
          some ({ claimedRow "event" queuedEvent with attemptCount := 1 },
            .completed .delivered 1 0 false) := by decide +kernel
    have reclaimed : ((Runs.run OutboxSystem.step (start queuedEvents)
        ((reclaimedFromSlow createsOne).take 5)).events.find? "event").map OutboxEvent.attemptCount =
          some 2 := by decide +kernel
    obtain ⟨event, found, twice⟩ := Option.map_eq_some_iff.mp reclaimed
    have once := last 0 _ _ rfl decided ⟨.delivered, rfl⟩ event found
    rw [twice] at once
    cases once

end Tamanor.Db
