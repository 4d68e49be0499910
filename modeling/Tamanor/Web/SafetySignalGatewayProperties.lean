import Tamanor.Web.SafetySignalGateway

/-! When the privacy gateway loses no safety signal. -/

set_option autoImplicit false

namespace Tamanor.Web

open Tamanor.Core Db Library

variable (envelope : SubmittedEnvelope)

def ingestionStep (store : IngestionStore) (call : GatewayCall) :
    IngestionStore := (processSafetySignalIngestion store envelope call).1

/-! What an accepting answer promises. -/

/-- The answer names a signal of the envelope, whose intervention has been completed or resumed:
completed, if the answer says so. -/
structure Truthful (before after : IngestionStore) (receipt : GatewayReceipt)
    (signalId : String) : Prop where
  named : receipt.signalId = some signalId
  created : signalId ∈ after.created
  present : (after.signals.find? signalId).isSome = true
  completed : receipt.processingState = .completed →
    ∃ row, after.interventions.find? signalId = some row ∧ row.completedAt.isSome = true
  resumed : ∃ row, after.interventions.find? signalId = some row ∧
    (row.completedAt.isSome = true ∨ (before.ledger signalId).attemptCount < row.attemptCount)

def AnswersTruthfully (store : IngestionStore) (call : GatewayCall) : Prop :=
  ∀ receipt, (processSafetySignalIngestion store envelope call).2 = some (.accepted receipt) →
    ∃ signalId, Truthful store (ingestionStep envelope store call) receipt signalId

def ReservationNamesSignal (store : IngestionStore) (call : GatewayCall) : Prop :=
  call.refusal = none → ∀ record, store.findByKey envelope = some record →
    record.payloadHash = envelope.payloadHash → record.signalId ≠ none

/-- Nothing is stored for the envelope, although another payload may have its key. -/
structure Unsubmitted (envelope : SubmittedEnvelope) (store : IngestionStore) : Prop where
  ids : ∀ id row, store.ingestions.find? id = some row → row.id = id
  unreserved : ∀ record, store.findByKey envelope = some record →
    record.payloadHash ≠ envelope.payloadHash
  uncreated : store.created = []

structure EnvelopeInvariant (envelope : SubmittedEnvelope) (store : IngestionStore) : Prop where
  ids : ∀ id row, store.ingestions.find? id = some row → row.id = id
  single : store.created.length ≤ 1
  reserved : store.created ≠ [] → ∃ record, store.findByKey envelope = some record ∧
    record.payloadHash = envelope.payloadHash
  stored : ∀ signalId ∈ store.created, ∃ signal, store.signals.find? signalId = some signal ∧
    signal.tenantId = envelope.tenantId ∧ signal.archivedAt = none
  linked : ∀ record signalId, store.findByKey envelope = some record →
    record.payloadHash = envelope.payloadHash → record.signalId = some signalId →
      signalId ∈ store.created ∧
        ∃ row, store.interventions.find? signalId = some row ∧ row.completedAt.isSome = true

section

variable {envelope : SubmittedEnvelope} {store : IngestionStore} {call : GatewayCall}
variable {record : IngestionRecord} {signalId : String}

theorem Unsubmitted.invariant (unsubmitted : Unsubmitted envelope store) :
    EnvelopeInvariant envelope store where
  ids := unsubmitted.ids
  single := by rw [unsubmitted.uncreated]; exact Nat.zero_le 1
  reserved := fun created => absurd unsubmitted.uncreated created
  stored := by
    intro signalId member
    rw [unsubmitted.uncreated] at member
    cases member
  linked := fun record _ found same => absurd same (unsubmitted.unreserved record found)

theorem findByKey_found (found : store.findByKey envelope = some record) :
    ∃ id, store.ingestions.find? id = some record ∧
      store.ingestions.rows.find? (fun row => row.2.installationId == envelope.installationId &&
        row.2.idempotencyKey == some envelope.idempotencyKey) = some (id, record) := by
  obtain ⟨⟨id, row⟩, searched, same⟩ := Option.map_eq_some_iff.mp found
  cases same
  exact ⟨id, Table.find?_of_find?_rows searched, searched⟩

theorem findByKey_completeIngestion (ids : ∀ id row, store.ingestions.find? id = some row → row.id = id)
    (found : store.findByKey envelope = some record) (outcome : IngestionOutcome) :
    (store.completeIngestion record.id signalId outcome).findByKey envelope =
      some { record with signalId := some signalId, outcome := outcome } := by
  obtain ⟨id, stored, searched⟩ := findByKey_found found
  have same : id = record.id := (ids id record stored).symm
  unfold IngestionStore.findByKey IngestionStore.completeIngestion
  dsimp only
  rw [Table.find?_rows_modify]
  · rw [searched, Option.map_some, if_pos same]
    rfl
  · intro row _
    rfl

theorem EnvelopeInvariant.completeIngestion (invariant : EnvelopeInvariant envelope store)
    (found : store.findByKey envelope = some record)
    (same : record.payloadHash = envelope.payloadHash) (created : signalId ∈ store.created)
    (completed : ∃ row, store.interventions.find? signalId = some row ∧
      row.completedAt.isSome = true) (outcome : IngestionOutcome) :
    EnvelopeInvariant envelope (store.completeIngestion record.id signalId outcome) where
  ids := by
    intro id row stored
    unfold IngestionStore.completeIngestion at stored
    dsimp only at stored
    rw [Table.find?_modify] at stored
    split at stored
    · obtain ⟨earlier, before, rfl⟩ := Option.map_eq_some_iff.mp stored
      exact invariant.ids id earlier before
    · exact invariant.ids id row stored
  single := invariant.single
  reserved := fun _ => ⟨_, findByKey_completeIngestion invariant.ids found outcome, same⟩
  stored := invariant.stored
  linked := by
    intro later other foundLater _ named
    rw [findByKey_completeIngestion invariant.ids found outcome] at foundLater
    cases foundLater
    cases named
    exact ⟨created, completed⟩

/-- What a run of the intervention leaves, and what its answer says of the ledger. -/
structure Intervenes (store after : IngestionStore) (signalId : String)
    (answer : Option InterventionAnswer) : Prop where
  ingestions : after.ingestions = store.ingestions
  signals : after.signals = store.signals
  created : after.created = store.created
  keeps : ∀ id row, store.interventions.find? id = some row → row.completedAt.isSome = true →
    after.interventions.find? id = some row
  answers : ∀ said, answer = some said → ∃ row,
    after.interventions.find? signalId = some row ∧ said = row.answer ∧
      (row.completedAt.isSome = true ∨ (store.ledger signalId).attemptCount < row.attemptCount)

theorem finish_attempts (state : ChildSafetyIntervention) (patch : InterventionPatch)
    (failed : Bool) (now : Int) :
    (state.finish patch failed now).attemptCount = state.attemptCount + 1 := by
  unfold ChildSafetyIntervention.finish InterventionPatch.fail
  split
  · dsimp only
    split <;> rfl
  · rfl

theorem intervenes_upsert {saved : ChildSafetyIntervention} {answer : Option InterventionAnswer}
    (running : (store.ledger signalId).completedAt.isSome = false)
    (answers : ∀ said, answer = some said → said = saved.answer ∧
      (store.ledger signalId).attemptCount < saved.attemptCount) :
    Intervenes store { store with interventions := store.interventions.upsert signalId saved }
      signalId answer where
  ingestions := rfl
  signals := rfl
  created := rfl
  keeps := by
    intro id row found completed
    dsimp only
    rw [Table.find?_upsert]
    split
    next same =>
      unfold IngestionStore.ledger at running
      rw [← same, found, Option.getD_some, completed] at running
      cases running
    next => exact found
  answers := by
    intro said same
    obtain ⟨saying, more⟩ := answers said same
    refine ⟨saved, ?_, saying, .inr more⟩
    dsimp only
    rw [Table.find?_upsert, if_pos rfl]

theorem intervenes (fate : InterventionFate) (now : Int) {signal : SafetySignal}
    (present : store.signals.find? signalId = some signal)
    (tenant : signal.tenantId = envelope.tenantId) (unarchived : signal.archivedAt = none) :
    Intervenes store (store.intervene signalId envelope.tenantId now fate).1 signalId
      (store.intervene signalId envelope.tenantId now fate).2 := by
  have unchanged : Intervenes store store signalId none :=
    ⟨rfl, rfl, rfl, fun _ _ found _ => found, nofun⟩
  unfold IngestionStore.intervene
  rw [present, Option.any_some, tenant, unarchived, beq_self_eq_true, Option.isNone_none]
  dsimp only
  split
  next => exact unchanged
  next =>
    rw [Bool.and_self, Bool.not_true, if_neg Bool.false_ne_true]
    cases completed : (store.ledger signalId).completedAt.isSome with
    | true =>
      rw [if_pos rfl]
      refine ⟨rfl, rfl, rfl, ?_, ?_⟩
      · intro id row found _
        dsimp only
        rw [Table.find?_upsert]
        split
        next same =>
          unfold IngestionStore.ledger
          rw [← same, found, Option.getD_some]
        next => exact found
      · intro said same
        split at same
        next =>
          cases same
          refine ⟨store.ledger signalId, ?_, rfl, .inl completed⟩
          dsimp only
          rw [Table.find?_upsert, if_pos rfl]
        next => cases same
    | false =>
      rw [if_neg Bool.false_ne_true]
      cases fate with
      | stopsBefore => exact unchanged
      | stopsStarted => exact intervenes_upsert completed nofun
      | writes patch failed =>
        refine intervenes_upsert completed ?_
        intro said same
        cases same
        exact ⟨rfl, by rw [finish_attempts]; exact Nat.lt_succ_self _⟩
      | stopsWritten patch failed => exact intervenes_upsert completed nofun

theorem EnvelopeInvariant.intervened (invariant : EnvelopeInvariant envelope store)
    {after : IngestionStore} {answer : Option InterventionAnswer}
    (intervenes : Intervenes store after signalId answer) : EnvelopeInvariant envelope after := by
  obtain ⟨ingestions, signals, interventions, created⟩ := after
  obtain ⟨rfl, rfl, rfl, keeps, _⟩ := intervenes
  refine ⟨invariant.ids, invariant.single, invariant.reserved, invariant.stored, ?_⟩
  intro record other found same named
  obtain ⟨member, row, foundRow, completed⟩ := invariant.linked record other found same named
  exact ⟨member, row, keeps other row foundRow completed, completed⟩

/-- What a call has done once the intervention of the signal has been run. -/
structure Settles (envelope : SubmittedEnvelope) (before after : IngestionStore)
    (signalId : String) (answer : Option GatewayResult) : Prop where
  invariant : EnvelopeInvariant envelope after
  truthful : ∀ receipt, answer = some (.accepted receipt) → Truthful before after receipt signalId

theorem not_accepted_stopped {receipt : GatewayReceipt}
    (stopped : call.stopped = some (.accepted receipt)) : False := by
  unfold GatewayCall.stopped at stopped
  split at stopped
  · cases stopped
  · cases stopped

variable (call) in
theorem settles_interveneAndSettle (invariant : EnvelopeInvariant envelope store)
    (found : store.findByKey envelope = some record)
    (same : record.payloadHash = envelope.payloadHash) (created : signalId ∈ store.created)
    (receiptId : String) (duplicate : Bool) :
    Settles envelope store
      (interveneAndSettle store envelope call record.id signalId receiptId duplicate).1 signalId
      (interveneAndSettle store envelope call record.id signalId receiptId duplicate).2 := by
  obtain ⟨signal, present, tenant, unarchived⟩ := invariant.stored signalId created
  have run := intervenes call.intervention call.now present tenant unarchived
  unfold interveneAndSettle
  split
  next intervened ended =>
    rw [ended] at run
    exact ⟨invariant.intervened run, fun _ accepted => (not_accepted_stopped accepted).elim⟩
  next intervened said ended =>
    rw [ended] at run
    have kept := invariant.intervened run
    obtain ⟨row, foundRow, rfl, progress⟩ := run.answers said rfl
    have foundAfter : intervened.findByKey envelope = some record := by
      unfold IngestionStore.findByKey
      rw [run.ingestions]
      exact found
    have createdAfter : signalId ∈ intervened.created := run.created ▸ created
    have presentAfter : (intervened.signals.find? signalId).isSome = true := by
      rw [run.signals, present]
      rfl
    unfold settleIngestion
    dsimp only
    split
    next completed =>
      have finished : row.completedAt.isSome = true := by
        unfold ChildSafetyIntervention.answer at completed
        dsimp only at completed
        split at completed
        next finished => exact finished
        next => cases completed
      have settled := kept.completeIngestion foundAfter same createdAfter ⟨row, foundRow, finished⟩
        (.orchestrated row.answer.outcome)
      cases call.completion with
      | stopsBefore =>
        exact ⟨kept, fun _ accepted => (not_accepted_stopped accepted).elim⟩
      | stopsAfter =>
        exact ⟨settled, fun _ accepted => (not_accepted_stopped accepted).elim⟩
      | done =>
        refine ⟨settled, ?_⟩
        intro receipt accepted
        cases accepted
        exact ⟨rfl, createdAfter, presentAfter, fun _ => ⟨row, foundRow, finished⟩,
          ⟨row, foundRow, progress⟩⟩
    next processing =>
      refine ⟨kept, ?_⟩
      intro receipt accepted
      cases accepted
      exact ⟨rfl, createdAfter, presentAfter, fun completed => absurd completed processing,
        ⟨row, foundRow, progress⟩⟩

theorem EnvelopeInvariant.createSignal (invariant : EnvelopeInvariant envelope store)
    (found : store.findByKey envelope = some record)
    (same : record.payloadHash = envelope.payloadHash) (unnamed : record.signalId = none)
    (uncreated : store.created = []) (fresh : store.signals.find? signalId = none) :
    EnvelopeInvariant envelope (store.createSignal envelope signalId) where
  ids := invariant.ids
  single := by
    unfold IngestionStore.createSignal
    dsimp only
    rw [uncreated]
    exact Nat.le_refl 1
  reserved := fun _ => ⟨record, found, same⟩
  stored := by
    intro other member
    unfold IngestionStore.createSignal at member ⊢
    dsimp only at member ⊢
    rw [uncreated, List.nil_append, List.mem_singleton] at member
    rw [member, Table.find?_insert signalId fresh, if_pos rfl]
    exact ⟨_, rfl, rfl, rfl⟩
  linked := by
    intro later other foundLater _ named
    have kept : store.findByKey envelope = some later := foundLater
    rw [found] at kept
    cases kept
    rw [unnamed] at named
    cases named

variable (call) in
theorem settles_createAndIntervene (invariant : EnvelopeInvariant envelope store)
    (found : store.findByKey envelope = some record)
    (same : record.payloadHash = envelope.payloadHash) (unnamed : record.signalId = none)
    (uncreated : store.created = []) (receiptId : String) (before : IngestionStore)
    (ledgers : before.interventions = store.interventions) :
    Settles envelope before
      (createAndIntervene store envelope call record.id receiptId).1 call.signalId
      (createAndIntervene store envelope call record.id receiptId).2 := by
  unfold createAndIntervene
  split
  next => exact ⟨invariant, fun _ accepted => (not_accepted_stopped accepted).elim⟩
  next begins =>
    have fresh : store.signals.find? call.signalId = none := by
      rw [Bool.or_eq_true, not_or] at begins
      simpa using begins.2
    have created := invariant.createSignal found same unnamed uncreated fresh
    dsimp only
    split
    next => exact ⟨created, fun _ accepted => (not_accepted_stopped accepted).elim⟩
    next =>
      have member : call.signalId ∈ (store.createSignal envelope call.signalId).created := by
        unfold IngestionStore.createSignal
        exact List.mem_append_right _ (List.mem_singleton_self _)
      obtain ⟨kept, truthful⟩ := settles_interveneAndSettle call created found same member
        receiptId false
      refine ⟨kept, ?_⟩
      intro receipt accepted
      obtain ⟨named, within, present, completed, resumed⟩ := truthful receipt accepted
      refine ⟨named, within, present, completed, ?_⟩
      unfold IngestionStore.ledger at resumed ⊢
      rw [ledgers]
      exact resumed

theorem not_submitted_of_none (invariant : EnvelopeInvariant envelope store)
    (absent : store.findByKey envelope = none) : store.created = [] := by
  by_contra created
  obtain ⟨record, found, _⟩ := invariant.reserved created
  rw [absent] at found
  cases found

theorem EnvelopeInvariant.reserve (invariant : EnvelopeInvariant envelope store)
    (absent : store.findByKey envelope = none) (row : IngestionRecord)
    (fresh : store.ingestions.find? row.id = none)
    (installation : row.installationId = envelope.installationId)
    (key : row.idempotencyKey = some envelope.idempotencyKey) (unnamed : row.signalId = none) :
    ({ store with ingestions := store.ingestions.insert row.id row } :
        IngestionStore).findByKey envelope = some row ∧
      EnvelopeInvariant envelope
        { store with ingestions := store.ingestions.insert row.id row } := by
  have uncreated := not_submitted_of_none invariant absent
  have found : ({ store with ingestions := store.ingestions.insert row.id row } :
      IngestionStore).findByKey envelope = some row := by
    unfold IngestionStore.findByKey at absent ⊢
    dsimp only
    rw [Option.map_eq_none_iff] at absent
    rw [Table.rows_insert row.id fresh, List.find?_append, absent, Option.none_or,
      List.find?_singleton, installation, key, beq_self_eq_true, beq_self_eq_true]
    rfl
  refine ⟨found, ?_, invariant.single, fun created => absurd uncreated created, invariant.stored,
    ?_⟩
  · intro id other stored
    dsimp only at stored
    rw [Table.find?_insert row.id fresh] at stored
    split at stored
    next same =>
      cases stored
      exact same.symm
    next => exact invariant.ids id other stored
  · intro later signalId foundLater _ named
    rw [found] at foundLater
    cases foundLater
    rw [unnamed] at named
    cases named

theorem processes (invariant : EnvelopeInvariant envelope store) :
    EnvelopeInvariant envelope (ingestionStep envelope store call) ∧
      (AnswersTruthfully envelope store call ↔ ReservationNamesSignal envelope store call) := by
  unfold ingestionStep AnswersTruthfully ReservationNamesSignal ingestionStep
  unfold processSafetySignalIngestion
  cases refused : call.refusal with
  | some error => exact ⟨invariant, iff_of_true (fun _ accepted => by cases accepted) nofun⟩
  | none =>
    cases found : store.findByKey envelope with
    | some existing =>
      unfold IngestionStore.reserveIngestion
      rw [found]
      dsimp only
      unfold IngestionStore.classify
      by_cases same : existing.payloadHash = envelope.payloadHash
      · rw [if_pos same]
        dsimp only
        unfold resumeDuplicate
        cases named : existing.signalId with
        | none =>
          refine ⟨invariant, iff_of_false ?_ ?_⟩
          · intro truthful
            obtain ⟨signalId, truth⟩ := truthful _ rfl
            cases truth.named
          · intro names
            exact names rfl existing rfl same named
        | some signalId =>
          obtain ⟨created, _⟩ := invariant.linked existing signalId found same named
          obtain ⟨kept, truthful⟩ := settles_interveneAndSettle call invariant found
            same created existing.receiptId true
          refine ⟨kept, iff_of_true ?_ ?_⟩
          · intro receipt accepted
            exact ⟨signalId, truthful receipt accepted⟩
          · intro _ record foundRecord _
            cases foundRecord
            rw [named]
            exact Option.some_ne_none signalId
      · rw [if_neg same]
        refine ⟨invariant, iff_of_true (fun _ accepted => by cases accepted) ?_⟩
        intro _ record foundRecord sameRecord
        cases foundRecord
        exact absurd sameRecord same
    | none =>
      have uncreated := not_submitted_of_none invariant found
      have names : (none : Option GatewayErrorCode) = none →
          ∀ record : IngestionRecord, none = some record →
          record.payloadHash = envelope.payloadHash → record.signalId ≠ none := nofun
      unfold IngestionStore.reserveIngestion
      rw [found]
      dsimp only
      by_cases stops : call.reservation = .stopsBefore
      · rw [if_pos stops]
        exact ⟨invariant,
          iff_of_true (fun _ accepted => (not_accepted_stopped accepted).elim) names⟩
      · rw [if_neg stops]
        by_cases taken : (store.nonceTaken envelope ||
            (store.ingestions.find? call.ingestionId).isSome) = true
        · rw [if_pos taken]
          exact ⟨invariant, iff_of_true (fun _ accepted => by cases accepted) names⟩
        · rw [if_neg taken]
          have fresh : store.ingestions.find? call.ingestionId = none := by
            rw [Bool.or_eq_true, not_or] at taken
            simpa using taken.2
          obtain ⟨foundRow, reserved⟩ := invariant.reserve found
            ⟨call.ingestionId, envelope.installationId, envelope.nonce,
              some envelope.idempotencyKey, envelope.payloadHash, none, call.receiptId, .pending,
              call.now + defaultTtlMs⟩ fresh rfl rfl rfl
          by_cases done : call.reservation = .done
          · rw [if_pos done]
            obtain ⟨kept, truthful⟩ := settles_createAndIntervene call
              reserved foundRow rfl rfl uncreated call.receiptId store rfl
            refine ⟨kept, iff_of_true ?_ names⟩
            intro receipt accepted
            exact ⟨call.signalId, truthful receipt accepted⟩
          · rw [if_neg done]
            exact ⟨reserved,
              iff_of_true (fun _ accepted => (not_accepted_stopped accepted).elim) names⟩

end

/-- Of any number of calls with an envelope, one at most creates a signal, and every accepting
answer is truthful. -/
structure KeepsSignal (envelope : SubmittedEnvelope) (store : IngestionStore)
    (calls : List GatewayCall) : Prop where
  single : ∀ reached ∈ Runs.states (ingestionStep envelope) store calls,
    reached.created.length ≤ 1
  truthful : Runs.Meets (ingestionStep envelope) (AnswersTruthfully envelope) store calls

theorem single_created {envelope : SubmittedEnvelope} {store : IngestionStore}
    (calls : List GatewayCall) (unsubmitted : Unsubmitted envelope store) :
    ∀ reached ∈ Runs.states (ingestionStep envelope) store calls, reached.created.length ≤ 1 := by
  have holds : ∀ reached ∈ Runs.states (ingestionStep envelope) store calls,
      EnvelopeInvariant envelope reached := by
    refine Runs.forall_states ?_ calls unsubmitted.invariant
    intro state call invariant
    exact (processes invariant).1
  intro reached member
  exact (holds reached member).single

/-- The signal of an envelope is kept exactly if no call finds a reservation that names none. -/
theorem keepsSignal_iff (envelope : SubmittedEnvelope) (store : IngestionStore)
    (calls : List GatewayCall) (unsubmitted : Unsubmitted envelope store) :
    KeepsSignal envelope store calls ↔
      Runs.Meets (ingestionStep envelope) (ReservationNamesSignal envelope) store calls := by
  have agree : Runs.Meets (ingestionStep envelope) (AnswersTruthfully envelope) store calls ↔
      Runs.Meets (ingestionStep envelope) (ReservationNamesSignal envelope) store calls := by
    refine Runs.meets_congr ?_ ?_ unsubmitted.invariant
    · intro state call invariant
      exact (processes invariant).1
    · intro state call invariant
      exact (processes invariant).2
  constructor
  · intro kept
    exact agree.mp kept.truthful
  · intro named
    exact ⟨single_created calls unsubmitted, agree.mpr named⟩

def submittedEnvelope : SubmittedEnvelope :=
  ⟨"installation", "tenant", "profile", "nonce", "key", "hash", .high, .identityManipulation⟩

def emptyIngestion : IngestionStore := ⟨.empty, .empty, .empty, []⟩

theorem emptyIngestion_unsubmitted : Unsubmitted submittedEnvelope emptyIngestion :=
  ⟨nofun, nofun, rfl⟩

def blankPatch : InterventionPatch := ⟨.noAction, none, none, none, none, none, none, none, none⟩

/-- A call all of whose statements commit, with an intervention in which a step has failed or
none. -/
def gatewayCall (failed : Bool) (now : Int) : GatewayCall :=
  ⟨none, now, "receipt", "ingestion", "signal", .done, .done, .writes blankPatch failed, .done, false⟩

/-- An envelope that is submitted twice, with an intervention that completes at once. -/
theorem keepsSignal_of_completed :
    KeepsSignal submittedEnvelope emptyIngestion [gatewayCall false 0, gatewayCall false 1] := by
  refine (keepsSignal_iff submittedEnvelope emptyIngestion _ emptyIngestion_unsubmitted).mpr
    ⟨?_, ?_, trivial⟩
  · intro _ record found
    cases found
  · intro _ record found _ unnamed
    cases found
    cases unnamed

/-- A retry of a call whose intervention has failed is accepted without a signal. -/
theorem retry_names_no_signal :
    ¬∀ (envelope : SubmittedEnvelope) (store : IngestionStore) (calls : List GatewayCall),
      Unsubmitted envelope store → KeepsSignal envelope store calls := by
  intro claim
  have truthful := (claim submittedEnvelope emptyIngestion [gatewayCall true 0, gatewayCall true 1]
    emptyIngestion_unsubmitted).truthful.2.1
  obtain ⟨signalId, truth⟩ := truthful ⟨"receipt", none, true, .pending, .completed, 1⟩ (by rfl)
  cases truth.named

end Tamanor.Web
