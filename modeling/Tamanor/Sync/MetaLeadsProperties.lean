import Tamanor.Sync.MetaLeads

/-! When no lead is lost or miscounted. -/

set_option autoImplicit false

namespace Tamanor.Sync

open Tamanor.Core Db Library

/-! What the outcomes of a change say before it is processed. -/

def LeadOutcomes.throws (outcomes : LeadOutcomes) : Bool :=
  match outcomes.token with
  | .error _ => true
  | .ok none => !outcomes.record.isOk
  | .ok (some _) =>
    match outcomes.lead with
    | .error _ => !outcomes.record.isOk
    | .ok _ => !(outcomes.connection.isOk && outcomes.contact.isOk && outcomes.record.isOk)

/-- The key under which the contact of a change is stored, if its steps get that far. -/
def keyOf (runtime : LeadRuntime) (account : MetaLeadAccount) (change : MetaLeadgenChange)
    (outcomes : LeadOutcomes) : Option (String × String) :=
  match outcomes.token, outcomes.lead, outcomes.connection, outcomes.contact with
  | .ok (some _), .ok lead, .ok connectionId, .ok () =>
    some (contactKey runtime account.tenantId
      (normalizeMetaLead runtime lead change connectionId outcomes.now))
  | _, _, _, _ => none

def storedUnder (runtime : LeadRuntime) (accounts : List MetaLeadAccount)
    (lead : MetaLeadgenChange × LeadOutcomes) : Option (String × String) :=
  (accountOfPage accounts lead.1.pageId).bind fun account => keyOf runtime account lead.1 lead.2

/-- Not both the try block of a change and its handler throw. -/
def Handled (accounts : List MetaLeadAccount) (lead : MetaLeadgenChange × LeadOutcomes) : Prop :=
  ((accountOfPage accounts lead.1.pageId).isSome && lead.2.throws && !lead.2.handlerRecord.isOk)
    = false

section change

variable {runtime : LeadRuntime} {accounts : List MetaLeadAccount} {account : MetaLeadAccount}
variable {store : LeadStore} {change : MetaLeadgenChange} {outcomes : LeadOutcomes}

@[simp] theorem recordEvent_contacts (outcome : Except LeadError Unit)
    (event : BusinessIngestionEvent) :
    (store.recordEvent outcome event).1.contacts = store.contacts := by
  cases outcome with
  | ok => rfl
  | error => rfl

@[simp] theorem recordEvent_outcome (outcome : Except LeadError Unit)
    (event : BusinessIngestionEvent) : (store.recordEvent outcome event).2 = outcome := by
  cases outcome with
  | ok => rfl
  | error => rfl

@[simp] theorem reject_contacts (now : Int) (record : Except LeadError Unit) (errorCode : String)
    (verdict : LeadVerdict) :
    (store.reject runtime account change now record errorCode verdict).1.contacts =
      store.contacts :=
  recordEvent_contacts _ _

@[simp] theorem reject_outcome (now : Int) (record : Except LeadError Unit) (errorCode : String)
    (verdict : LeadVerdict) :
    (store.reject runtime account change now record errorCode verdict).2 =
      record.map fun _ => verdict :=
  congrArg (Except.map fun _ => verdict) (recordEvent_outcome _ _)

variable (runtime account store change outcomes)

theorem attempt_contacts :
    (store.attempt runtime account change outcomes).1.contacts = store.contacts ∧
        keyOf runtime account change outcomes = none ∨
      ∃ key row, keyOf runtime account change outcomes = some key ∧
        (store.attempt runtime account change outcomes).1.contacts =
          store.contacts.insert key row := by
  obtain ⟨token, lead, connection, contact, record, handlerRecord, newId, now⟩ := outcomes
  cases token with
  | error => exact .inl ⟨rfl, rfl⟩
  | ok token =>
    cases token with
    | none => exact .inl ⟨reject_contacts _ _ _ _, rfl⟩
    | some token =>
      cases lead with
      | error => exact .inl ⟨reject_contacts _ _ _ _, rfl⟩
      | ok lead =>
        cases connection with
        | error => exact .inl ⟨rfl, rfl⟩
        | ok connectionId =>
          cases contact with
          | error => exact .inl ⟨rfl, rfl⟩
          | ok => exact .inr ⟨_, _, rfl, recordEvent_contacts _ _⟩

theorem attempt_throws :
    (store.attempt runtime account change outcomes).2.isOk = !outcomes.throws := by
  obtain ⟨token, lead, connection, contact, record, handlerRecord, newId, now⟩ := outcomes
  cases token with
  | error => rfl
  | ok token =>
    cases token with
    | none => cases record <;> rfl
    | some token =>
      cases lead with
      | error => cases record <;> rfl
      | ok lead =>
        cases connection with
        | error => rfl
        | ok connectionId =>
          cases contact with
          | error => rfl
          | ok => cases record <;> rfl

variable {runtime account store change outcomes}

theorem attempt_ingested :
    (store.attempt runtime account change outcomes).2 = .ok .ingested ↔
      ∃ key, keyOf runtime account change outcomes = some key ∧
        store.contacts.find? key = none ∧ outcomes.record.isOk = true := by
  obtain ⟨token, lead, connection, contact, record, handlerRecord, newId, now⟩ := outcomes
  cases token with
  | error => simp [LeadStore.attempt, keyOf]
  | ok token =>
    cases token with
    | none => cases record <;> simp [LeadStore.attempt, keyOf, Except.map]
    | some token =>
      cases lead with
      | error => cases record <;> simp [LeadStore.attempt, keyOf, Except.map]
      | ok lead =>
        cases connection with
        | error => simp [LeadStore.attempt, keyOf]
        | ok connectionId =>
          cases contact with
          | error => simp [LeadStore.attempt, keyOf, LeadStore.ingestBusinessContact]
          | ok =>
            cases record with
            | error => simp [LeadStore.attempt, LeadStore.ingestBusinessContact,
                Except.map, Except.isOk, Except.toBool]
            | ok => simp [LeadStore.attempt, keyOf, LeadStore.ingestBusinessContact,
                Except.map, Except.isOk, Except.toBool]

variable (runtime account store change outcomes) in
theorem ingestChange_contacts :
    (store.ingestChange runtime account change outcomes).1.contacts =
      (store.attempt runtime account change outcomes).1.contacts := by
  unfold LeadStore.ingestChange
  split
  next attempted verdict ran => rw [ran]
  next attempted error ran => rw [ran, reject_contacts]

variable (runtime account store change outcomes) in
theorem ingestChange_ok :
    (store.ingestChange runtime account change outcomes).2.isOk =
      !(outcomes.throws && !outcomes.handlerRecord.isOk) := by
  have attempted := attempt_throws runtime account store change outcomes
  unfold LeadStore.ingestChange
  split
  next ran =>
    rw [ran] at attempted
    have quiet : outcomes.throws = false := by simpa [Except.isOk, Except.toBool] using attempted
    rw [quiet]
    rfl
  next error ran =>
    rw [ran] at attempted
    have thrown : outcomes.throws = true := by simpa [Except.isOk, Except.toBool] using attempted
    rw [thrown, reject_outcome]
    cases outcomes.handlerRecord <;> rfl

theorem ingestChange_ingested :
    (store.ingestChange runtime account change outcomes).2 = .ok .ingested ↔
      (store.attempt runtime account change outcomes).2 = .ok .ingested := by
  unfold LeadStore.ingestChange
  split
  next ran => rw [ran]
  next error ran =>
    rw [ran, reject_outcome]
    cases outcomes.handlerRecord <;> simp [Except.map]

end change

section batch

variable {runtime : LeadRuntime} {accounts : List MetaLeadAccount}
variable {batch : LeadBatch} {lead : MetaLeadgenChange × LeadOutcomes}

abbrev leadStep (runtime : LeadRuntime) (accounts : List MetaLeadAccount) :
    LeadBatch → MetaLeadgenChange × LeadOutcomes → LeadBatch := LeadBatch.ingest runtime accounts

def LeadBatch.contact? (batch : LeadBatch) (key : String × String) : Option BusinessContact :=
  batch.store.contacts.find? key

def Created (before after : LeadBatch) : Prop :=
  ∃ key, before.contact? key = none ∧ (after.contact? key).isSome = true

theorem ingest_thrown (thrown : batch.thrown = true) :
    batch.ingest runtime accounts lead = batch := by
  rw [LeadBatch.ingest, if_pos thrown]

variable (runtime accounts lead) in
theorem ingest_contacts (running : batch.thrown = false) :
    (batch.ingest runtime accounts lead).store.contacts = batch.store.contacts ∧
        storedUnder runtime accounts lead = none ∨
      ∃ key row, storedUnder runtime accounts lead = some key ∧
        (batch.ingest runtime accounts lead).store.contacts =
          batch.store.contacts.insert key row := by
  unfold LeadBatch.ingest storedUnder
  rw [running, if_neg Bool.false_ne_true]
  cases accountOfPage accounts lead.1.pageId with
  | none => exact .inl ⟨rfl, rfl⟩
  | some account =>
    have kept := attempt_contacts runtime account batch.store lead.1 lead.2
    rw [← ingestChange_contacts] at kept
    rw [Option.bind_some]
    dsimp only
    split
    next ran =>
      rw [ran] at kept
      exact kept
    next ran =>
      rw [ran] at kept
      exact kept

variable (runtime accounts lead) in
theorem ingest_escapes (running : batch.thrown = false) :
    (batch.ingest runtime accounts lead).thrown = false ↔ Handled accounts lead := by
  unfold LeadBatch.ingest Handled
  rw [running, if_neg Bool.false_ne_true]
  cases accountOfPage accounts lead.1.pageId with
  | none => exact iff_of_true rfl rfl
  | some account =>
    have ended := ingestChange_ok runtime account batch.store lead.1 lead.2
    rw [Option.isSome_some, Bool.true_and]
    dsimp only
    split
    next ran =>
      rw [ran] at ended
      exact iff_of_true rfl ((Bool.not_eq_true' _).mp ended.symm)
    next ran =>
      rw [ran] at ended
      have escaped := (Bool.not_eq_false' _).mp ended.symm
      rw [escaped]

theorem ingest_total (running : (batch.ingest runtime accounts lead).thrown = false) :
    (batch.ingest runtime accounts lead).result.total = batch.result.total + 1 := by
  have counts : ∀ verdict, (batch.result.count verdict).total = batch.result.total + 1 := by
    intro verdict
    cases verdict <;> simp only [MetaLeadgenIngestResult.count, MetaLeadgenIngestResult.total] <;>
      omega
  unfold LeadBatch.ingest at running ⊢
  split at running
  next thrown =>
    rw [running] at thrown
    cases thrown
  next unthrown =>
    rw [if_neg unthrown]
    cases page : accountOfPage accounts lead.1.pageId with
    | none => exact counts _
    | some account =>
      rw [page] at running
      dsimp only at running ⊢
      split at running
      next => exact counts _
      next => cases running

theorem ingest_ingested (running : batch.thrown = false) :
    (batch.ingest runtime accounts lead).result.ingested = batch.result.ingested + 1 ↔
      ∃ key, storedUnder runtime accounts lead = some key ∧ batch.contact? key = none ∧
        lead.2.record.isOk = true := by
  unfold LeadBatch.ingest storedUnder LeadBatch.contact?
  rw [running, if_neg Bool.false_ne_true]
  cases accountOfPage accounts lead.1.pageId with
  | none => simp [MetaLeadgenIngestResult.count]
  | some account =>
    rw [Option.bind_some, ← attempt_ingested, ← ingestChange_ingested]
    dsimp only
    split
    next verdict ran =>
      rw [ran]
      cases verdict <;> simp [MetaLeadgenIngestResult.count]
    next ran => simp [ran]

theorem created_iff (running : batch.thrown = false) :
    Created batch (batch.ingest runtime accounts lead) ↔
      ∃ key, storedUnder runtime accounts lead = some key ∧ batch.contact? key = none := by
  unfold Created LeadBatch.contact?
  obtain ⟨same, nothing⟩ | ⟨key, row, stored, inserted⟩ := ingest_contacts runtime accounts lead running
  · rw [same, nothing]
    constructor
    · intro ⟨key, absent, present⟩
      rw [absent] at present
      cases present
    · intro ⟨key, stored, _⟩
      cases stored
  · rw [inserted, stored]
    constructor
    · intro ⟨other, absent, present⟩
      refine ⟨key, rfl, ?_⟩
      cases found : batch.store.contacts.find? key with
      | none => rfl
      | some taken =>
        rw [Table.insert_taken found, absent] at present
        cases present
    · intro ⟨other, same, absent⟩
      cases same
      exact ⟨key, absent, by rw [Table.find?_insert key absent, if_pos rfl]; rfl⟩

theorem not_created_thrown (thrown : batch.thrown = true) :
    ¬Created batch (batch.ingest runtime accounts lead) := by
  rw [ingest_thrown thrown]
  intro ⟨key, absent, present⟩
  rw [absent] at present
  cases present

theorem ingest_keeps {key : String × String}
    (found : (batch.contact? key).isSome = true) :
    ((batch.ingest runtime accounts lead).contact? key).isSome = true := by
  cases running : batch.thrown with
  | true => rw [ingest_thrown running]; exact found
  | false =>
    unfold LeadBatch.contact? at found ⊢
    obtain ⟨same, _⟩ | ⟨added, row, _, inserted⟩ := ingest_contacts runtime accounts lead running
    · rw [same]
      exact found
    · rw [inserted]
      cases taken : batch.store.contacts.find? added with
      | some value =>
        rw [Table.insert_taken taken]
        exact found
      | none =>
        rw [Table.find?_insert added taken]
        split
        · rfl
        · exact found

end batch

/-- A change, how its steps end in the call, and how they end in a replay of it. -/
structure ReplayedLead where
  change : MetaLeadgenChange
  call : LeadOutcomes
  replay : LeadOutcomes

def ReplayedLead.called (lead : ReplayedLead) : MetaLeadgenChange × LeadOutcomes :=
  (lead.change, lead.call)

def ReplayedLead.replayed (lead : ReplayedLead) : MetaLeadgenChange × LeadOutcomes :=
  (lead.change, lead.replay)

section replay

variable (runtime : LeadRuntime) (accounts : List MetaLeadAccount)

def replayStep (batch : LeadBatch) (lead : ReplayedLead) : LeadBatch :=
  batch.ingest runtime accounts lead.replayed

def CreatedIsCounted (batch : LeadBatch) (lead : MetaLeadgenChange × LeadOutcomes) : Prop :=
  Created batch (batch.ingest runtime accounts lead) →
    (batch.ingest runtime accounts lead).result.ingested = batch.result.ingested + 1

def HasContact (store : LeadStore) (lead : MetaLeadgenChange × LeadOutcomes) : Prop :=
  ∃ key, storedUnder runtime accounts lead = some key ∧ (store.contacts.find? key).isSome = true

/-- The replay of a change whose contact is stored creates none. -/
def CreatesNoSecond (store : LeadStore) (batch : LeadBatch) (lead : ReplayedLead) : Prop :=
  HasContact runtime accounts store lead.called →
    ¬Created batch (replayStep runtime accounts batch lead)

/-- No lead is lost or miscounted: the call returns and counts each change once, a created
contact as ingested, and its replay creates no second contact. -/
structure NoLeadLost (store : LeadStore) (leads : List ReplayedLead) : Prop where
  returns : ∃ result,
    (ingestMetaLeadgenChanges runtime accounts store (leads.map ReplayedLead.called)).2 =
      some result ∧ result.total = leads.length
  counted : Runs.Meets (leadStep runtime accounts) (CreatedIsCounted runtime accounts)
    (LeadBatch.start store) (leads.map ReplayedLead.called)
  replayed : ∀ stored,
    stored = (ingestMetaLeadgenChanges runtime accounts store (leads.map ReplayedLead.called)).1 →
      Runs.Meets (replayStep runtime accounts) (CreatesNoSecond runtime accounts stored)
        (LeadBatch.start stored) leads

/-! The condition under which none is. -/

def NewIsRecorded (batch : LeadBatch) (lead : MetaLeadgenChange × LeadOutcomes) : Prop :=
  batch.thrown = false → ∀ key, storedUnder runtime accounts lead = some key →
    batch.contact? key = none → lead.2.record.isOk = true

/-- A lead with a blank id, whose contact is stored, is not replayed under a key that is free:
a blank id leaves the key to the form that was fetched. -/
def BlankKeepsKey (store : LeadStore) (batch : LeadBatch) (lead : ReplayedLead) : Prop :=
  batch.thrown = false → trimmed (some lead.change.leadgenId) = "" →
    HasContact runtime accounts store lead.called →
    ∀ key, storedUnder runtime accounts lead.replayed = some key → (batch.contact? key).isSome = true

structure Recoverable (store : LeadStore) (leads : List ReplayedLead) : Prop where
  handled : ∀ lead ∈ leads, Handled accounts lead.called
  recorded : Runs.Meets (leadStep runtime accounts) (NewIsRecorded runtime accounts)
    (LeadBatch.start store) (leads.map ReplayedLead.called)
  blank : ∀ stored,
    stored = (ingestMetaLeadgenChanges runtime accounts store (leads.map ReplayedLead.called)).1 →
      Runs.Meets (replayStep runtime accounts) (BlankKeepsKey runtime accounts stored)
        (LeadBatch.start stored) leads

end replay

section exact

variable {runtime : LeadRuntime} {accounts : List MetaLeadAccount} {batch : LeadBatch}

theorem createdIsCounted_iff {lead : MetaLeadgenChange × LeadOutcomes} :
    CreatedIsCounted runtime accounts batch lead ↔ NewIsRecorded runtime accounts batch lead := by
  cases running : batch.thrown with
  | true =>
    constructor
    · intro _ unthrown
      rw [running] at unthrown
      cases unthrown
    · intro _ created
      exact absurd created (not_created_thrown running)
  | false =>
    unfold CreatedIsCounted NewIsRecorded
    rw [created_iff running, ingest_ingested running]
    constructor
    · intro counted _ key stored absent
      obtain ⟨_, _, _, recorded⟩ := counted ⟨key, stored, absent⟩
      exact recorded
    · intro recorded ⟨key, stored, absent⟩
      exact ⟨key, stored, absent, recorded running key stored absent⟩

theorem storedUnder_eq {change : MetaLeadgenChange} {first second : LeadOutcomes}
    {key other : String × String} (named : trimmed (some change.leadgenId) ≠ "")
    (stored : storedUnder runtime accounts (change, first) = some key)
    (again : storedUnder runtime accounts (change, second) = some other) : key = other := by
  have byId : ∀ {outcomes : LeadOutcomes} {account : MetaLeadAccount} {found : String × String},
      keyOf runtime account change outcomes = some found →
        found = (account.tenantId, runtime.sha256 (BusinessProvider.metaPlatforms.value ++ "|" ++
          BusinessContactSource.facebook.value ++ "|" ++ trimmed (some change.leadgenId))) := by
    intro outcomes account found same
    unfold keyOf at same
    split at same
    next =>
      cases same
      unfold contactKey BusinessContactInput.dedupeSeed businessContactDedupeSeed normalizeMetaLead
      dsimp only
      rw [if_neg named]
    next => cases same
  unfold storedUnder at stored again
  cases page : accountOfPage accounts change.pageId with
  | none =>
    rw [page] at stored
    cases stored
  | some account =>
    rw [page, Option.bind_some] at stored again
    rw [byId stored, byId again]

def Stores (store : LeadStore) (batch : LeadBatch) : Prop :=
  ∀ key, (store.contacts.find? key).isSome = true → (batch.contact? key).isSome = true

theorem createsNoSecond_iff {store : LeadStore} {lead : ReplayedLead}
    (kept : Stores store batch) :
    CreatesNoSecond runtime accounts store batch lead ↔
      BlankKeepsKey runtime accounts store batch lead := by
  unfold CreatesNoSecond BlankKeepsKey replayStep
  cases running : batch.thrown with
  | true =>
    constructor
    · intro _ unthrown
      cases unthrown
    · intro _ _
      exact not_created_thrown running
  | false =>
    rw [created_iff running]
    constructor
    · intro single _ _ stored key again
      by_contra absent
      exact single stored ⟨key, again, by simpa using absent⟩
    · intro blank stored ⟨key, again, absent⟩
      by_cases named : trimmed (some lead.change.leadgenId) = ""
      · have present := blank rfl named stored key again
        rw [absent] at present
        cases present
      · obtain ⟨first, underFirst, found⟩ := stored
        have present := kept first found
        rw [storedUnder_eq named underFirst again, absent] at present
        cases present

variable (runtime accounts)

theorem run_counted (leads : List (MetaLeadgenChange × LeadOutcomes)) (running : batch.thrown = false) :
    ((Runs.run (leadStep runtime accounts) batch leads).thrown = false ↔
      ∀ lead ∈ leads, Handled accounts lead) ∧
    ((Runs.run (leadStep runtime accounts) batch leads).thrown = false →
      (Runs.run (leadStep runtime accounts) batch leads).result.total =
        batch.result.total + leads.length) := by
  induction leads generalizing batch with
  | nil =>
    refine ⟨iff_of_true running ?_, fun _ => rfl⟩
    intro lead member
    cases member
  | cons lead rest ih =>
    rw [Runs.run_cons]
    cases after : (batch.ingest runtime accounts lead).thrown with
    | false =>
      obtain ⟨handledRest, totalRest⟩ := ih after
      have handled := (ingest_escapes runtime accounts lead running).mp after
      refine ⟨handledRest.trans ?_, ?_⟩
      · rw [List.forall_mem_cons]
        exact ⟨fun later => ⟨handled, later⟩, And.right⟩
      · intro ended
        rw [totalRest ended, ingest_total after, List.length_cons]
        omega
    | true =>
      have stopped : Runs.run (leadStep runtime accounts) (batch.ingest runtime accounts lead) rest
          = batch.ingest runtime accounts lead := by
        clear ih
        induction rest with
        | nil => rfl
        | cons other rest ih =>
          rw [Runs.run_cons]
          dsimp only [leadStep]
          rw [ingest_thrown after]
          exact ih
      rw [stopped, after]
      refine ⟨iff_of_false (Bool.noConfusion ·) ?_, (Bool.noConfusion ·)⟩
      intro handled
      have unthrown := (ingest_escapes runtime accounts lead running).mpr
        (handled lead List.mem_cons_self)
      rw [unthrown] at after
      cases after

theorem returns_iff (store : LeadStore) (leads : List (MetaLeadgenChange × LeadOutcomes)) :
    (∃ result, (ingestMetaLeadgenChanges runtime accounts store leads).2 = some result ∧
        result.total = leads.length) ↔
      ∀ lead ∈ leads, Handled accounts lead := by
  obtain ⟨ended, total⟩ := run_counted runtime accounts leads
    (show (LeadBatch.start store).thrown = false from rfl)
  rw [← ended]
  unfold ingestMetaLeadgenChanges
  dsimp only
  constructor
  · intro ⟨result, returned, _⟩
    split at returned
    next => cases returned
    next unthrown => exact Bool.eq_false_iff.mpr unthrown
  · intro unthrown
    refine ⟨_, if_neg (Bool.eq_false_iff.mp unthrown), ?_⟩
    have counted := total unthrown
    rw [counted]
    exact Nat.zero_add _

end exact

/-- No lead is lost exactly if no change ends the call, every new contact has its event
recorded, and no lead with a blank id moves to another key in the replay. -/
theorem noLeadLost_iff (runtime : LeadRuntime) (accounts : List MetaLeadAccount)
    (store : LeadStore) (leads : List ReplayedLead) :
    NoLeadLost runtime accounts store leads ↔ Recoverable runtime accounts store leads := by
  have returns := returns_iff runtime accounts store (leads.map ReplayedLead.called)
  rw [List.length_map, List.forall_mem_map] at returns
  have counted : Runs.Meets (leadStep runtime accounts) (CreatedIsCounted runtime accounts)
        (LeadBatch.start store) (leads.map ReplayedLead.called) ↔
      Runs.Meets (leadStep runtime accounts) (NewIsRecorded runtime accounts)
        (LeadBatch.start store) (leads.map ReplayedLead.called) :=
    Runs.meets_congr (fun (_ : True) => trivial) (fun _ => createdIsCounted_iff) trivial
  have replayed : ∀ stored : LeadStore,
      Runs.Meets (replayStep runtime accounts) (CreatesNoSecond runtime accounts stored)
          (LeadBatch.start stored) leads ↔
        Runs.Meets (replayStep runtime accounts) (BlankKeepsKey runtime accounts stored)
          (LeadBatch.start stored) leads := by
    intro stored
    have start : Stores stored (LeadBatch.start stored) := fun key found => found
    refine Runs.meets_congr ?_ ?_ start
    · intro batch lead kept key found
      exact ingest_keeps (kept key found)
    · intro batch lead kept
      exact createsNoSecond_iff kept
  constructor
  · intro kept
    exact ⟨returns.mp kept.returns, counted.mp kept.counted,
      fun stored same => (replayed stored).mp (kept.replayed stored same)⟩
  · intro recoverable
    exact ⟨returns.mpr recoverable.handled, counted.mpr recoverable.recorded,
      fun stored same => (replayed stored).mpr (recoverable.blank stored same)⟩

def plainRuntime : LeadRuntime := ⟨fun text => text, fun text => text, fun _ => none⟩

/-- The credential cannot be decrypted, and the database is down when that is recorded. -/
def undecryptedLead : ReplayedLead where
  change := ⟨"page", "lead", none, none, none⟩
  call := ⟨.error .vaultDecrypt, .error .other, .ok none, .ok (), .ok (), .error .other, "c", 0⟩
  replay := ⟨.error .vaultDecrypt, .error .other, .ok none, .ok (), .ok (), .ok (), "d", 1⟩

/-- The failure of one lead ends the call. -/
theorem handler_failure_ends_call :
    ¬∀ (runtime : LeadRuntime) (accounts : List MetaLeadAccount) (store : LeadStore)
      (leads : List ReplayedLead), NoLeadLost runtime accounts store leads := by
  intro claim
  obtain ⟨result, returned, _⟩ :=
    (claim plainRuntime [⟨"a", "t", "page"⟩] ⟨.empty, []⟩ [undecryptedLead]).returns
  cases returned

end Tamanor.Sync
