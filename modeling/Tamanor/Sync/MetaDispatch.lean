import Tamanor.Library.Runs
import Tamanor.Sync.ReadOnlySync

/-! The dispatcher of the Meta syncs (`selectMetaSyncBatch`). A tick asks the database for the
candidates, which come in an order of its own, and takes a bounded batch of them. -/

set_option autoImplicit false

namespace Tamanor.Sync

open Tamanor.Core Library

/-- A connected account, and what the discovery reads of its tenant. -/
structure DispatchAccount extends SyncAccount where
  tenantId : String
  monitoringEnabled : Bool
  tenantActive : Bool

inductive DataMode where
  | real | demo

def dispatchStatuses : DataMode → List ConnectorStatus
  | .real => [.active]
  | .demo => [.active, .mockConnected]

structure MetaSyncCandidate where
  id : String
  tenantId : String
  platform : Platform
  nextRetryAt : Option Int
deriving DecidableEq

def DispatchAccount.isCandidate (statuses : List ConnectorStatus) (row : DispatchAccount) : Bool :=
  [Platform.facebookPage, .instagramBusiness].contains row.platform &&
    statuses.contains row.status && row.monitoringEnabled && row.tenantActive

def DispatchAccount.candidate (id : String) (row : DispatchAccount) : MetaSyncCandidate where
  id := id
  tenantId := row.tenantId
  platform := row.platform
  nextRetryAt := row.nextRetryAt

def findMetaSyncCandidates (statuses : List ConnectorStatus)
    (accounts : Table String DispatchAccount) : List MetaSyncCandidate :=
  (accounts.rows.filter fun row => row.2.isCandidate statuses).map fun row => row.2.candidate row.1

structure SyncBatchTarget where
  accountId : String
  tenantId : String
  platform : Platform

def MetaSyncCandidate.isDue (now : Int) (candidate : MetaSyncCandidate) : Bool :=
  candidate.nextRetryAt.all (· ≤ now)

def busyAccounts (leases : Table String Lease) (now : Int) : List String :=
  (leases.rows.filter fun row => now < row.2.expiresAt).map Prod.fst

def dispatchable (now : Int) (leases : Table String Lease) (all : List MetaSyncCandidate) :
    List MetaSyncCandidate :=
  (all.filter (·.isDue now)).filter fun candidate =>
    !(busyAccounts leases now).contains candidate.id

def selectMetaSyncBatch (limit : Nat) (now : Int) (leases : Table String Lease)
    (all : List MetaSyncCandidate) : List SyncBatchTarget :=
  ((dispatchable now leases all).take limit).map fun candidate =>
    ⟨candidate.id, candidate.tenantId, candidate.platform⟩

/-- What a tick meets: the two answers of the database, and the syncs of the accounts that it
selects, which run before the next tick. -/
structure DispatchTick where
  now : Int
  answer : List MetaSyncCandidate
  leases : Table String Lease
  syncs : String → SyncEnv

namespace DispatchTick

variable (tick : DispatchTick) (limit : Nat)

def batch : List SyncBatchTarget := selectMetaSyncBatch limit tick.now tick.leases tick.answer

def eligible : List String :=
  (dispatchable tick.now tick.leases tick.answer).map MetaSyncCandidate.id

def ahead (accountId : String) : Nat := tick.eligible.idxOf accountId

def record (accountId : String) (row : DispatchAccount) : SyncRecord :=
  runReadOnlySync (tick.syncs accountId) row.toSyncAccount

def syncAccount (accounts : Table String DispatchAccount) (target : SyncBatchTarget) :
    Table String DispatchAccount :=
  accounts.modify target.accountId fun row =>
    { row with toSyncAccount := (tick.record target.accountId row).account }

def Answered (dataMode : DataMode) (accounts : Table String DispatchAccount)
    (tick : DispatchTick) : Prop :=
  tick.answer.Perm (findMetaSyncCandidates (dispatchStatuses dataMode) accounts)

instance (dataMode : DataMode) (accounts : Table String DispatchAccount) :
    Decidable (tick.Answered dataMode accounts) :=
  inferInstanceAs (Decidable (List.Perm _ _))

/-- The tick finds the accounts of a fixed set eligible, and syncs those that it selects. -/
structure Serves (limit : Nat) (fixed : List String) (accounts : Table String DispatchAccount)
    (tick : DispatchTick) : Prop where
  eligible : tick.eligible.Perm fixed
  synced : ∀ target ∈ tick.batch limit, ∀ row, accounts.find? target.accountId = some row →
    (tick.record target.accountId row).verdict = .success

/-- No account is selected whose next retry lies in the future or that has a live lease. -/
def KeepsBack (limit : Nat) (accounts : Table String DispatchAccount) (tick : DispatchTick) :
    Prop :=
  ∀ target ∈ tick.batch limit, ∀ row, accounts.find? target.accountId = some row →
    (∀ time, row.nextRetryAt = some time → time ≤ tick.now) ∧
      ∀ lease, tick.leases.find? target.accountId = some lease → lease.expiresAt ≤ tick.now

end DispatchTick

def dispatchStep (limit : Nat) (accounts : Table String DispatchAccount) (tick : DispatchTick) :
    Table String DispatchAccount :=
  (tick.batch limit).foldl tick.syncAccount accounts

/-- Ticks that have room for all accounts of the set select each of them. -/
def CoversAll (limit : Nat) (fixed : List String) (ticks : List DispatchTick) : Prop :=
  fixed.length ≤ ticks.length * limit →
    ∀ accountId ∈ fixed, ∃ tick ∈ ticks,
      accountId ∈ (tick.batch limit).map SyncBatchTarget.accountId

variable {limit : Nat} {fixed : List String} {dataMode : DataMode}
  {accounts : Table String DispatchAccount} {tick : DispatchTick} {ticks : List DispatchTick}

theorem map_batch : (tick.batch limit).map SyncBatchTarget.accountId = tick.eligible.take limit := by
  unfold DispatchTick.batch selectMetaSyncBatch DispatchTick.eligible
  rw [List.map_map, List.map_take]
  rfl

variable {accountId : String}

theorem mem_batch_iff (eligible : accountId ∈ tick.eligible) :
    accountId ∈ (tick.batch limit).map SyncBatchTarget.accountId ↔ tick.ahead accountId < limit := by
  rw [map_batch]
  exact List.mem_take_iff_idxOf_lt eligible

theorem mem_busyAccounts {leases : Table String Lease} {now : Int} {lease : Lease}
    (held : leases.find? accountId = some lease) (live : now < lease.expiresAt) :
    accountId ∈ busyAccounts leases now := by
  apply List.mem_map.mpr
  refine ⟨(accountId, lease), ?_, rfl⟩
  exact List.mem_filter.mpr ⟨Table.find?_eq_some_iff.mp held, by simpa using live⟩

theorem keepsBack (answered : tick.Answered dataMode accounts) : tick.KeepsBack limit accounts := by
  intro target selected row found
  obtain ⟨candidate, taken, rfl⟩ := List.mem_map.mp selected
  obtain ⟨due, idle⟩ := List.mem_filter.mp (List.mem_of_mem_take taken)
  obtain ⟨listed, due⟩ := List.mem_filter.mp due
  obtain ⟨⟨id, stored⟩, member, rfl⟩ := List.mem_map.mp (answered.mem_iff.mp listed)
  have same : stored = row := by
    have here := Table.find?_eq_some_iff.mpr (List.mem_of_mem_filter member)
    dsimp only [DispatchAccount.candidate] at found
    rw [found] at here
    exact (Option.some.inj here).symm
  subst same
  constructor
  · intro time retry
    have later : stored.nextRetryAt.all (· ≤ tick.now) = true := due
    rw [retry] at later
    simpa using later
  · intro lease held
    by_contra live
    have busy := mem_busyAccounts held (not_le.mp live)
    rw [Bool.not_eq_true', List.contains_eq_mem, decide_eq_false_iff_not] at idle
    exact idle busy

theorem runReadOnlySync_of_success {env : SyncEnv} {account : SyncAccount}
    (succeeded : (runReadOnlySync env account).verdict = .success) :
    ∃ fetched, (runReadOnlySync env account).account = account.afterRead fetched .success env.now := by
  unfold runReadOnlySync at succeeded ⊢
  split at succeeded
  next => cases succeeded
  next =>
    split at succeeded
    next => cases succeeded
    next held =>
      split at succeeded
      next => cases succeeded
      next live =>
        rw [if_neg held, if_neg live]
        cases answer : fetchContent env account with
        | error err =>
          rw [answer] at succeeded
          dsimp only at succeeded
          split at succeeded
          next => cases succeeded
          next => cases succeeded
        | ok fetched =>
          rw [answer] at succeeded
          dsimp only at succeeded ⊢
          split at succeeded
          next => cases succeeded
          next owned =>
            rw [if_neg owned]
            dsimp only at succeeded ⊢
            rw [succeeded]
            exact ⟨fetched, rfl⟩

theorem isCandidate_of_success {row : DispatchAccount} {statuses : List ConnectorStatus}
    (succeeded : (tick.record accountId row).verdict = .success) :
    { row with toSyncAccount := (tick.record accountId row).account }.isCandidate statuses =
        row.isCandidate statuses ∧
      (tick.record accountId row).account.nextRetryAt = none := by
  obtain ⟨fetched, after⟩ := runReadOnlySync_of_success succeeded
  unfold DispatchTick.record DispatchAccount.isCandidate
  rw [after]
  exact ⟨rfl, rfl⟩

structure Ready (dataMode : DataMode) (fixed : List String)
    (accounts : Table String DispatchAccount) : Prop where
  candidates : ∀ accountId, accountId ∈ fixed ↔
    ∃ row, accounts.find? accountId = some row ∧ row.isCandidate (dispatchStatuses dataMode) = true
  settled : ∀ accountId ∈ fixed, ∀ row, accounts.find? accountId = some row → row.nextRetryAt = none

/-- The database answers in some order, no fixed account is leased, and the syncs succeed. -/
structure DispatchTick.Succeeds (dataMode : DataMode) (limit : Nat) (fixed : List String)
    (accounts : Table String DispatchAccount) (tick : DispatchTick) : Prop where
  answered : tick.Answered dataMode accounts
  idle : ∀ accountId ∈ fixed, accountId ∉ busyAccounts tick.leases tick.now
  synced : ∀ target ∈ tick.batch limit, ∀ row, accounts.find? target.accountId = some row →
    (tick.record target.accountId row).verdict = .success

section Succeeds

variable {statuses : List ConnectorStatus}

theorem mem_findMetaSyncCandidates {candidate : MetaSyncCandidate} :
    candidate ∈ findMetaSyncCandidates statuses accounts ↔
      ∃ row, accounts.find? candidate.id = some row ∧ row.isCandidate statuses = true ∧
        row.candidate candidate.id = candidate := by
  unfold findMetaSyncCandidates
  constructor
  · intro listed
    obtain ⟨⟨accountId, row⟩, member, rfl⟩ := List.mem_map.mp listed
    obtain ⟨stored, passes⟩ := List.mem_filter.mp member
    exact ⟨row, Table.find?_eq_some_iff.mpr stored, passes, rfl⟩
  · intro ⟨row, found, passes, same⟩
    refine List.mem_map.mpr ⟨(candidate.id, row), List.mem_filter.mpr ⟨?_, passes⟩, same⟩
    exact Table.find?_eq_some_iff.mp found

theorem candidateIds_nodup :
    ((findMetaSyncCandidates statuses accounts).map MetaSyncCandidate.id).Nodup := by
  unfold findMetaSyncCandidates
  rw [List.map_map]
  exact accounts.unique.sublist (List.filter_sublist.map Prod.fst)

theorem answerIds_nodup (answered : tick.Answered dataMode accounts) :
    (tick.answer.map MetaSyncCandidate.id).Nodup :=
  (answered.map MetaSyncCandidate.id).nodup_iff.mpr candidateIds_nodup

theorem eligible_sublist : tick.eligible.Sublist (tick.answer.map MetaSyncCandidate.id) :=
  (List.filter_sublist.trans List.filter_sublist).map MetaSyncCandidate.id

theorem Ready.eligible (ready : Ready dataMode fixed accounts) (once : fixed.Nodup)
    (succeeds : tick.Succeeds dataMode limit fixed accounts) : tick.eligible.Perm fixed := by
  have nodup := (answerIds_nodup succeeds.answered).sublist eligible_sublist
  refine (List.perm_ext_iff_of_nodup nodup once).mpr ?_
  intro accountId
  rw [ready.candidates]
  constructor
  · intro member
    obtain ⟨candidate, kept, rfl⟩ := List.mem_map.mp member
    have listed := List.mem_of_mem_filter (List.mem_of_mem_filter kept)
    obtain ⟨row, found, passes, -⟩ :=
      mem_findMetaSyncCandidates.mp (succeeds.answered.mem_iff.mp listed)
    exact ⟨row, found, passes⟩
  · intro ⟨row, found, passes⟩
    have listed : row.candidate accountId ∈ tick.answer :=
      succeeds.answered.mem_iff.mpr (mem_findMetaSyncCandidates.mpr ⟨row, found, passes, rfl⟩)
    have member := (ready.candidates accountId).mpr ⟨row, found, passes⟩
    have due : (row.candidate accountId).isDue tick.now = true := by
      simp [MetaSyncCandidate.isDue, DispatchAccount.candidate,
        ready.settled accountId member row found]
    refine List.mem_map.mpr ⟨row.candidate accountId, ?_, rfl⟩
    refine List.mem_filter.mpr ⟨List.mem_filter.mpr ⟨listed, due⟩, ?_⟩
    rw [Bool.not_eq_true', List.contains_eq_mem, decide_eq_false_iff_not]
    exact succeeds.idle accountId member

theorem find?_syncAccounts {targets : List SyncBatchTarget}
    (once : (targets.map SyncBatchTarget.accountId).Nodup) (accountId : String) :
    (targets.foldl tick.syncAccount accounts).find? accountId =
      if accountId ∈ targets.map SyncBatchTarget.accountId then
        (accounts.find? accountId).map fun row =>
          { row with toSyncAccount := (tick.record accountId row).account }
      else accounts.find? accountId := by
  induction targets generalizing accounts with
  | nil => simp
  | cons target rest ih =>
    obtain ⟨absent, later⟩ := List.nodup_cons.mp once
    rw [List.foldl_cons, ih later, DispatchTick.syncAccount, Table.find?_modify]
    by_cases same : accountId = target.accountId
    · subst same
      simp [absent]
    · simp [same]

theorem batch_nodup (answered : tick.Answered dataMode accounts) :
    ((tick.batch limit).map SyncBatchTarget.accountId).Nodup := by
  rw [map_batch]
  exact (answerIds_nodup answered).sublist ((List.take_sublist _ _).trans eligible_sublist)

theorem Ready.step (ready : Ready dataMode fixed accounts)
    (succeeds : tick.Succeeds dataMode limit fixed accounts) :
    Ready dataMode fixed (dispatchStep limit accounts tick) := by
  have rows (accountId : String) := @find?_syncAccounts accounts tick (tick.batch limit)
    (batch_nodup succeeds.answered) accountId
  have kept (accountId : String) (row : DispatchAccount)
      (found : accounts.find? accountId = some row) :
      ∃ after, (dispatchStep limit accounts tick).find? accountId = some after ∧
        after.isCandidate (dispatchStatuses dataMode) =
          row.isCandidate (dispatchStatuses dataMode) ∧
        (row.nextRetryAt = none → after.nextRetryAt = none) := by
    unfold dispatchStep
    rw [rows accountId]
    split
    next selected =>
      obtain ⟨target, member, rfl⟩ := List.mem_map.mp selected
      have success := succeeds.synced target member row found
      obtain ⟨same, settled⟩ :=
        @isCandidate_of_success tick target.accountId row (dispatchStatuses dataMode) success
      rw [found]
      exact ⟨_, rfl, same, fun _ => settled⟩
    next => exact ⟨row, found, rfl, id⟩
  constructor
  · intro accountId
    rw [ready.candidates]
    constructor
    · intro ⟨row, found, passes⟩
      obtain ⟨after, stored, same, -⟩ := kept accountId row found
      exact ⟨after, stored, same.trans passes⟩
    · intro ⟨after, stored, passes⟩
      cases found : accounts.find? accountId with
      | none =>
        unfold dispatchStep at stored
        rw [rows accountId, found] at stored
        split at stored <;> cases stored
      | some row =>
        obtain ⟨other, here, same, -⟩ := kept accountId row found
        rw [stored] at here
        cases here
        exact ⟨row, rfl, same.symm.trans passes⟩
  · intro accountId member after stored
    obtain ⟨row, found, -⟩ := (ready.candidates accountId).mp member
    obtain ⟨other, here, -, settled⟩ := kept accountId row found
    rw [stored] at here
    cases here
    exact settled (ready.settled accountId member row found)

theorem serves_of_succeeds (once : fixed.Nodup) (ready : Ready dataMode fixed accounts)
    (succeeds : Runs.Meets (dispatchStep limit) (DispatchTick.Succeeds dataMode limit fixed)
      accounts ticks) :
    Runs.Meets (dispatchStep limit) (DispatchTick.Serves limit fixed) accounts ticks :=
  succeeds.of_invariant Ready.step
    (fun ready succeeds => ⟨ready.eligible once succeeds, succeeds.synced⟩) ready

end Succeeds

theorem eligible_of_serves
    (serves : Runs.Meets (dispatchStep limit) (DispatchTick.Serves limit fixed) accounts ticks) :
    ∀ tick ∈ ticks, tick.eligible.Perm fixed := by
  induction ticks generalizing accounts with
  | nil =>
    intro tick member
    cases member
  | cons first rest ih =>
    obtain ⟨here, later⟩ := serves
    intro tick member
    rcases List.mem_cons.mp member with rfl | member
    · exact here.eligible
    · exact ih later tick member

/-- The fixed accounts are all selected exactly if for each of them the answer of some tick puts
fewer than the limit ahead of it. No tick selects an account that has to wait. -/
theorem dispatcher_coverage
    (answered : Runs.Meets (dispatchStep limit) (DispatchTick.Answered dataMode) accounts ticks) :
    (Runs.Meets (dispatchStep limit) (DispatchTick.Serves limit fixed) accounts ticks →
      (CoversAll limit fixed ticks ↔
        (fixed.length ≤ ticks.length * limit →
          ∀ accountId ∈ fixed, ∃ tick ∈ ticks, tick.ahead accountId < limit))) ∧
      Runs.Meets (dispatchStep limit) (DispatchTick.KeepsBack limit) accounts ticks := by
  constructor
  · intro serves
    have eligible := eligible_of_serves serves
    have selected : ∀ accountId ∈ fixed, ∀ tick ∈ ticks,
        (accountId ∈ (tick.batch limit).map SyncBatchTarget.accountId ↔
          tick.ahead accountId < limit) :=
      fun accountId member tick ticked =>
        mem_batch_iff ((eligible tick ticked).mem_iff.mpr member)
    constructor
    · intro covers enough accountId member
      obtain ⟨tick, ticked, taken⟩ := covers enough accountId member
      exact ⟨tick, ticked, (selected accountId member tick ticked).mp taken⟩
    · intro stands enough accountId member
      obtain ⟨tick, ticked, near⟩ := stands enough accountId member
      exact ⟨tick, ticked, (selected accountId member tick ticked).mpr near⟩
  · induction ticks generalizing accounts with
    | nil => exact trivial
    | cons tick rest ih => exact ⟨keepsBack answered.1, ih answered.2⟩

/-! Accounts whose syncs always succeed. -/

def mockEnv (now : Int) : SyncEnv where
  now := now
  tenantActive := true
  gateReason := none
  leaseAcquired := true
  liveSync := false
  injected := false
  token := none
  transport := ⟨fun _ _ _ => .ok ⟨[], none⟩, fun _ _ _ => .ok ⟨[], none⟩⟩
  mockMetaFetch := []
  connectorRead := .error (.other "")
  ingest _ _ := .done .created
  leaseLostFrom := none
  leaseGoneOnError := false
  accountWritten := true

def mockAccount (lastSyncedAt : Option Int) : DispatchAccount where
  platform := .facebookPage
  mode := .placeholder
  status := .mockConnected
  health := .healthy
  externalId := "page"
  igBusinessId := none
  tokenExpiresAt := none
  contentPermissionState := none
  lastSyncedAt := lastSyncedAt
  lastSuccessfulSyncAt := lastSyncedAt
  lastCursor := none
  lastError := none
  lastErrorAt := none
  syncAttempts := 0
  nextRetryAt := none
  tenantId := "t"
  monitoringEnabled := true
  tenantActive := true

/-! Whatever order the database answers in. -/

def steadyTick (fixed : List String) : DispatchTick where
  now := 0
  answer := fixed.map (mockAccount none).candidate
  leases := .empty
  syncs := fun _ => mockEnv 0

theorem steadyTick_eligible (fixed : List String) : (steadyTick fixed).eligible = fixed := by
  have due : (fixed.map (mockAccount none).candidate).filter (·.isDue 0) =
      fixed.map (mockAccount none).candidate := by
    refine List.filter_eq_self.mpr ?_
    intro candidate listed
    obtain ⟨accountId, -, rfl⟩ := List.mem_map.mp listed
    rfl
  have idle : (fixed.map (mockAccount none).candidate).filter (fun candidate =>
      !(busyAccounts .empty 0).contains candidate.id) = fixed.map (mockAccount none).candidate :=
    List.filter_eq_self.mpr fun _ _ => rfl
  unfold DispatchTick.eligible dispatchable steadyTick
  dsimp only
  rw [due, idle, List.map_map]
  exact List.map_id fixed

theorem every_order_covers_iff (once : fixed.Nodup) (count : Nat) :
    (∀ ticks : List DispatchTick, ticks.length = count →
      (∀ tick ∈ ticks, tick.eligible.Perm fixed) → CoversAll limit fixed ticks) ↔
    fixed.length ≤ limit ∨ count * limit < fixed.length := by
  constructor
  · intro covers
    by_contra! crowded
    obtain ⟨more, enough⟩ := crowded
    have taken := covers (List.replicate count (steadyTick fixed)) List.length_replicate (by
      intro tick member
      rw [List.eq_of_mem_replicate member, steadyTick_eligible])
    have last : fixed[limit] ∈ fixed := List.getElem_mem more
    obtain ⟨tick, member, selected⟩ := taken (by rwa [List.length_replicate]) _ last
    obtain rfl := List.eq_of_mem_replicate member
    -- the answer puts exactly `limit` accounts ahead of this one
    rw [map_batch, steadyTick_eligible, List.mem_take_iff_idxOf_lt last, once.idxOf_getElem]
      at selected
    exact lt_irrefl _ selected
  · intro room ticks counted orders enough accountId member
    rw [counted] at enough
    have fits : fixed.length ≤ limit := room.resolve_right (not_lt.mpr enough)
    cases ticks with
    | nil =>
      have positive := List.length_pos_of_mem member
      rw [← counted, List.length_nil, Nat.zero_mul] at enough
      exact absurd enough (not_le.mpr positive)
    | cons tick rest =>
      have order := orders tick List.mem_cons_self
      refine ⟨tick, List.mem_cons_self, (mem_batch_iff (order.mem_iff.mpr member)).mpr ?_⟩
      have ahead := List.idxOf_lt_length_of_mem (order.mem_iff.mpr member)
      rw [order.length_eq] at ahead
      exact ahead.trans_le fits

theorem covers_of_succeeds (once : fixed.Nodup) (ready : Ready dataMode fixed accounts)
    (succeeds : Runs.Meets (dispatchStep limit) (DispatchTick.Succeeds dataMode limit fixed)
      accounts ticks) (fits : fixed.length ≤ limit) :
    CoversAll limit fixed ticks :=
  (every_order_covers_iff once ticks.length).mpr (.inl fits) ticks rfl
    (eligible_of_serves (serves_of_succeeds once ready succeeds))

def twoAccounts : Table String DispatchAccount :=
  ((Table.empty.insert "a" (mockAccount none)).insert "b" (mockAccount none))

def mockTick (now : Int) (order : List String) : DispatchTick where
  now := now
  answer := order.map fun accountId => (mockAccount none).candidate accountId
  leases := .empty
  syncs := fun _ => mockEnv now

/-- The answers put each account first once. -/
theorem dispatcher_coverage_of_turns :
    CoversAll 1 ["a", "b"] [mockTick 0 ["a", "b"], mockTick 1 ["b", "a"]] ∧
      Runs.Meets (dispatchStep 1) (DispatchTick.KeepsBack 1) twoAccounts
        [mockTick 0 ["a", "b"], mockTick 1 ["b", "a"]] := by
  have coverage := @dispatcher_coverage 1 ["a", "b"] .demo twoAccounts
    [mockTick 0 ["a", "b"], mockTick 1 ["b", "a"]] ⟨by decide, by decide, trivial⟩
  refine ⟨(coverage.1 ⟨⟨by decide, by decide⟩, ⟨by decide, by decide⟩, trivial⟩).mpr ?_, coverage.2⟩
  intro _
  decide

/-- The database gives the same order twice, and the second account is not selected. -/
theorem dispatcher_starves :
    Runs.Meets (dispatchStep 1) (DispatchTick.Answered .demo) twoAccounts
        [mockTick 0 ["a", "b"], mockTick 1 ["a", "b"]] ∧
      Runs.Meets (dispatchStep 1) (DispatchTick.Serves 1 ["a", "b"]) twoAccounts
        [mockTick 0 ["a", "b"], mockTick 1 ["a", "b"]] ∧
      ¬CoversAll 1 ["a", "b"] [mockTick 0 ["a", "b"], mockTick 1 ["a", "b"]] := by
  refine ⟨?_, ?_, ?_⟩
  · exact ⟨by decide, by decide, trivial⟩
  · exact ⟨⟨by decide, by decide⟩, ⟨by decide, by decide⟩, trivial⟩
  · intro covers
    obtain ⟨tick, ticked, taken⟩ := covers (by decide) "b" (by decide)
    revert tick
    decide

end Tamanor.Sync
