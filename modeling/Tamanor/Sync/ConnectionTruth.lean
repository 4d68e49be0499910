import Tamanor.Core.ConnectionState
import Tamanor.Sync.ReadOnlySyncProperties

/-! What a customer is shown of an account over a sequence of its syncs: the status that each
sync records of itself, and the state that is resolved from the row which it leaves. -/

set_option autoImplicit false

namespace Tamanor.Sync

open Tamanor.Core Library

inductive SyncRunStatus where
  | running | completed | failed | partialSuccess | skippedLocked | disconnected
  | permissionMissing | rateLimited | apiUnavailable | interrupted
deriving DecidableEq

def SyncError.runStatus : SyncError → SyncRunStatus
  | .reconnectRequired _ _ | .permissionRequired _ _ => .permissionMissing
  | .rateLimited _ _ => .rateLimited
  | .apiUnavailable _ _ => .apiUnavailable
  | .other _ => .failed

def SyncVerdict.runStatus : SyncVerdict → SyncRunStatus
  | .success => .completed
  | .partialSuccess => .partialSuccess
  | _ => .failed

/-- What `runReadOnlySync` writes into the row of its run, if it opens one. -/
def recordedStatus (env : SyncEnv) (account : SyncAccount) : Option SyncRunStatus :=
  match refusal env account with
  | some _ => none
  | none =>
    if !env.leaseAcquired then some .skippedLocked
    else if isRealConnection account.mode && !env.liveSync && !env.injected then none
    else
      match fetchContent env account with
      | .error err => some (if env.leaseGoneOnError then .interrupted else err.runStatus)
      | .ok fetched =>
        if env.leaseGone fetched.items.length || !env.accountWritten then some .interrupted
        else some (ingestItems env 0 fetched.items emptyTally).verdict.runStatus

def SyncRunStatus.succeeded : SyncRunStatus → Bool
  | .completed | .partialSuccess => true
  | _ => false

def SyncRunStatus.failing : SyncRunStatus → Bool
  | .failed | .rateLimited | .apiUnavailable | .permissionMissing => true
  | _ => false

def ConnectorStatus.column : ConnectorStatus → String
  | .pending => "pending"
  | .active => "active"
  | .mockConnected => "mock_connected"
  | .expired => "expired"
  | .disconnected => "disconnected"
  | .error => "error"

def ConnectorHealth.column : ConnectorHealth → String
  | .unknown => "unknown"
  | .healthy => "healthy"
  | .degraded => "degraded"
  | .error => "error"

structure ConnectionColumns where
  connectionStatus : String
  tokenHealth : String
  monitoringEnabled : Bool

def SyncAccount.connectionInput (account : SyncAccount) (columns : ConnectionColumns) :
    ConnectionStateInput where
  status := account.status.column
  mode := account.mode.value
  health := account.health.column
  connectionStatus := columns.connectionStatus
  tokenHealth := columns.tokenHealth
  tokenExpiresAt := account.tokenExpiresAt
  lastError := account.lastError
  lastSuccessfulSyncAt := account.lastSuccessfulSyncAt
  lastSyncedAt := account.lastSyncedAt
  monitoringEnabled := columns.monitoringEnabled

structure TokenHealthy (columns : ConnectionColumns) (account : SyncAccount) (now : Int) :
    Prop where
  connected : columns.connectionStatus ≠ "disconnected"
  connectionStatus : columns.connectionStatus ∉ reauthConnectionStatuses
  tokenHealth : columns.tokenHealth ∉ reauthTokenHealths
  unexpired : ∀ time ∈ account.tokenExpiresAt, now < time

def SyncAccount.looksHealthy (account : SyncAccount) : Bool :=
  account.status != .expired && account.lastError != some "token_expired" &&
    !(account.health == .error &&
      (account.lastSyncedAt.isSome || account.lastSuccessfulSyncAt.isSome)) &&
    account.health != .degraded && account.lastSuccessfulSyncAt.isSome

/-- A sync that gets the lease and holds it until its last write. -/
structure HeldSync where
  env : SyncEnv
  acquired : env.leaseAcquired = true
  kept : env.leaseLostFrom = none
  keptOnError : env.leaseGoneOnError = false
  written : env.accountWritten = true

structure AccountHistory where
  account : SyncAccount
  recorded : List SyncRunStatus

def AccountHistory.sync (history : AccountHistory) (held : HeldSync) : AccountHistory where
  account := (runReadOnlySync held.env history.account).account
  recorded := (recordedStatus held.env history.account).toList ++ history.recorded

def AccountHistory.sinceSuccess (history : AccountHistory) : List SyncRunStatus :=
  history.recorded.takeWhile fun status => !status.succeeded

structure ActiveMetaAccount (account : SyncAccount) : Prop where
  real : isRealConnection account.mode = true
  provider : syncProviderFor account.platform = .meta
  active : account.status = .active

/-- The state that is shown tells what the syncs have come to. -/
structure ConnectionTruthful (columns : ConnectionColumns) (initial : SyncAccount)
    (history : AccountHistory) : Prop where
  failing : ∀ now, TokenHealthy columns history.account now →
    (∃ status ∈ history.sinceSuccess, status.failing = true) →
    resolveConnectionState (history.account.connectionInput columns) now ≠ .connectedHealthy
  reauth : ∀ now, TokenHealthy columns history.account now →
    .permissionMissing ∈ history.sinceSuccess →
    resolveConnectionState (history.account.connectionInput columns) now = .reauthRequired
  completed : ∀ now, TokenHealthy columns history.account now →
    history.recorded.head? = some .completed →
    resolveConnectionState (history.account.connectionInput columns) now = .connectedHealthy
  firstSync : initial.lastSuccessfulSyncAt = none →
    (∀ status ∈ history.recorded, status.succeeded = false) → .failed ∈ history.recorded →
    deriveFirstSyncState history.account.lastSuccessfulSyncAt history.account.syncAttempts false =
      .failed

/-- A sync that completes does not find the connection expired, and one of which every item
fails finds an account that does not look healthy and has failed or succeeded before. -/
def AccountHistory.undeceived (history : AccountHistory) (held : HeldSync) : Bool :=
  match recordedStatus held.env history.account, fetchContent held.env history.account with
  | some .completed, _ => history.account.status != .expired
  | some .failed, .ok _ =>
    !history.account.looksHealthy &&
      (decide (0 < history.account.syncAttempts) ||
        history.account.lastSuccessfulSyncAt.isSome)
  | _, _ => true

variable {columns : ConnectionColumns} {account initial : SyncAccount} {history : AccountHistory}
  {held : HeldSync}

theorem connected_of_column {status : ConnectorStatus} (column : status.column = "disconnected") :
    status = .disconnected := by
  cases status <;> first | rfl | (revert column; decide)

theorem expired_column_iff {status : ConnectorStatus} :
    status.column = "expired" ↔ status = .expired := by
  cases status <;> decide

theorem health_column_iff {health : ConnectorHealth} :
    (health.column = "error" ↔ health = .error) ∧
      (health.column = "degraded" ↔ health = .degraded) := by
  cases health <;> decide

theorem connectedHealthy_iff {now : Int} (token : TokenHealthy columns account now)
    (connected : account.status ≠ .disconnected) :
    resolveConnectionState (account.connectionInput columns) now = .connectedHealthy ↔
      account.looksHealthy = true := by
  have notDisconnected :
      ¬(account.status.column = "disconnected" ∨ columns.connectionStatus = "disconnected") := by
    rintro (column | column)
    · exact connected (connected_of_column column)
    · exact token.connected column
  have unexpired : ¬∃ time ∈ account.tokenExpiresAt, time ≤ now := by
    rintro ⟨time, isTime, past⟩
    exact absurd (token.unexpired time isTime) (by omega)
  unfold resolveConnectionState SyncAccount.connectionInput SyncAccount.looksHealthy
  dsimp only
  rw [if_neg notDisconnected]
  simp only [token.connectionStatus, token.tokenHealth, unexpired, false_or, expired_column_iff,
    health_column_iff.1, health_column_iff.2]
  cases succeeded : account.lastSuccessfulSyncAt with
  | none =>
    simp only [Option.isSome_none, Bool.and_false, Bool.false_eq_true, iff_false]
    split_ifs <;> simp_all
  | some time =>
    split_ifs with reauth failed degraded
    · rcases reauth with expired | error
      · simp [expired]
      · simp [error]
    · simp [failed.1]
    · simp [degraded]
    · simp_all
    · simp_all

theorem reauthRequired_of_expired {now : Int} (token : TokenHealthy columns account now)
    (expired : account.status = .expired) :
    resolveConnectionState (account.connectionInput columns) now = .reauthRequired := by
  have connected :
      ¬(account.status.column = "disconnected" ∨ columns.connectionStatus = "disconnected") := by
    rw [expired]
    rintro (column | column)
    · exact absurd column (by decide)
    · exact token.connected column
  unfold resolveConnectionState SyncAccount.connectionInput
  dsimp only
  rw [if_neg connected, if_pos (.inl (expired_column_iff.mpr expired))]

/-- A sync that holds the lease is refused before it opens a run, or records what its read or
its items have come to. -/
theorem sync_cases (history : AccountHistory) (held : HeldSync) :
    history.sync held = history ∨
      (∃ err, fetchContent held.env history.account = .error err ∧
        recordedStatus held.env history.account = some err.runStatus ∧
        history.sync held =
          ⟨history.account.afterError err held.env.now, err.runStatus :: history.recorded⟩) ∨
      ∃ fetched verdict, fetchContent held.env history.account = .ok fetched ∧
        recordedStatus held.env history.account = some (SyncVerdict.runStatus verdict) ∧
        history.sync held =
          ⟨history.account.afterRead fetched verdict held.env.now,
            verdict.runStatus :: history.recorded⟩ ∧
        (verdict = .success ∨ verdict = .partialSuccess ∨ verdict = .failed) := by
  unfold AccountHistory.sync runReadOnlySync recordedStatus
  cases refused : refusal held.env history.account with
  | some message => exact .inl rfl
  | none =>
    simp only [held.acquired, held.keptOnError, held.written, Bool.not_true,
      Bool.false_eq_true, if_false, if_true]
    split
    next => exact .inl rfl
    next =>
      cases answer : fetchContent held.env history.account with
      | error err => exact .inr (.inl ⟨err, rfl, rfl, rfl⟩)
      | ok fetched =>
        have kept : held.env.leaseGone fetched.items.length = false := by
          unfold SyncEnv.leaseGone
          rw [held.kept]
          rfl
        simp only [kept, Bool.or_self, Bool.false_eq_true, if_false]
        refine .inr (.inr ⟨fetched, _, rfl, rfl, rfl, ?_⟩)
        unfold Tally.verdict
        split_ifs
        · exact .inl rfl
        · exact .inr (.inl rfl)
        · exact .inr (.inr rfl)

structure HistoryKept (initial : SyncAccount) (history : AccountHistory) : Prop where
  connected : history.account.status ≠ .disconnected
  failing : (∃ status ∈ history.sinceSuccess, status.failing = true) →
    history.account.looksHealthy = false
  reauth : .permissionMissing ∈ history.sinceSuccess → history.account.status = .expired
  completed : history.recorded.head? = some .completed → history.account.looksHealthy = true
  unsynced : initial.lastSuccessfulSyncAt = none →
    (∀ status ∈ history.recorded, status.succeeded = false) →
    history.account.lastSuccessfulSyncAt = none ∧
      (.failed ∈ history.recorded → 0 < history.account.syncAttempts)

theorem HistoryKept.truthful (kept : HistoryKept initial history) :
    ConnectionTruthful columns initial history where
  failing := by
    intro now token failed
    rw [Ne, connectedHealthy_iff token kept.connected, kept.failing failed]
    exact Bool.false_ne_true
  reauth := fun now token missing => reauthRequired_of_expired token (kept.reauth missing)
  completed := fun now token last =>
    (connectedHealthy_iff token kept.connected).mpr (kept.completed last)
  firstSync := by
    intro never noSuccess failed
    obtain ⟨unsynced, attempted⟩ := kept.unsynced never noSuccess
    unfold deriveFirstSyncState
    rw [unsynced, if_neg (by decide), if_neg (by decide), if_pos (attempted failed)]

theorem sinceSuccess_cons {status : SyncRunStatus} {recorded : List SyncRunStatus} :
    AccountHistory.sinceSuccess ⟨account, status :: recorded⟩ =
      if status.succeeded then [] else status :: AccountHistory.sinceSuccess ⟨account, recorded⟩ := by
  unfold AccountHistory.sinceSuccess
  rw [List.takeWhile_cons]
  cases status.succeeded <;> rfl

theorem runStatus_of_error (err : SyncError) :
    err.runStatus.succeeded = false ∧ err.runStatus ≠ .completed ∧
      (err.runStatus = .permissionMissing → err.needsReconnect = true) := by
  cases err <;> refine ⟨rfl, ?_, ?_⟩ <;> intro same <;> first | rfl | cases same

theorem afterError_unhealthy (account : SyncAccount) (err : SyncError) (now : Int) :
    (account.afterError err now).looksHealthy = false := by
  unfold SyncAccount.looksHealthy SyncAccount.afterError
  cases err <;> simp [SyncError.needsReconnect, SyncError.retryLater]

theorem HistoryKept.afterError (kept : HistoryKept initial history) (err : SyncError) (now : Int) :
    HistoryKept initial
      ⟨history.account.afterError err now, err.runStatus :: history.recorded⟩ := by
  obtain ⟨unsuccessful, notCompleted, reconnects⟩ := runStatus_of_error err
  constructor
  · unfold SyncAccount.afterError
    dsimp only
    split
    · decide
    · exact kept.connected
  · exact fun _ => afterError_unhealthy _ err now
  · intro missing
    rw [sinceSuccess_cons, unsuccessful, if_neg Bool.false_ne_true] at missing
    unfold SyncAccount.afterError
    dsimp only
    rcases List.mem_cons.mp missing with now | before
    · rw [if_pos (reconnects now.symm)]
    · split
      · rfl
      · exact kept.reauth before
  · intro last
    exact absurd (Option.some.inj last) notCompleted
  · intro never noSuccess
    obtain ⟨unsynced, _⟩ :=
      kept.unsynced never fun status member => noSuccess status (List.mem_cons_of_mem _ member)
    exact ⟨unsynced, fun _ => Nat.succ_pos _⟩

theorem HistoryKept.afterSuccess (kept : HistoryKept initial history) (fetched : FetchResult)
    {verdict : SyncVerdict} (now : Int) (succeeded : verdict.runStatus.succeeded = true)
    (unexpired : verdict = .success → history.account.status ≠ .expired) :
    HistoryKept initial
      ⟨history.account.afterRead fetched verdict now, verdict.runStatus :: history.recorded⟩ := by
  have notFailed : verdict ≠ .failed := by
    rintro rfl
    cases succeeded
  unfold SyncAccount.afterRead
  rw [if_neg notFailed]
  constructor
  · exact kept.connected
  · rintro ⟨status, member, _⟩
    rw [sinceSuccess_cons, succeeded, if_pos rfl] at member
    cases member
  · intro member
    rw [sinceSuccess_cons, succeeded, if_pos rfl] at member
    cases member
  · intro last
    have completed : verdict = .success := by
      cases verdict <;> first | rfl | (cases Option.some.inj last)
    unfold SyncAccount.looksHealthy
    simp [unexpired completed]
  · intro never noSuccess
    have refuted := noSuccess verdict.runStatus List.mem_cons_self
    rw [succeeded] at refuted
    cases refuted

theorem HistoryKept.afterFailedItems (kept : HistoryKept initial history) (fetched : FetchResult)
    (now : Int) (unhealthy : history.account.looksHealthy = false)
    (known : history.account.lastSuccessfulSyncAt = none → 0 < history.account.syncAttempts) :
    HistoryKept initial
      ⟨history.account.afterRead fetched .failed now, .failed :: history.recorded⟩ := by
  unfold SyncAccount.afterRead
  rw [if_pos rfl]
  constructor
  · exact kept.connected
  · intro _
    revert unhealthy
    unfold SyncAccount.looksHealthy
    cases history.account.lastSuccessfulSyncAt <;> simp +contextual
  · intro missing
    rw [sinceSuccess_cons] at missing
    rcases List.mem_cons.mp missing with now | before
    · cases now
    · exact kept.reauth before
  · intro last
    cases Option.some.inj last
  · intro never noSuccess
    obtain ⟨unsynced, _⟩ :=
      kept.unsynced never fun status member => noSuccess status (List.mem_cons_of_mem _ member)
    exact ⟨unsynced, fun _ => known unsynced⟩

theorem HistoryKept.sync (kept : HistoryKept initial history)
    (undeceived : history.undeceived held = true) :
    HistoryKept initial (history.sync held) := by
  rcases sync_cases history held with same | ⟨err, _, _, becomes⟩ |
    ⟨fetched, verdict, fetches, records, becomes, success | partly | failed⟩
  · rw [same]
    exact kept
  · rw [becomes]
    exact kept.afterError err _
  · rw [becomes]
    subst success
    refine kept.afterSuccess fetched _ rfl fun _ => ?_
    unfold AccountHistory.undeceived at undeceived
    rw [records] at undeceived
    exact bne_iff_ne.mp undeceived
  · rw [becomes]
    subst partly
    exact kept.afterSuccess fetched _ rfl fun isSuccess => by cases isSuccess
  · rw [becomes]
    subst failed
    unfold AccountHistory.undeceived at undeceived
    rw [records, fetches] at undeceived
    obtain ⟨unhealthy, known⟩ := Bool.and_eq_true_iff.mp undeceived
    refine kept.afterFailedItems fetched _ ?_ fun unsynced => ?_
    · exact Bool.not_eq_true' _ |>.mp unhealthy
    · rw [unsynced, Option.isSome_none, Bool.or_false, decide_eq_true_iff] at known
      exact known

/-- In every sequence of syncs of which none completes on an expired connection, and none fails
with all its items on an account that looks healthy or unattempted, the state that is shown tells
after each sync what the syncs have come to. -/
theorem connectionTruthful_of_undeceived (columns : ConnectionColumns) (account : SyncAccount)
    (syncs : List HeldSync) (activeMeta : ActiveMetaAccount account)
    (undeceived : Runs.Meets AccountHistory.sync
      (fun history held => history.undeceived held = true) ⟨account, []⟩ syncs) :
    ∀ reached ∈ Runs.states AccountHistory.sync ⟨account, []⟩ syncs,
      ConnectionTruthful columns account reached := by
  intro reached member
  have initial : HistoryKept account ⟨account, []⟩ := by
    constructor
    · rw [activeMeta.active]
      decide
    · rintro ⟨status, absent, _⟩
      cases absent
    · intro absent
      cases absent
    · intro last
      cases last
    · exact fun never _ => ⟨never, fun absent => by cases absent⟩
  exact (Runs.invariant_states (fun kept allowed => HistoryKept.sync kept allowed) initial
    undeceived reached member).truthful

def connectedColumns : ConnectionColumns := ⟨"connected", "ok", true⟩

def oneCommentSync (answer : ItemAnswer) : HeldSync where
  env := { twoMediaEnv false [plainComment "a"] with ingest := fun _ _ => answer }
  acquired := rfl
  kept := rfl
  keptOnError := rfl
  written := rfl

def failingSync : HeldSync where
  env := { twoMediaEnv false [] with token := none }
  acquired := rfl
  kept := rfl
  keptOnError := rfl
  written := rfl

theorem freshInstagram_active : ActiveMetaAccount freshInstagram := ⟨rfl, rfl, rfl⟩

/-- An account is synced, and needs to be reconnected when its token is gone. -/
theorem connectionTruthful_of_reconnect :
    ConnectionTruthful connectedColumns freshInstagram
      (Runs.run AccountHistory.sync ⟨freshInstagram, []⟩
        [oneCommentSync (.done .created), failingSync, oneCommentSync .failed]) :=
  connectionTruthful_of_undeceived connectedColumns freshInstagram _ freshInstagram_active
    (by decide +kernel) _ (Runs.run_mem_states _)

/-- No comment of the second sync is ingested; it is recorded as failed, and the account is still
shown as connected. -/
theorem failedItems_stay_green :
    ¬∀ (columns : ConnectionColumns) (account : SyncAccount) (syncs : List HeldSync),
      ActiveMetaAccount account →
      ∀ reached ∈ Runs.states AccountHistory.sync ⟨account, []⟩ syncs,
        ConnectionTruthful columns account reached := by
  intro claim
  have truthful := claim connectedColumns freshInstagram
    [oneCommentSync (.done .created), oneCommentSync .failed] freshInstagram_active _
    (Runs.run_mem_states _)
  refine truthful.failing 0 ⟨by decide, by decide, by decide, ?_⟩ ⟨.failed, ?_, rfl⟩ ?_
  · intro time absent
    revert absent
    have none : (Runs.run AccountHistory.sync ⟨freshInstagram, []⟩
        [oneCommentSync (.done .created), oneCommentSync .failed]).account.tokenExpiresAt = none := by
      decide +kernel
    rw [none]
    intro absent
    cases absent
  · decide +kernel
  · decide +kernel

end Tamanor.Sync
