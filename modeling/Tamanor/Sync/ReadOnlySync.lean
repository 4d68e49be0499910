import Tamanor.Sync.InstagramContent
import Tamanor.Sync.LeaseFencing

/-! One read-only sync of an account (`runReadOnlySync` of the sync package): the checks
before the lease, the provider read, the ingest loop, and the write of the account that is
bound to the lease. The answers of the services are in the environment of the run. -/

set_option autoImplicit false

namespace Tamanor.Sync

open Tamanor.Core Library Library.Paging

inductive ConnectorMode where
  | placeholder | oauthReady | readOnly | actionDisabled
deriving DecidableEq

def ConnectorMode.value : ConnectorMode → String
  | .placeholder => "placeholder"
  | .oauthReady => "oauth_ready"
  | .readOnly => "read_only"
  | .actionDisabled => "action_disabled"

def modeAllowsSync (mode : ConnectorMode) : Bool := mode != .oauthReady

def isRealConnection (mode : ConnectorMode) : Bool :=
  mode == .readOnly || mode == .actionDisabled

inductive SyncProvider where
  | «meta» | googleBusiness | unknown
deriving DecidableEq

def syncProviderFor : Platform → SyncProvider
  | .facebookPage | .instagramBusiness => .meta
  | .googleBusiness => .googleBusiness
  | _ => .unknown

inductive ConnectorHealth where
  | unknown | healthy | degraded | error
deriving DecidableEq

structure SyncAccount where
  platform : Platform
  mode : ConnectorMode
  status : ConnectorStatus
  health : ConnectorHealth
  externalId : String
  igBusinessId : Option String
  tokenExpiresAt : Option Int
  contentPermissionState : Option IgPermissionState
  lastSyncedAt : Option Int
  lastSuccessfulSyncAt : Option Int
  lastCursor : Option String
  lastError : Option String
  lastErrorAt : Option Int
  syncAttempts : Nat
  nextRetryAt : Option Int

inductive SyncError where
  | reconnectRequired (message : String) (state : Option IgPermissionState)
  | rateLimited (message : String) (state : Option IgPermissionState)
  | permissionRequired (message : String) (state : Option IgPermissionState)
  | apiUnavailable (message : String) (state : Option IgPermissionState)
  | other (message : String)

namespace SyncError

def message : SyncError → String
  | .reconnectRequired message _ | .rateLimited message _ | .permissionRequired message _
  | .apiUnavailable message _ | .other message => message

def permissionState : SyncError → Option IgPermissionState
  | .reconnectRequired _ state | .rateLimited _ state | .permissionRequired _ state
  | .apiUnavailable _ state => state
  | .other _ => none

def needsReconnect : SyncError → Bool
  | .reconnectRequired _ _ | .permissionRequired _ _ => true
  | _ => false

def retryLater : SyncError → Bool
  | .rateLimited _ _ | .apiUnavailable _ _ => true
  | _ => false

end SyncError

structure FetchResult where
  items : List FetchedContent
  cursor : Option String
  permissionState : Option IgPermissionState
  truncated : Bool

inductive ItemAnswer where
  | done (outcome : IngestOutcome)
  | duplicateRace
  | failed

/-- What a run meets. `leaseLostFrom` counts the items before which the lease was still held;
the items of a demo account and the read of a page that is not Instagram's are given. -/
structure SyncEnv where
  now : Int
  tenantActive : Bool
  gateReason : Option String
  leaseAcquired : Bool
  liveSync : Bool
  injected : Bool
  token : Option String
  transport : MetaContentTransport
  mockMetaFetch : List FetchedContent
  connectorRead : Except SyncError FetchResult
  ingest : Nat → FetchedContent → ItemAnswer
  leaseLostFrom : Option Nat
  leaseGoneOnError : Bool
  accountWritten : Bool

def SyncEnv.leaseGone (env : SyncEnv) (index : Nat) : Bool :=
  env.leaseLostFrom.any fun first => decide (first ≤ index)

def SyncAccount.linkedId (account : SyncAccount) : String :=
  account.igBusinessId.getD account.externalId

def instagramError (err : ProviderError) : SyncError :=
  let state := classifyIgPermissionState err
  match state with
  | .tokenExpired =>
    .reconnectRequired "Instagram access token expired or invalid — reconnect required." state
  | .rateLimited =>
    .rateLimited "Instagram API rate limit reached — the sync will retry later." state
  | .apiUnavailable =>
    .apiUnavailable "Instagram API is temporarily unavailable — the sync will retry later." state
  | .accountNotDiscoverable =>
    .permissionRequired
      "The Instagram account is no longer discoverable — reconnect required." state
  | _ =>
    .permissionRequired
      "Missing Instagram permissions for this read — reconnect and re-grant access." state

def fetchInstagramViaTransport (account : SyncAccount) (token : String)
    (transport : MetaContentTransport) : Except SyncError FetchResult :=
  if account.linkedId = "" then
    .error (.permissionRequired
      "This account has no linked Instagram Professional account — reconnect required."
      (some .instagramNotLinked))
  else
    match fetchInstagramContent account.linkedId token transport
        ⟨account.lastCursor, none, none⟩ with
    | .ok result => .ok ⟨result.items, result.cursor, some .healthy, result.truncated⟩
    | .error err => .error (instagramError err)

def fetchContent (env : SyncEnv) (account : SyncAccount) : Except SyncError FetchResult :=
  if !isRealConnection account.mode then .ok ⟨env.mockMetaFetch, none, none, false⟩
  else if account.tokenExpiresAt.any fun time => decide (time ≤ env.now) then
    .error (.reconnectRequired "Access token has expired — reconnect required."
      (some .tokenExpired))
  else
    match env.token.filter (· ≠ "") with
    | none =>
      .error (.reconnectRequired "No usable access token is stored — reconnect required."
        (some .tokenExpired))
    | some token =>
      if account.platform = .instagramBusiness then
        fetchInstagramViaTransport account token env.transport
      else env.connectorRead

/-- The counts of a run; the failed items are kept themselves. -/
structure Tally where
  created : Nat
  updated : Nat
  deduped : Nat
  failed : List FetchedContent

def Tally.add (tally : Tally) (item : FetchedContent) : ItemAnswer → Tally
  | .done .created => { tally with created := tally.created + 1 }
  | .done .updated => { tally with updated := tally.updated + 1 }
  | .done .deduped | .duplicateRace => { tally with deduped := tally.deduped + 1 }
  | .failed => { tally with failed := tally.failed ++ [item] }

def ingestItems (env : SyncEnv) : Nat → List FetchedContent → Tally → Tally
  | _, [], tally => tally
  | index, item :: rest, tally =>
    if env.leaseGone index then tally
    else ingestItems env (index + 1) rest (tally.add item (env.ingest index item))

inductive SyncVerdict where
  | success | partialSuccess | failed | skippedLocked | interrupted
deriving DecidableEq

def Tally.verdict (tally : Tally) : SyncVerdict :=
  if tally.failed.length = 0 then .success
  else if 0 < tally.created + tally.updated + tally.deduped then .partialSuccess
  else .failed

/-- What a run leaves: the account, and what it returned, fetched and failed to ingest. -/
structure SyncRecord where
  account : SyncAccount
  verdict : SyncVerdict
  message : String
  items : List FetchedContent
  truncated : Bool
  tally : Tally
  needsReconnect : Bool
  retryLater : Bool

def emptyTally : Tally := ⟨0, 0, 0, []⟩

def SyncRecord.without (account : SyncAccount) (verdict : SyncVerdict) (message : String) :
    SyncRecord :=
  ⟨account, verdict, message, [], false, emptyTally, false, false⟩

def refusal (env : SyncEnv) (account : SyncAccount) : Option String :=
  if !env.tenantActive then some "This workspace is being deleted — sync is disabled."
  else if env.gateReason.any (· ≠ "tenant_deleting") then
    some "Sync is paused — your billing access is restricted."
  else if account.status = .disconnected then
    some "This account is disconnected — reconnect to sync."
  else if !modeAllowsSync account.mode then
    some ("Sync is not available in \"" ++ account.mode.value ++ "\" mode.")
  else if syncProviderFor account.platform ≠ .meta then
    some "Read-only sync is not available for this platform yet."
  else none

def backoffMinutes : List Int := [1, 5, 15, 60, 180, 360]

def nextRetryFor (attempts : Nat) (now : Int) : Int :=
  now + backoffMinutes.getD (min attempts backoffMinutes.length - 1) 360 * 60000

def SyncAccount.afterError (account : SyncAccount) (err : SyncError) (now : Int) : SyncAccount :=
  { account with
    lastSyncedAt := some now
    status := if err.needsReconnect then .expired else account.status
    health := if err.needsReconnect || err.retryLater then .degraded else .error
    contentPermissionState := err.permissionState.orElse fun _ => account.contentPermissionState
    lastError := some err.message
    lastErrorAt := some now
    syncAttempts := account.syncAttempts + 1
    nextRetryAt :=
      if err.needsReconnect then none else some (nextRetryFor (account.syncAttempts + 1) now) }

/-- The write after a read. Only a run that did not fail moves the cursor, and a read
without one leaves it. -/
def SyncAccount.afterRead (account : SyncAccount) (fetched : FetchResult) (verdict : SyncVerdict)
    (now : Int) : SyncAccount :=
  let read := { account with
    lastSyncedAt := some now
    contentPermissionState := fetched.permissionState.orElse fun _ => account.contentPermissionState }
  if verdict = .failed then read
  else
    { read with
      lastSuccessfulSyncAt := some now
      lastCursor := fetched.cursor.orElse fun _ => account.lastCursor
      health := .healthy
      lastError := none
      lastErrorAt := none
      syncAttempts := 0
      nextRetryAt := none }

def readMessage (useMock : Bool) (tally : Tally) : SyncVerdict → String
  | .failed =>
    "Read-only sync failed — " ++ toString tally.failed.length ++
      " item error(s) and nothing was ingested."
  | .partialSuccess =>
    "Sync completed with " ++ toString tally.failed.length ++ " item error(s) isolated; " ++
      toString tally.created ++ " new, " ++ toString tally.updated ++ " updated, " ++
      toString tally.deduped ++ " unchanged."
  | _ =>
    if useMock then "Mock read-only sync completed (labelled MOCK data, no live API call)."
    else "Read-only sync completed."

def runReadOnlySync (env : SyncEnv) (account : SyncAccount) : SyncRecord :=
  match refusal env account with
  | some message => .without account .failed message
  | none =>
    if !env.leaseAcquired then
      .without account .skippedLocked
        "Sync skipped — another sync is already running for this account."
    else if isRealConnection account.mode && !env.liveSync && !env.injected then
      .without account .failed
        ("Live Meta sync is not enabled (META_LIVE_SYNC=false). " ++
          "No mock data is injected for a real account.")
    else
      match fetchContent env account with
      | .error err =>
        if env.leaseGoneOnError then
          .without account .interrupted
            ("Sync interrupted — the account lease was taken over; " ++
              "no failure state was recorded.")
        else
          { SyncRecord.without
              (if env.accountWritten then account.afterError err env.now else account)
              .failed err.message with
            needsReconnect := err.needsReconnect
            retryLater := err.retryLater }
      | .ok fetched =>
        let tally := ingestItems env 0 fetched.items emptyTally
        let verdict := tally.verdict
        if env.leaseGone fetched.items.length || !env.accountWritten then
          ⟨account, .interrupted,
            "Sync interrupted — the account lease was taken over; no success was recorded.",
            fetched.items, fetched.truncated, tally, false, false⟩
        else
          ⟨account.afterRead fetched verdict env.now, verdict,
            readMessage (!isRealConnection account.mode) tally verdict, fetched.items,
            fetched.truncated, tally, false, false⟩

end Tamanor.Sync
