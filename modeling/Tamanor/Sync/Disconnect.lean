import Tamanor.Library.OrderedSet
import Tamanor.Db.CredentialBackfill
import Tamanor.Sync.MetaConnector

/-! Disconnecting an account together with the accounts that share its token
(`disconnect.ts`). The claim reads the cluster, the provider is then asked to revoke the
token (`provider-revoke.ts`), and the cleanup clears the rows that still hold the columns
that were claimed. -/

set_option autoImplicit false

namespace Tamanor.Sync

open Tamanor.Core Db Library

inductive RevokeResult where
  | revoked | unsupported | failed | alreadyInvalid
deriving DecidableEq

inductive DisconnectStatus where
  | disconnectedLocal | revokedProvider | revokeFailed | revokeUnsupported
deriving DecidableEq

structure RevokeAnswer where
  ok : Bool
  alreadyInvalid : Bool

/-- `revokeMeta`, from the account and its token, if it is wired. It is none if it throws. -/
abbrev RevokeTransport := Option (String → String → Option RevokeAnswer)

def isMetaPlatform (platform : Platform) : Bool :=
  platform == .facebookPage || platform == .instagramBusiness

def revokeProviderCredentials (transport : RevokeTransport) (platform : Platform)
    (accessToken : Option String) (externalAccountId : String) : RevokeResult :=
  match accessToken.filter (· ≠ "") with
  | none => .alreadyInvalid
  | some token =>
    if isMetaPlatform platform then
      match transport with
      | none => .unsupported
      | some revokeMeta =>
        match revokeMeta externalAccountId token with
        | none => .failed
        | some answer =>
          if answer.alreadyInvalid then .alreadyInvalid
          else if answer.ok then .revoked
          else .failed
    else .unsupported

structure ClusterRow where
  id : String
  platform : Platform
  longLivedToken : Option String
  accessToken : Option String
deriving DecidableEq

def clusterRow (id : String) (account : ConnectedAccount) : ClusterRow where
  id := id
  platform := account.platform
  longLivedToken := account.longLivedToken
  accessToken := account.accessToken

variable (db : MetaDatabase)

def pageAccountId (tenantId id : String) (account : ConnectedAccount) : Option String :=
  if account.platform = .facebookPage then some id
  else
    match account.parentAccountId.filter (· ≠ "") with
    | none => none
    | some parent =>
      if (db.findAccount tenantId parent).any (·.platform == .facebookPage) then some parent
      else none

def dedupeById (seen : List String) : List ClusterRow → List ClusterRow
  | [] => []
  | row :: rest =>
    if seen.contains row.id then dedupeById seen rest
    else row :: dedupeById (row.id :: seen) rest

def igChildren (tenantId page : String) : List ClusterRow :=
  (db.accounts.rows.filter fun row =>
    row.2.tenantId == tenantId && row.2.parentAccountId == some page &&
      row.2.platform == .instagramBusiness).map fun row => clusterRow row.1 row.2

def resolveTokenCluster (tenantId id : String) (account : ConnectedAccount) : List ClusterRow :=
  let self := clusterRow id account
  if isMetaPlatform account.platform then
    match pageAccountId db tenantId id account with
    | none => [self]
    | some page =>
      let rows :=
        ((db.findAccount tenantId page).map (clusterRow page)).toList ++ igChildren db tenantId page
      dedupeById [] (if rows.any (·.id == id) then rows else rows ++ [self])
  else [self]

structure DisconnectCall where
  env : VaultEnv
  now : Int
  transport : RevokeTransport
  tenantId : String
  accountId : String

structure DisconnectClaim where
  account : ConnectedAccount
  cluster : List ClusterRow
deriving DecidableEq

def DisconnectClaim.clusterIds (claim : DisconnectClaim) : List String := claim.cluster.map (·.id)

def claimDisconnect (call : DisconnectCall) (db : MetaDatabase) : Option DisconnectClaim :=
  (db.findAccount call.tenantId call.accountId).map fun account =>
    ⟨account, resolveTokenCluster db call.tenantId call.accountId account⟩

def revokeClaim (call : DisconnectCall) (claim : DisconnectClaim) (db : MetaDatabase) :
    RevokeResult :=
  let token := resolveMetaAccessTokenSafe call.env db.credentials call.now
    { id := call.accountId, tenantId := call.tenantId
      longLivedToken := claim.account.longLivedToken, accessToken := claim.account.accessToken }
  revokeProviderCredentials call.transport claim.account.platform token
    (claim.account.pageId.getD claim.account.externalId)

def RevokeResult.clearData (revoke : RevokeResult) (account : ConnectedAccount) : ConnectedAccount :=
  { account with
    accessToken := none
    longLivedToken := none
    refreshToken := none
    tokenExpiresAt := none
    status := .disconnected
    connectionStatus := .disconnected
    health := .unknown
    tokenHealth := if revoke = .revoked then .revoked else .invalid
    requiresReconnectReason := some "disconnected"
    lastError := none
    lastErrorAt := none }

def ClusterRow.claims (row : ClusterRow) (tenantId id : String) (account : ConnectedAccount) :
    Bool :=
  id == row.id && account.tenantId == tenantId &&
    account.longLivedToken == row.longLivedToken && account.accessToken == row.accessToken

def clearRow (tenantId : String) (revoke : RevokeResult) (accounts : AccountTable)
    (row : ClusterRow) : AccountTable :=
  accounts.updateWhere (row.claims tenantId) revoke.clearData

def clearCluster (tenantId : String) (claim : DisconnectClaim) (revoke : RevokeResult)
    (db : MetaDatabase) : MetaDatabase :=
  { db with
    syncLeases := db.syncLeases.filter fun id => !claim.clusterIds.contains id
    accounts := claim.cluster.foldl (clearRow tenantId revoke) db.accounts }

def isCredentialFree (account : ConnectedAccount) : Bool :=
  account.longLivedToken.isNone && account.accessToken.isNone && account.refreshToken.isNone &&
    account.status == .disconnected

/-- The last read: whether the account that was asked for is free of credentials. -/
def requestedRemoved (call : DisconnectCall) (db : MetaDatabase) : Bool :=
  (db.findAccount call.tenantId call.accountId).any isCredentialFree

structure DisconnectedAccount where
  id : String
  brandId : String
  platform : Platform
deriving DecidableEq

structure DisconnectedCluster where
  accountIds : List String
  count : Nat
  platforms : List Platform
deriving DecidableEq

structure DisconnectResult where
  account : Option DisconnectedAccount
  revoke : RevokeResult
  status : DisconnectStatus
  cluster : DisconnectedCluster
  localCredentialsRemoved : Bool
  providerRevocation : RevokeResult
  manualCleanupRecommended : Bool
  resultingStatus : Db.ConnectorStatus
deriving DecidableEq

def disconnectNotFound : DisconnectResult where
  account := none
  revoke := .alreadyInvalid
  status := .disconnectedLocal
  cluster := ⟨[], 0, []⟩
  localCredentialsRemoved := false
  providerRevocation := .alreadyInvalid
  manualCleanupRecommended := false
  resultingStatus := .disconnected

def disconnectStatus : RevokeResult → DisconnectStatus
  | .revoked => .revokedProvider
  | .failed => .revokeFailed
  | .unsupported => .revokeUnsupported
  | .alreadyInvalid => .disconnectedLocal

def disconnectResult (call : DisconnectCall) (claim : DisconnectClaim) (revoke : RevokeResult)
    (removed : Bool) : DisconnectResult where
  account := some ⟨call.accountId, claim.account.brandId, claim.account.platform⟩
  revoke := revoke
  status := disconnectStatus revoke
  cluster :=
    { accountIds := claim.clusterIds
      count := claim.clusterIds.length
      platforms := (OrderedSet.ofList (claim.cluster.map (·.platform))).toList }
  localCredentialsRemoved := removed
  providerRevocation := revoke
  manualCleanupRecommended := isMetaPlatform claim.account.platform && revoke != .revoked
  resultingStatus := .disconnected

/-! What other transactions may commit between the phases. -/

/-- A write of columns of accounts other than their tokens: a health check, a sync, a
callback of the provider, the settings of the protection. -/
structure StateUpdate where
  test : String → ConnectedAccount → Bool
  change : ConnectedAccount → ConnectedAccount
  keepsTokens : ∀ account, (change account).longLivedToken = account.longLivedToken ∧
    (change account).accessToken = account.accessToken

/-- A transaction of another party, except those by which a connect writes a credential. -/
inductive OtherOperation where
  | upsertAssets (call : LinkCall)
  | updateAccounts (update : StateUpdate)
  | deleteAccounts (test : String → ConnectedAccount → Bool)
  | backfill (call : BackfillCall)
  | clearCluster (tenantId : String) (claim : DisconnectClaim) (revoke : RevokeResult)
  | revokeCredentials (test : String → ProviderCredential → Bool) (now : Int)

def OtherOperation.apply : OtherOperation → MetaDatabase
  | .upsertAssets call =>
    match Sync.upsertAssets call db.accounts with
    | some (accounts, _) => { db with accounts := accounts }
    | none => db
  | .updateAccounts update =>
    { db with accounts := db.accounts.updateWhere update.test update.change }
  | .deleteAccounts test => { db with accounts := db.accounts.deleteWhere test }
  | .backfill call =>
    match applyOne call db with
    | some (after, _) => after
    | none => db
  | .clearCluster tenantId claim revoke => Sync.clearCluster tenantId claim revoke db
  | .revokeCredentials test now =>
    { db with
      credentials := db.credentials.updateWhere test fun row => { row with revokedAt := some now } }

def applyOthers (others : List OtherOperation) (db : MetaDatabase) : MetaDatabase :=
  others.foldl OtherOperation.apply db

/-- The whole disconnect, with what others commit before its second and its third phase. -/
def disconnectAccount (call : DisconnectCall) (beforeRevoke beforeClear : List OtherOperation)
    (db : MetaDatabase) : MetaDatabase × DisconnectResult :=
  match claimDisconnect call db with
  | none => (db, disconnectNotFound)
  | some claim =>
    let revoking := applyOthers beforeRevoke db
    let revoke := revokeClaim call claim revoking
    let cleared := clearCluster call.tenantId claim revoke (applyOthers beforeClear revoking)
    (cleared, disconnectResult call claim revoke (requestedRemoved call cleared))

end Tamanor.Sync
