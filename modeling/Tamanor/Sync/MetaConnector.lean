import Tamanor.Db.ConnectedAccounts

/-! Connecting a discovered Page and its Instagram account (`meta-connector.ts`). The
accounts are upserted in one transaction; the credential of each is then stored in a locked
transaction of its own, and a failure of one is compensated. -/

set_option autoImplicit false

namespace Tamanor.Sync

open Tamanor.Core Db Library

structure MetaDiscoveredPage where
  pageId : String
  name : String
  igBusinessId : Option String
  igUsername : Option String

structure MetaLinkInput where
  tenantId : String
  brandId : String
  page : MetaDiscoveredPage
  connectIg : Bool
  scopes : List String
  grantedPermissions : List String
  pageAccessToken : String
  tokenType : Option String
  tokenExpiresAt : Option Int
  authorizingProviderUserId : Option String

structure MetaLinkResult where
  pageAccountId : String
  igAccountId : Option String
  pageReconnected : Bool
  igReconnected : Bool
deriving DecidableEq

/-- One call: what it is given, the plan's limits, the random bytes that it draws for an
account, and the statements that fail in it. A locked transaction that throws at any point
is rolled back. -/
structure LinkCall where
  env : VaultEnv
  now : Int
  input : MetaLinkInput
  maxFacebookPerBrand : Option Nat
  maxInstagramPerBrand : Option Nat
  draw : String → CredentialDraw
  persistFails : String → Bool
  downgradeFails : Bool

def metaConnectedAccountFields (input : MetaLinkInput) (account : ConnectedAccount) :
    ConnectedAccount :=
  { account with
    status := .active
    mode := .readOnly
    health := .healthy
    externalName := some input.page.name
    pageId := some input.page.pageId
    igBusinessId := input.page.igBusinessId
    scopes := input.scopes
    grantedPermissions := input.grantedPermissions
    tokenType := input.tokenType
    tokenExpiresAt := input.tokenExpiresAt
    lastError := none
    lastErrorAt := none
    syncAttempts := 0
    nextRetryAt := none
    connectionStatus := .connected
    tokenHealth := .unknown
    requiresReconnectReason := none }

def instagramFields (input : MetaLinkInput) (pageAccountId : String) (account : ConnectedAccount) :
    ConnectedAccount :=
  { metaConnectedAccountFields input account with
    externalName :=
      match input.page.igUsername.filter (· ≠ "") with
      | some username => some ("@" ++ username)
      | none => some input.page.name
    parentAccountId := some pageAccountId }

/-- A new row before the fields of the connection are set: the defaults of the schema, but
not monitored. -/
def newAccount (input : MetaLinkInput) (platform : Platform) (externalId : String) :
    ConnectedAccount where
  tenantId := input.tenantId
  brandId := input.brandId
  platform := platform
  status := .pending
  mode := .placeholder
  health := .unknown
  externalId := externalId
  externalName := none
  pageId := none
  igBusinessId := none
  scopes := []
  grantedPermissions := []
  monitoringEnabled := false
  connectionStatus := .connected
  tokenHealth := .unknown
  lastTokenCheckAt := none
  lastTokenCheckResult := none
  requiresReconnectReason := none
  accessToken := none
  longLivedToken := none
  refreshToken := none
  tokenType := none
  tokenExpiresAt := none
  lastError := none
  lastErrorAt := none
  syncAttempts := 0
  nextRetryAt := none
  parentAccountId := none

abbrev AccountTable := Table String ConnectedAccount

/-- The row of an external asset of a brand; the three columns are unique. -/
def isAsset (input : MetaLinkInput) (platform : Platform) (externalId : String)
    (account : ConnectedAccount) : Bool :=
  account.tenantId == input.tenantId && account.brandId == input.brandId &&
    account.platform == platform && account.externalId == externalId

def findAsset (accounts : AccountTable) (input : MetaLinkInput) (platform : Platform)
    (externalId : String) : Option (String × ConnectedAccount) :=
  accounts.rows.find? fun row => isAsset input platform externalId row.2

def hasBrandPlatformCapacity (accounts : AccountTable) (input : MetaLinkInput)
    (platform : Platform) (externalId : String) (maxPerBrand : Option Nat) : Bool :=
  match maxPerBrand with
  | none => true
  | some limit =>
    decide <| (accounts.rows.countP fun row =>
      row.2.tenantId == input.tenantId && row.2.brandId == input.brandId &&
        row.2.platform == platform && row.2.status != .disconnected &&
        row.2.externalId != externalId) < limit

structure Upserted where
  accounts : AccountTable
  id : String
  existed : Bool

def upsertAccount (env : VaultEnv) (accounts : AccountTable) (input : MetaLinkInput)
    (platform : Platform) (externalId : String) (change : ConnectedAccount → ConnectedAccount) :
    Upserted :=
  match findAsset accounts input platform externalId with
  | some (id, _) => { accounts := accounts.modify id change, id := id, existed := true }
  | none =>
    let id := env.newId (accounts.rows.map Prod.fst)
    { accounts := accounts.insert id (change (newAccount input platform externalId))
      id := id, existed := false }

def upsertAssets (call : LinkCall) (accounts : AccountTable) :
    Option (AccountTable × MetaLinkResult) :=
  let input := call.input
  if hasBrandPlatformCapacity accounts input .facebookPage input.page.pageId
      call.maxFacebookPerBrand then
    let page := upsertAccount call.env accounts input .facebookPage input.page.pageId
      (metaConnectedAccountFields input)
    match (input.page.igBusinessId.filter (· ≠ "")).filter fun _ => input.connectIg with
    | none => some (page.accounts, ⟨page.id, none, page.existed, false⟩)
    | some igBusinessId =>
      if hasBrandPlatformCapacity page.accounts input .instagramBusiness igBusinessId
          call.maxInstagramPerBrand then
        let instagram := upsertAccount call.env page.accounts input .instagramBusiness
          igBusinessId (instagramFields input page.id)
        some (instagram.accounts, ⟨page.id, some instagram.id, page.existed, instagram.existed⟩)
      else none
  else none

structure LinkTarget where
  id : String
  isNew : Bool
deriving DecidableEq

def MetaLinkResult.targets (result : MetaLinkResult) : List LinkTarget :=
  ⟨result.pageAccountId, !result.pageReconnected⟩ ::
    match result.igAccountId with
    | some igAccountId => [⟨igAccountId, !result.igReconnected⟩]
    | none => []

def MetaLinkInput.credential (input : MetaLinkInput) (accountId : String) :
    StoreCredentialInput where
  query := metaQuery input.tenantId accountId .longLivedToken
  secret := input.pageAccessToken
  tokenType := input.tokenType
  expiresAt := input.tokenExpiresAt
  scopes := input.scopes
  authorizingProviderUserId := input.authorizingProviderUserId

def verifyCredential (call : LinkCall) (id : String) (db : MetaDatabase) : Option MetaDatabase :=
  match resolveProviderCredential call.env db.credentials (call.input.credential id).query with
  | .ok (some check) => if check = call.input.pageAccessToken then some db else none
  | _ => none

/-- The locked transaction for one account: store the credential, and read it back. -/
def persistCredential (call : LinkCall) (db : MetaDatabase) (id : String) : Option MetaDatabase :=
  if call.persistFails id then none
  else if (db.findAccount call.input.tenantId id).isNone then none
  else
    (storeProviderCredential call.env db.credentials (call.input.credential id) (call.draw id)
      call.now).bind fun stored => verifyCredential call id { db with credentials := stored }

def persistAll (call : LinkCall) (db : MetaDatabase) : List LinkTarget → MetaDatabase × Bool
  | [] => (db, true)
  | target :: rest =>
    match persistCredential call db target.id with
    | some persisted => persistAll call persisted rest
    | none => (db, false)

def downgrade (tenantId : String) (ids : List String) (accounts : AccountTable) : AccountTable :=
  accounts.updateWhere (fun id account => ids.contains id && account.tenantId == tenantId)
    fun account =>
      { account with
        connectionStatus := .needsReconnect
        tokenHealth := .invalid
        requiresReconnectReason := some "credential_persist_failed" }

def compensate (call : LinkCall) (targets : List LinkTarget) (db : MetaDatabase) : MetaDatabase :=
  if call.downgradeFails then db
  else
    { db with
      accounts := downgrade call.input.tenantId ((targets.filter (·.isNew)).map (·.id)) db.accounts }

inductive LinkOutcome where
  | linked (result : MetaLinkResult)
  | limitReached
  | credentialPersistError
deriving DecidableEq

def linkMetaAssets (call : LinkCall) (db : MetaDatabase) : MetaDatabase × LinkOutcome :=
  match upsertAssets call db.accounts with
  | none => (db, .limitReached)
  | some (accounts, result) =>
    match persistAll call { db with accounts := accounts } result.targets with
    | (persisted, true) => (persisted, .linked result)
    | (persisted, false) => (compensate call result.targets persisted, .credentialPersistError)

end Tamanor.Sync
