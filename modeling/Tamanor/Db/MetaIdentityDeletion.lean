import Tamanor.Db.ConnectedAccounts
import Tamanor.Library.OrderedSet
import Tamanor.Library.Runs

/-! Meta's deauthorize callback (`meta-identity-deletion.ts`): what the grant of an identity
authorises is revoked, statement by statement, and each statement is committed by itself. -/

set_option autoImplicit false

namespace Tamanor.Db

open Tamanor.Core Library

structure OAuthAccount where
  provider : String
  providerAccountId : String

structure IdentityDatabase where
  platform : MetaDatabase
  oAuthAccounts : List OAuthAccount

def facebookLoginProvider : String := "facebook"

def providerDeauthorizedReason : String := "provider_deauthorized"

structure MetaIdentityRevocationResult where
  credentialsRevoked : Nat
  accountsInvalidated : Nat
  loginLinkRemoved : Bool
  alreadyClean : Bool
deriving DecidableEq

structure AuthorizedCredential where
  id : String
  connectedAccountId : Option String
deriving DecidableEq

def CredentialConnection.connectedAccountId? : CredentialConnection → Option String
  | .connectedAccount id => some id
  | .businessConnection _ => none

def ProviderCredential.isAuthorizedBy (row : ProviderCredential) (identity : String) : Bool :=
  row.owner.provider == .metaPlatforms && row.authorizingProviderUserId == some identity &&
    row.revokedAt.isNone

variable (db : IdentityDatabase)

def findAuthorized (identity : String) : List AuthorizedCredential :=
  (db.platform.credentials.rows.filter fun row => row.2.isAuthorizedBy identity).map fun row =>
    ⟨row.1, row.2.owner.connection.connectedAccountId?⟩

variable (credentials : List AuthorizedCredential)

def revokeFound (now : Int) (db : IdentityDatabase) : IdentityDatabase × Nat :=
  let test (id : String) (row : ProviderCredential) : Bool :=
    (credentials.map (·.id)).contains id && row.revokedAt.isNone
  if credentials.isEmpty then (db, 0)
  else
    ({ db with
        platform :=
          { db.platform with
            credentials := db.platform.credentials.updateWhere test fun row =>
              { row with revokedAt := some now } } },
      db.platform.credentials.rows.countP fun row => test row.1 row.2)

def ownerIds : List String :=
  (OrderedSet.ofList ((credentials.filterMap (·.connectedAccountId)).filter (· ≠ ""))).toList

def deauthorized (now : Int) (account : ConnectedAccount) : ConnectedAccount :=
  { account with
    connectionStatus := .needsReconnect
    tokenHealth := .revoked
    health := .error
    requiresReconnectReason := some providerDeauthorizedReason
    lastTokenCheckAt := some now
    lastTokenCheckResult := some providerDeauthorizedReason }

def invalidateOwners (now : Int) (db : IdentityDatabase) : IdentityDatabase × Nat :=
  let ids := ownerIds credentials
  let test (id : String) (account : ConnectedAccount) : Bool :=
    ids.contains id && account.status != .disconnected
  if ids.isEmpty then (db, 0)
  else
    ({ db with
        platform :=
          { db.platform with accounts := db.platform.accounts.updateWhere test (deauthorized now) } },
      db.platform.accounts.rows.countP fun row => test row.1 row.2)

def dropLoginLink (identity : String) (db : IdentityDatabase) : IdentityDatabase × Bool :=
  let isLink (link : OAuthAccount) : Bool :=
    link.provider == facebookLoginProvider && link.providerAccountId == identity
  ({ db with oAuthAccounts := db.oAuthAccounts.filter fun link => !isLink link },
    db.oAuthAccounts.any isLink)

variable (providerUserId : String)

def metaIdentity : String :=
  String.ofList (Text.trim providerUserId.toList)

def cleanRevocation : MetaIdentityRevocationResult := ⟨0, 0, false, true⟩

def revocationResult (credentialsRevoked accountsInvalidated : Nat) (loginLinkRemoved : Bool) :
    MetaIdentityRevocationResult where
  credentialsRevoked := credentialsRevoked
  accountsInvalidated := accountsInvalidated
  loginLinkRemoved := loginLinkRemoved
  alreadyClean := credentialsRevoked == 0 && accountsInvalidated == 0 && !loginLinkRemoved

def revokeMetaAuthorization (now : Int) (db : IdentityDatabase) :
    IdentityDatabase × MetaIdentityRevocationResult :=
  let identity := metaIdentity providerUserId
  if identity = "" then (db, cleanRevocation)
  else
    let credentials := findAuthorized db identity
    let revoked := revokeFound credentials now db
    let invalidated := invalidateOwners credentials now revoked.1
    let link := dropLoginLink identity invalidated.1
    (link.1, revocationResult revoked.2 invalidated.2 link.2)

/-! The same, statement by statement, among writes of the vault. -/

inductive RevocationStage where
  | start
  | found (credentials : List AuthorizedCredential)
  | revoked (credentials : List AuthorizedCredential) (credentialsRevoked : Nat)
  | invalidated (credentialsRevoked accountsInvalidated : Nat)
  | returned (result : MetaIdentityRevocationResult)
deriving DecidableEq

/-- One delivery of the callback, taken at a time. -/
structure DeauthorizeSystem where
  db : IdentityDatabase
  now : Int
  stage : RevocationStage

inductive DeauthorizeAction where
  | advance
  /-- A crash, after which the callback is delivered again. -/
  | restart (now : Int)
  | store (env : VaultEnv) (input : StoreCredentialInput) (draw : CredentialDraw) (now : Int)
  | revoke (query : CredentialQuery) (now : Int)

namespace DeauthorizeSystem

def advance (identity : String) (system : DeauthorizeSystem) : DeauthorizeSystem :=
  match system.stage with
  | .start =>
    if identity = "" then { system with stage := .returned cleanRevocation }
    else { system with stage := .found (findAuthorized system.db identity) }
  | .found credentials =>
    let revoked := revokeFound credentials system.now system.db
    { system with db := revoked.1, stage := .revoked credentials revoked.2 }
  | .revoked credentials credentialsRevoked =>
    let invalidated := invalidateOwners credentials system.now system.db
    { system with db := invalidated.1, stage := .invalidated credentialsRevoked invalidated.2 }
  | .invalidated credentialsRevoked accountsInvalidated =>
    let link := dropLoginLink identity system.db
    { system with
      db := link.1
      stage := .returned (revocationResult credentialsRevoked accountsInvalidated link.2) }
  | .returned _ => system

def withCredentials (system : DeauthorizeSystem) (credentials : CredentialTable) :
    DeauthorizeSystem :=
  { system with
    db := { system.db with platform := { system.db.platform with credentials := credentials } } }

def step (providerUserId : String) (system : DeauthorizeSystem) :
    DeauthorizeAction → DeauthorizeSystem
  | .advance => system.advance (metaIdentity providerUserId)
  | .restart now => { system with now := now, stage := .start }
  | .store env input draw now =>
    match storeProviderCredential env system.db.platform.credentials input draw now with
    | some stored => system.withCredentials stored
    | none => system
  | .revoke query now =>
    system.withCredentials (revokeProviderCredential system.db.platform.credentials query now)

def start (db : IdentityDatabase) (now : Int) : DeauthorizeSystem := ⟨db, now, .start⟩

end DeauthorizeSystem

def stopAfter (now : Int) (count : Nat) (db : IdentityDatabase) : IdentityDatabase :=
  (Runs.run (DeauthorizeSystem.step providerUserId) (.start db now)
    (List.replicate count .advance)).db

def ProviderCredential.timeless (row : ProviderCredential) : ProviderCredential :=
  { row with revokedAt := row.revokedAt.map fun _ => 0 }

def ConnectedAccount.timeless (account : ConnectedAccount) : ConnectedAccount :=
  { account with lastTokenCheckAt := none }

def IdentityDatabase.timeless (db : IdentityDatabase) : IdentityDatabase :=
  { db with
    platform :=
      { db.platform with
        accounts := db.platform.accounts.mapValues ConnectedAccount.timeless
        credentials := db.platform.credentials.mapValues ProviderCredential.timeless } }

/-- A delivery that stops, and a later one from the start, end like one that does not stop. -/
def RerunConverges (now later : Int) (count : Nat) (db : IdentityDatabase) : Prop :=
  (revokeMetaAuthorization providerUserId later
      (stopAfter providerUserId now count db)).1.timeless =
    (revokeMetaAuthorization providerUserId now db).1.timeless

def IsDeauthorized (account : ConnectedAccount) : Prop :=
  account.connectionStatus = .needsReconnect ∧ account.tokenHealth = .revoked ∧
    account.health = .error ∧ account.requiresReconnectReason = some providerDeauthorizedReason ∧
    account.lastTokenCheckResult = some providerDeauthorizedReason

/-- The delivery does not stop between the credentials and the accounts, or finds all the
accounts downgraded already. -/
def RerunHarmless (count : Nat) (db : IdentityDatabase) : Prop :=
  let identity := metaIdentity providerUserId
  count = 2 → identity ≠ "" → ∀ id ∈ ownerIds (findAuthorized db identity), ∀ account,
    db.platform.accounts.find? id = some account → account.status ≠ .disconnected →
    IsDeauthorized account

def BelongsToOther (identity : String) (row : ProviderCredential) : Prop :=
  ∃ other, row.authorizingProviderUserId = some other ∧ other ≠ identity

def HasOtherCredential (identity accountId : String) : Prop :=
  ∃ rowId row, db.platform.credentials.find? rowId = some row ∧
    row.owner.provider = .metaPlatforms ∧ row.owner.connection = .connectedAccount accountId ∧
    row.revokedAt = none ∧ BelongsToOther identity row

/-- A statement of the callback revokes no credential that belongs to another identity when
it is written, and changes no account with an active one. -/
def SparesOthers (system : DeauthorizeSystem) (action : DeauthorizeAction) : Prop :=
  let identity := metaIdentity providerUserId
  let before := system.db.platform
  let after := (system.step providerUserId action).db.platform
  action = .advance →
    (∀ rowId row row', before.credentials.find? rowId = some row →
      after.credentials.find? rowId = some row' → row.revokedAt = none → row'.revokedAt ≠ none →
      ¬BelongsToOther identity row) ∧
    ∀ id account account', before.accounts.find? id = some account →
      after.accounts.find? id = some account' → account' ≠ account →
      ¬HasOtherCredential system.db identity id

def MarkChanges (now : Int) (accountId : String) : Prop :=
  ∃ account, db.platform.accounts.find? accountId = some account ∧
    account.status ≠ .disconnected ∧ deauthorized now account ≠ account

/-- No account that owns one of the credentials and that the mark would change has an active
credential of another identity. -/
def OwnersOwn (now : Int) (identity : String) (credentials : List AuthorizedCredential) : Prop :=
  ∀ id ∈ ownerIds credentials, MarkChanges db now id → ¬HasOtherCredential db identity id

def StoreCredentialInput.SparesRows (input : StoreCredentialInput) (table : CredentialTable)
    (credentials : List AuthorizedCredential) : Prop :=
  ∀ id row, findActive table input.query = some (id, row) → id ∉ credentials.map (·.id)

/-- What is stored is of no account that owns one of the credentials and that the mark would
change. -/
def StoreCredentialInput.SparesOwners (input : StoreCredentialInput) (db : IdentityDatabase)
    (now : Int) (credentials : List AuthorizedCredential) : Prop :=
  ∀ id ∈ ownerIds credentials, MarkChanges db now id → input.query.provider = .metaPlatforms →
    input.query.connection ≠ .connectedAccount id

/-- When the callback reads, no owner to be marked has an active credential of another identity.
Until the credentials are revoked, no vault write gives a row that was found to another identity;
and until the accounts are marked, none gives one to such an owner. -/
def StoresSpare (system : DeauthorizeSystem) : DeauthorizeAction → Prop
  | .advance =>
    let identity := metaIdentity providerUserId
    system.stage = .start → identity ≠ "" →
      OwnersOwn system.db system.now identity (findAuthorized system.db identity)
  | .store env input _ _ =>
    let identity := metaIdentity providerUserId
    env.key ≠ none → (∃ other, input.authorizingProviderUserId = some other ∧ other ≠ identity) →
    match system.stage with
    | .found credentials =>
      input.SparesRows system.db.platform.credentials credentials ∧
        input.SparesOwners system.db system.now credentials
    | .revoked credentials _ => input.SparesOwners system.db system.now credentials
    | _ => True
  | _ => True

end Tamanor.Db
