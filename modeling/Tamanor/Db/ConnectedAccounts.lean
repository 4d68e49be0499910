import Tamanor.Core.Reputation
import Tamanor.Db.CredentialVault

/-! Connected accounts, with the columns that connecting, disconnecting, the backfill and
the provider's callbacks read and write, beside the vault. -/

set_option autoImplicit false

namespace Tamanor.Db

open Tamanor.Core Library

inductive ConnectorStatus where
  | pending | active | mockConnected | expired | disconnected | error
deriving DecidableEq

inductive ConnectorMode where
  | placeholder | oauthReady | readOnly | actionDisabled
deriving DecidableEq

inductive ConnectorHealth where
  | unknown | healthy | degraded | error
deriving DecidableEq

inductive ConnectionStatus where
  | connected | needsReconnect | invalidToken | missingPermission | disabledByUser | disconnected
deriving DecidableEq

inductive TokenHealth where
  | unknown | ok | expiringSoon | expired | invalid | revoked
deriving DecidableEq

structure ConnectedAccount where
  tenantId : String
  brandId : String
  platform : Platform
  status : ConnectorStatus
  mode : ConnectorMode
  health : ConnectorHealth
  externalId : String
  externalName : Option String
  pageId : Option String
  igBusinessId : Option String
  scopes : List String
  grantedPermissions : List String
  monitoringEnabled : Bool
  connectionStatus : ConnectionStatus
  tokenHealth : TokenHealth
  lastTokenCheckAt : Option Int
  lastTokenCheckResult : Option String
  requiresReconnectReason : Option String
  accessToken : Option String
  longLivedToken : Option String
  refreshToken : Option String
  tokenType : Option String
  tokenExpiresAt : Option Int
  lastError : Option String
  lastErrorAt : Option Int
  syncAttempts : Nat
  nextRetryAt : Option Int
  parentAccountId : Option String
deriving DecidableEq

structure MetaDatabase where
  accounts : Table String ConnectedAccount
  credentials : CredentialTable
  /-- The accounts for which a sync holds a lease. -/
  syncLeases : List String

namespace MetaDatabase

def findAccount (db : MetaDatabase) (tenantId id : String) : Option ConnectedAccount :=
  (db.accounts.find? id).filter fun account => account.tenantId == tenantId

def tokenAccount (id : String) (account : ConnectedAccount) : MetaTokenAccount where
  id := id
  tenantId := account.tenantId
  longLivedToken := account.longLivedToken
  accessToken := account.accessToken

/-- The usable token of an account as it is stored; an absent one has none. -/
def token? (env : VaultEnv) (now : Int) (db : MetaDatabase) (tenantId id : String) :
    Option String :=
  (db.findAccount tenantId id).bind fun account =>
    resolveMetaAccessTokenSafe env db.credentials now (tokenAccount id account)

theorem findAccount_eq_some_iff {db : MetaDatabase} {tenantId id : String}
    {account : ConnectedAccount} :
    db.findAccount tenantId id = some account ↔
      db.accounts.find? id = some account ∧ account.tenantId = tenantId := by
  rw [findAccount, Option.filter_eq_some_iff, beq_iff_eq]

theorem token?_of_findAccount {env : VaultEnv} {now : Int} {db : MetaDatabase}
    {tenantId id : String} {account : ConnectedAccount}
    (found : db.findAccount tenantId id = some account) :
    db.token? env now tenantId id =
      resolveMetaAccessTokenSafe env db.credentials now (tokenAccount id account) := by
  rw [token?, found, Option.bind_some]

end MetaDatabase

end Tamanor.Db
