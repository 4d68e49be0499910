import Tamanor.Db.ConnectedAccounts
import Tamanor.Library.LockedSection

/-! The apply step of the credential backfill (`provider-credential-backfill.ts`): the
function for one account, and the statements by which it runs in a transaction that holds
the lock of the account (`provider-credential-lock.ts`). -/

set_option autoImplicit false

namespace Tamanor.Db

open Tamanor.Core Library

inductive BackfillOutcome where
  | skippedNoToken | alreadyVaultedCleared | backfilledCleared | error

structure BackfillCall where
  env : VaultEnv
  now : Int
  tenantId : String
  accountId : String
  draw : CredentialDraw

namespace BackfillCall

def query (call : BackfillCall) : CredentialQuery :=
  metaQuery call.tenantId call.accountId .longLivedToken

def input (call : BackfillCall) (secret : String) : StoreCredentialInput where
  query := call.query
  secret := secret
  tokenType := none
  expiresAt := none
  scopes := []
  authorizingProviderUserId := none

def fingerprint (call : BackfillCall) (secret : String) : String :=
  credentialFingerprint call.env.sha256Hex secret

end BackfillCall

def legacySecret (env : VaultEnv) (id : String) (account : ConnectedAccount) :
    Except TokenError (Option String) :=
  (legacyToken env (MetaDatabase.tokenAccount id account)).map (·.filter (· ≠ ""))

def clearLegacy (id : String) (db : MetaDatabase) : MetaDatabase :=
  { db with
    accounts := db.accounts.modify id fun account =>
      { account with accessToken := none, longLivedToken := none } }

def verifyAndClear (call : BackfillCall) (secret : String) (backfilledNow : Bool)
    (db : MetaDatabase) : Option (MetaDatabase × BackfillOutcome) :=
  match resolveProviderCredential call.env db.credentials call.query with
  | .error _ => none
  | .ok none => some (db, .error)
  | .ok (some check) =>
    if call.fingerprint check = call.fingerprint secret then
      some (clearLegacy call.accountId db,
        if backfilledNow then .backfilledCleared else .alreadyVaultedCleared)
    else some (db, .error)

def migrateSecret (call : BackfillCall) (secret : String) (db : MetaDatabase) :
    Option (MetaDatabase × BackfillOutcome) :=
  match resolveProviderCredential call.env db.credentials call.query with
  | .error _ => some (db, .error)
  | .ok none =>
    (storeProviderCredential call.env db.credentials (call.input secret) call.draw call.now).bind
      fun stored => verifyAndClear call secret true { db with credentials := stored }
  | .ok (some vaulted) =>
    if call.fingerprint vaulted = call.fingerprint secret then verifyAndClear call secret false db
    else some (db, .error)

/-- The apply step. None if it throws and is rolled back. -/
def applyOne (call : BackfillCall) (db : MetaDatabase) : Option (MetaDatabase × BackfillOutcome) :=
  match db.findAccount call.tenantId call.accountId with
  | none => none
  | some account =>
    match legacySecret call.env call.accountId account with
    | .error _ => some (db, .error)
    | .ok none => some (db, .skippedNoToken)
    | .ok (some secret) => migrateSecret call secret db

inductive BackfillStage where
  | locked
  | checked
  | legacyRead (secret : String)
  | storing (secret : String)
  | verifying (secret : String) (backfilledNow : Bool)
  | clearing (backfilledNow : Bool)
  | returned (outcome : BackfillOutcome)

def storeWrite (env : VaultEnv) (input : StoreCredentialInput) (draw : CredentialDraw) (now : Int)
    (db : MetaDatabase) : MetaDatabase :=
  match storeProviderCredential env db.credentials input draw now with
  | some stored => { db with credentials := stored }
  | none => db

def backfillStatement (call : BackfillCall) (db : MetaDatabase) :
    BackfillStage → LockedSection.Statement MetaDatabase BackfillStage
  | .locked =>
    if (db.findAccount call.tenantId call.accountId).isSome then .proceed id .checked else .abort
  | .checked =>
    match (db.accounts.find? call.accountId).map (legacySecret call.env call.accountId) with
    | none => .proceed id (.returned .skippedNoToken)
    | some (.error _) => .proceed id (.returned .error)
    | some (.ok none) => .proceed id (.returned .skippedNoToken)
    | some (.ok (some secret)) => .proceed id (.legacyRead secret)
  | .legacyRead secret =>
    match resolveProviderCredential call.env db.credentials call.query with
    | .error _ => .proceed id (.returned .error)
    | .ok none => .proceed id (.storing secret)
    | .ok (some vaulted) =>
      if call.fingerprint vaulted = call.fingerprint secret then
        .proceed id (.verifying secret false)
      else .proceed id (.returned .error)
  | .storing secret =>
    if (storeProviderCredential call.env db.credentials (call.input secret) call.draw
        call.now).isSome then
      .proceed (storeWrite call.env (call.input secret) call.draw call.now) (.verifying secret true)
    else .abort
  | .verifying secret backfilledNow =>
    match resolveProviderCredential call.env db.credentials call.query with
    | .error _ => .abort
    | .ok none => .proceed id (.returned .error)
    | .ok (some check) =>
      if call.fingerprint check = call.fingerprint secret then
        .proceed id (.clearing backfilledNow)
      else .proceed id (.returned .error)
  | .clearing backfilledNow =>
    .proceed (clearLegacy call.accountId)
      (.returned (if backfilledNow then .backfilledCleared else .alreadyVaultedCleared))
  | .returned _ => .commit

end Tamanor.Db
