import Tamanor.Db.CredentialBackfill
import Tamanor.Db.CredentialVaultProperties
import Tamanor.Sync.MetaConnector

/-! The writers of an account's credential that share its lock: the backfill and any number
of connects. -/

set_option autoImplicit false

namespace Tamanor.Sync

open Tamanor.Core Db Library

inductive ConnectStage where
  | locked | storing | verifying | verified

def connectStatement (call : LinkCall) (id : String) (db : MetaDatabase) :
    ConnectStage → LockedSection.Statement MetaDatabase ConnectStage
  | .locked =>
    if (db.findAccount call.input.tenantId id).isSome then .proceed (fun db => db) .storing
    else .abort
  | .storing =>
    if (storeProviderCredential call.env db.credentials (call.input.credential id) (call.draw id)
        call.now).isSome then
      .proceed (storeWrite call.env (call.input.credential id) (call.draw id) call.now) .verifying
    else .abort
  | .verifying =>
    match resolveProviderCredential call.env db.credentials (call.input.credential id).query with
    | .ok (some check) =>
      if check = call.input.pageAccessToken then .proceed (fun db => db) .verified else .abort
    | _ => .abort
  | .verified => .commit

inductive CutoverStage where
  | backfill (call : BackfillCall) (stage : BackfillStage)
  | connect (call : LinkCall) (id : String) (stage : ConnectStage)

def cutoverStatement : CutoverStage → MetaDatabase →
    LockedSection.Statement MetaDatabase CutoverStage
  | .backfill call stage, db => (backfillStatement call db stage).map (.backfill call)
  | .connect call id stage, db => (connectStatement call id db stage).map (.connect call id)

abbrev CutoverState (ι : Type) := LockedSection.Shared MetaDatabase CutoverStage ι

abbrev CutoverAction (ι : Type) := LockedSection.Action ι CutoverStage

/-! What is promised of a step of the backfill. -/

def tokenAnswer (env : VaultEnv) (now : Int) (db : MetaDatabase) (tenantId id : String) :
    Except VaultError (Option String) :=
  match db.findAccount tenantId id with
  | none => .ok none
  | some account =>
    (resolveMetaAccessToken env db.credentials now (MetaDatabase.tokenAccount id account)).map
      (·.map (·.token))

/-- A step preserves the meaning of an account's credential: the resolver gives the same
answer, no revoked secret becomes usable, the legacy columns are only cleared beside an
active row with the same secret, and rows that decrypt are not overwritten. -/
structure PreservesMeaning (env : VaultEnv) (now : Int) (tenantId id : String)
    (before after : MetaDatabase) : Prop where
  answer : tokenAnswer env now after tenantId id = tokenAnswer env now before tenantId id
  revoked : ∀ rowId row secret, before.credentials.find? rowId = some row →
    row.revokedAt ≠ none → env.decrypt row row.owner = some secret →
    tokenAnswer env now after tenantId id = .ok (some secret) →
    tokenAnswer env now before tenantId id = .ok (some secret)
  cleared : ∀ account account', before.findAccount tenantId id = some account →
    after.findAccount tenantId id = some account' →
    (account'.longLivedToken, account'.accessToken) ≠ (account.longLivedToken, account.accessToken) →
    ∃ secret rowId row, legacySecret env id account = .ok (some secret) ∧
      findActive after.credentials (metaQuery tenantId id .longLivedToken) = some (rowId, row) ∧
      env.decrypt row (metaQuery tenantId id .longLivedToken) = some secret
  kept : ∀ rowId row secret, before.credentials.find? rowId = some row → row.revokedAt = none →
    env.decrypt row row.owner = some secret → after.credentials.find? rowId = some row

/-- Whether the backfill of an account may clear its legacy columns: an active row with the
fingerprint of the legacy secret holds that secret; or there is no active row and no revoked
one either, and the resolver takes the legacy secret: from an active row for the short-lived
token, or from the legacy columns where no such row is left and the fallback is on. -/
def MigrationSafe (call : BackfillCall) (now : Int) (db : MetaDatabase) : Prop :=
  ∀ account secret, db.findAccount call.tenantId call.accountId = some account →
    legacySecret call.env call.accountId account = .ok (some secret) →
    match findActive db.credentials call.query with
    | some (_, row) => ∀ vaulted, call.env.decrypt row call.query = some vaulted →
        call.fingerprint vaulted = call.fingerprint secret → vaulted = secret
    | none =>
      hasRevoked db.credentials call.query = false ∧
        match findActive db.credentials (metaQuery call.tenantId call.accountId .accessToken) with
        | some (_, row) =>
          call.env.decrypt row (metaQuery call.tenantId call.accountId .accessToken) = some secret ∧
            call.env.refusesExpiry now row.expiresAt = false
        | none =>
          hasRevoked db.credentials
              (metaQuery call.tenantId call.accountId .accessToken) = false ∧
            call.env.legacyFallbackEnabled = true

/-- The steps that a backfill takes preserve the meaning of the account's credential. -/
def BackfillStepPreserves {ι : Type} [DecidableEq ι] (now : Int) (state : CutoverState ι)
    (action : CutoverAction ι) : Prop :=
  ∀ party session call, action = .advance party → state.holder = some (party, session) →
    session.start = .backfill call .locked →
    PreservesMeaning call.env now call.tenantId call.accountId state.committed
      (LockedSection.step cutoverStatement state action).committed

def BackfillCommitSafe {ι : Type} [DecidableEq ι] (now : Int) (state : CutoverState ι)
    (action : CutoverAction ι) : Prop :=
  ∀ session call, LockedSection.Commits cutoverStatement state action session →
    session.start = .backfill call .locked → MigrationSafe call now state.committed

end Tamanor.Sync
