import Tamanor.Sync.CredentialCutover
import Tamanor.Sync.MetaConnectorProperties

/-! When the backfill preserves the meaning of a credential. Its transaction under the lock is
the function it stands for, and of that function it is then said what it does to the answer of
the resolver. -/

set_option autoImplicit false

namespace Tamanor.Sync

open Tamanor.Core Db Library

/-! The transaction runs as the function it stands for. -/

def resumeBackfill (call : BackfillCall) (db : MetaDatabase) :
    BackfillStage → Option (MetaDatabase × BackfillOutcome)
  | .locked => applyOne call db
  | .checked =>
    match (db.accounts.find? call.accountId).map (legacySecret call.env call.accountId) with
    | none => some (db, .skippedNoToken)
    | some (.error _) => some (db, .error)
    | some (.ok none) => some (db, .skippedNoToken)
    | some (.ok (some secret)) => migrateSecret call secret db
  | .legacyRead secret => migrateSecret call secret db
  | .storing secret =>
    (storeProviderCredential call.env db.credentials (call.input secret) call.draw call.now).bind
      fun stored => verifyAndClear call secret true { db with credentials := stored }
  | .verifying secret backfilledNow => verifyAndClear call secret backfilledNow db
  | .clearing backfilledNow =>
    some (clearLegacy call.accountId db,
      if backfilledNow then .backfilledCleared else .alreadyVaultedCleared)
  | .returned outcome => some (db, outcome)

theorem resumeBackfill_locked {call : BackfillCall} {db : MetaDatabase}
    (found : (db.findAccount call.tenantId call.accountId).isSome = true) :
    resumeBackfill call db .locked = resumeBackfill call db .checked := by
  obtain ⟨account, found⟩ := Option.isSome_iff_exists.mp found
  have stored := (MetaDatabase.findAccount_eq_some_iff.mp found).1
  simp only [resumeBackfill, applyOne, found, stored, Option.map_some]
  cases legacySecret call.env call.accountId account with
  | error err => rfl
  | ok secret => cases secret <;> rfl

theorem resumeBackfill_proceed {call : BackfillCall} {db : MetaDatabase} {stage next : BackfillStage}
    {change : MetaDatabase → MetaDatabase}
    (issued : backfillStatement call db stage = .proceed change next) :
    resumeBackfill call db stage = resumeBackfill call (change db) next := by
  cases stage with
  | locked =>
    rw [backfillStatement] at issued
    split at issued
    · next found =>
      cases issued
      exact resumeBackfill_locked found
    · cases issued
  | checked =>
    rw [backfillStatement] at issued
    rw [resumeBackfill]
    cases read : (db.accounts.find? call.accountId).map (legacySecret call.env call.accountId) with
    | none =>
      rw [read] at issued
      cases issued
      rfl
    | some legacy =>
      rw [read] at issued
      cases legacy with
      | error err =>
        cases issued
        rfl
      | ok secret =>
        cases secret with
        | none =>
          cases issued
          rfl
        | some secret =>
          cases issued
          rfl
  | legacyRead secret =>
    rw [backfillStatement] at issued
    rw [resumeBackfill, migrateSecret]
    cases read : resolveProviderCredential call.env db.credentials call.query with
    | error err =>
      rw [read] at issued
      cases issued
      rfl
    | ok vaulted =>
      rw [read] at issued
      cases vaulted with
      | none =>
        cases issued
        rfl
      | some vaulted =>
        dsimp only at issued ⊢
        split at issued
        next same =>
          cases issued
          exact if_pos same
        next different =>
          cases issued
          exact if_neg different
  | storing secret =>
    rw [backfillStatement] at issued
    split at issued
    · next succeeds =>
      cases issued
      obtain ⟨stored, written⟩ := Option.isSome_iff_exists.mp succeeds
      simp only [resumeBackfill, written, Option.bind_some, storeWrite]
    · cases issued
  | verifying secret backfilledNow =>
    rw [backfillStatement] at issued
    rw [resumeBackfill, verifyAndClear]
    cases read : resolveProviderCredential call.env db.credentials call.query with
    | error err =>
      rw [read] at issued
      cases issued
    | ok check =>
      rw [read] at issued
      cases check with
      | none =>
        cases issued
        rfl
      | some check =>
        dsimp only at issued ⊢
        split at issued
        next same =>
          cases issued
          exact if_pos same
        next different =>
          cases issued
          exact if_neg different
  | clearing backfilledNow =>
    cases issued
    rfl
  | returned outcome => cases issued

theorem executes_backfill {call : BackfillCall} {base : MetaDatabase} {stage : CutoverStage}
    {writes : MetaDatabase → MetaDatabase}
    (executes : LockedSection.Executes cutoverStatement (.backfill call .locked) base stage writes) :
    ∃ reached, stage = .backfill call reached ∧
      applyOne call base = resumeBackfill call (writes base) reached := by
  induction executes with
  | entered => exact ⟨.locked, rfl, rfl⟩
  | @proceeded stage next writes change _ issued ih =>
    obtain ⟨reached, rfl, same⟩ := ih
    rw [cutoverStatement] at issued
    cases statement : backfillStatement call (writes base) reached with
    | proceed written later =>
      rw [statement] at issued
      cases issued
      exact ⟨later, rfl, same.trans (resumeBackfill_proceed statement)⟩
    | commit =>
      rw [statement] at issued
      cases issued
    | abort =>
      rw [statement] at issued
      cases issued

theorem backfillStatement_commit {call : BackfillCall} {db : MetaDatabase} {stage : BackfillStage}
    (ended : backfillStatement call db stage = .commit) : ∃ outcome, stage = .returned outcome := by
  cases stage with
  | returned outcome => exact ⟨outcome, rfl⟩
  | clearing backfilledNow => cases ended
  | locked | storing _ =>
    rw [backfillStatement] at ended
    split at ended <;> cases ended
  | checked | legacyRead _ | verifying _ _ =>
    rw [backfillStatement] at ended
    repeat' split at ended
    all_goals cases ended

theorem applyOne_of_commits {call : BackfillCall} {base : MetaDatabase} {stage : CutoverStage}
    {writes : MetaDatabase → MetaDatabase}
    (executes : LockedSection.Executes cutoverStatement (.backfill call .locked) base stage writes)
    (ends : cutoverStatement stage (writes base) = .commit) :
    ∃ outcome, applyOne call base = some (writes base, outcome) := by
  obtain ⟨reached, rfl, same⟩ := executes_backfill executes
  rw [cutoverStatement] at ends
  cases statement : backfillStatement call (writes base) reached with
  | commit =>
    obtain ⟨outcome, rfl⟩ := backfillStatement_commit statement
    exact ⟨outcome, same⟩
  | proceed change next =>
    rw [statement] at ends
    cases ends
  | abort =>
    rw [statement] at ends
    cases ends

/-! What the apply step does to the answer of the resolver. -/

variable {env : VaultEnv} {now : Int} {tenantId id : String} {db : MetaDatabase}
  {account : ConnectedAccount} {secret : String}

theorem PreservesMeaning.refl : PreservesMeaning env now tenantId id db db where
  answer := rfl
  revoked _ _ _ _ _ _ same := same
  cleared account account' found found' different := by
    rw [found] at found'
    cases found'
    exact absurd rfl different
  kept _ _ _ found _ _ := found

theorem tokenAnswer_of_found (found : db.findAccount tenantId id = some account) :
    tokenAnswer env now db tenantId id =
      match probeVault env db.credentials now tenantId id metaPurposes with
      | .error err => .error err
      | .ok (some token) => .ok (some token)
      | .ok none =>
        if env.legacyFallbackEnabled then
          match legacySecret env id account with
          | .error err => .error (.legacy err)
          | .ok secret => .ok secret
        else .ok none := by
  have tenant := (MetaDatabase.findAccount_eq_some_iff.mp found).2
  simp only [tokenAnswer, found, resolveMetaAccessToken, MetaDatabase.tokenAccount, tenant,
    legacySecret]
  cases probeVault env db.credentials now tenantId id metaPurposes with
  | error err => rfl
  | ok token =>
    cases token with
    | some token => rfl
    | none =>
      cases env.legacyFallbackEnabled with
      | false => rfl
      | true =>
        simp only [if_true]
        cases legacyToken env ⟨id, tenantId, account.longLivedToken, account.accessToken⟩ with
        | error err => rfl
        | ok legacy =>
          have token (secret : Option String) :
              (secret.map fun token => ResolvedMetaToken.mk token .legacy).map (·.token) =
                secret := by
            cases secret <;> rfl
          exact congrArg Except.ok (token _)

theorem findAccount_clearLegacy (found : db.findAccount tenantId id = some account) :
    (clearLegacy id db).findAccount tenantId id =
      some { account with accessToken := none, longLivedToken := none } := by
  obtain ⟨stored, tenant⟩ := MetaDatabase.findAccount_eq_some_iff.mp found
  refine MetaDatabase.findAccount_eq_some_iff.mpr ⟨?_, tenant⟩
  rw [clearLegacy, Table.find?_modify, if_pos rfl, stored, Option.map_some]

theorem columns_ne_of_legacySecret (legacy : legacySecret env id account = .ok (some secret)) :
    ((none : Option String), (none : Option String)) ≠ (account.longLivedToken, account.accessToken) := by
  intro empty
  obtain ⟨longLived, access⟩ := Prod.mk.inj empty
  rw [legacySecret, legacyToken, MetaDatabase.tokenAccount, ← longLived, ← access] at legacy
  cases legacy

variable {rowId : String} {row : ProviderCredential}

theorem probeVault_ne_none {table : CredentialTable}
    (active : findActive table (metaQuery tenantId id .longLivedToken) = some (rowId, row)) :
    probeVault env table now tenantId id metaPurposes ≠ .ok none := by
  rw [metaPurposes, probeVault, resolveProviderCredentialOutcome, active]
  dsimp only
  cases env.decrypt row (metaQuery tenantId id .longLivedToken) with
  | none => exact fun same => by cases same
  | some token =>
    dsimp only
    split <;> exact fun same => by cases same

theorem tokenAnswer_clearLegacy (found : db.findAccount tenantId id = some account)
    (active : findActive db.credentials (metaQuery tenantId id .longLivedToken) = some (rowId, row)) :
    tokenAnswer env now (clearLegacy id db) tenantId id = tokenAnswer env now db tenantId id := by
  have answers : probeVault env db.credentials now tenantId id metaPurposes ≠ .ok none :=
    probeVault_ne_none active
  have kept : (clearLegacy id db).credentials = db.credentials := rfl
  rw [tokenAnswer_of_found found, tokenAnswer_of_found (findAccount_clearLegacy found), kept]
  cases probed : probeVault env db.credentials now tenantId id metaPurposes with
  | error err => rfl
  | ok token =>
    cases token with
    | some token => rfl
    | none => exact absurd probed answers

theorem preservesMeaning_clearLegacy {vaulted : String}
    (found : db.findAccount tenantId id = some account)
    (legacy : legacySecret env id account = .ok (some secret))
    (active : findActive db.credentials (metaQuery tenantId id .longLivedToken) = some (rowId, row))
    (opens : env.decrypt row (metaQuery tenantId id .longLivedToken) = some vaulted) :
    PreservesMeaning env now tenantId id db (clearLegacy id db) ↔ vaulted = secret := by
  constructor
  · intro preserves
    obtain ⟨secret', rowId', row', legacy', active', opens'⟩ :=
      preserves.cleared account _ found (findAccount_clearLegacy found)
        (columns_ne_of_legacySecret legacy)
    rw [legacy] at legacy'
    cases legacy'
    have same : findActive (clearLegacy id db).credentials (metaQuery tenantId id .longLivedToken) =
        some (rowId, row) := active
    rw [same] at active'
    cases active'
    rw [opens] at opens'
    exact Option.some.inj opens'
  · rintro rfl
    have answer : tokenAnswer env now (clearLegacy id db) tenantId id =
        tokenAnswer env now db tenantId id :=
      tokenAnswer_clearLegacy found active
    refine ⟨answer, fun _ _ _ _ _ _ after => answer ▸ after, ?_, fun _ _ _ found _ _ => found⟩
    intro known known' before after _
    rw [found] at before
    cases before
    exact ⟨vaulted, rowId, row, legacy, active, opens⟩

theorem find?_store_of_inactive {table stored : CredentialTable} {input : StoreCredentialInput}
    {draw : CredentialDraw} {clock : Int} (inactive : findActive table input.query = none)
    (succeeds : storeProviderCredential env table input draw clock = some stored)
    (known : table.find? rowId = some row) : stored.find? rowId = some row := by
  obtain ⟨key, -, written⟩ := Option.map_eq_some_iff.mp succeeds
  simp only [inactive] at written
  have fresh := find?_newId env table
  have apart : rowId ≠ env.newId (table.rows.map Prod.fst) := by
    rintro rfl
    rw [fresh] at known
    cases known
  rw [← written, Table.find?_insert _ fresh, if_neg apart, known]

theorem preservesMeaning_store {stored : CredentialTable} {input : StoreCredentialInput}
    {draw : CredentialDraw} {clock : Int}
    (found : db.findAccount tenantId id = some account)
    (legacy : legacySecret env id account = .ok (some secret))
    (owner : input.query = metaQuery tenantId id .longLivedToken) (holds : input.secret = secret)
    (ageless : input.expiresAt = none)
    (inactive : findActive db.credentials (metaQuery tenantId id .longLivedToken) = none)
    (succeeds : storeProviderCredential env db.credentials input draw clock = some stored) :
    PreservesMeaning env now tenantId id db (clearLegacy id { db with credentials := stored }) ↔
      tokenAnswer env now db tenantId id = .ok (some secret) := by
  have stores := stores_of_store succeeds
  have found' : MetaDatabase.findAccount { db with credentials := stored } tenantId id = some account :=
    found
  have after : tokenAnswer env now (clearLegacy id { db with credentials := stored }) tenantId id =
      .ok (some secret) := by
    have probed : probeVault env stored now tenantId id metaPurposes =
        if env.refusesExpiry now input.expiresAt then .error (.unusable .expired)
        else .ok (some input.secret) :=
      probeVault_of_stores stores owner
    have fresh : env.refusesExpiry now input.expiresAt = false := by
      rw [ageless]
      rfl
    rw [fresh, if_neg Bool.false_ne_true, holds] at probed
    rw [tokenAnswer_of_found (findAccount_clearLegacy found')]
    have kept : (clearLegacy id { db with credentials := stored }).credentials = stored := rfl
    rw [kept, probed]
  constructor
  · intro preserves
    exact preserves.answer.symm.trans after
  · intro before
    refine ⟨after.trans before.symm, fun _ _ _ _ _ _ same => ?_, ?_, fun _ _ _ known _ _ => ?_⟩
    · rw [after] at same
      exact same ▸ before
    · intro known known' beforeFound _ _
      rw [found] at beforeFound
      cases beforeFound
      obtain ⟨rowId, row, active, opens, -⟩ := stores.active
      rw [owner] at active opens
      exact ⟨secret, rowId, row, legacy, active, holds ▸ opens⟩
    · exact find?_store_of_inactive (owner ▸ inactive) succeeds known

theorem tokenAnswer_eq_legacy_iff (found : db.findAccount tenantId id = some account)
    (legacy : legacySecret env id account = .ok (some secret))
    (inactive : findActive db.credentials (metaQuery tenantId id .longLivedToken) = none) :
    tokenAnswer env now db tenantId id = .ok (some secret) ↔
      hasRevoked db.credentials (metaQuery tenantId id .longLivedToken) = false ∧
        match findActive db.credentials (metaQuery tenantId id .accessToken) with
        | some (_, row) =>
          env.decrypt row (metaQuery tenantId id .accessToken) = some secret ∧
            env.refusesExpiry now row.expiresAt = false
        | none =>
          hasRevoked db.credentials (metaQuery tenantId id .accessToken) = false ∧
            env.legacyFallbackEnabled = true := by
  rw [tokenAnswer_of_found found, metaPurposes, probeVault, resolveProviderCredentialOutcome, inactive]
  cases hasRevoked db.credentials (metaQuery tenantId id .longLivedToken) with
  | true => simp
  | false =>
    simp only [Bool.false_eq_true, if_false, true_and]
    rw [probeVault, resolveProviderCredentialOutcome]
    cases active : findActive db.credentials (metaQuery tenantId id .accessToken) with
    | some both =>
      obtain ⟨rowId, row⟩ := both
      dsimp only
      cases env.decrypt row (metaQuery tenantId id .accessToken) with
      | none => simp
      | some token =>
        cases refused : env.refusesExpiry now row.expiresAt with
        | true =>
          rw [VaultEnv.refusesExpiry] at refused
          simp [refused]
        | false =>
          rw [VaultEnv.refusesExpiry] at refused
          simp [refused]
    | none =>
      dsimp only
      cases hasRevoked db.credentials (metaQuery tenantId id .accessToken) with
      | true => simp
      | false =>
        cases env.legacyFallbackEnabled <;> simp [probeVault, legacy]

/-! When a whole apply step preserves the meaning of the credential. -/

variable {call : BackfillCall} {after : MetaDatabase} {outcome : BackfillOutcome}

section

variable (found : db.findAccount call.tenantId call.accountId = some account)
include found

theorem migrationSafe_iff
    (legacy : legacySecret call.env call.accountId account = .ok (some secret)) :
    MigrationSafe call now db ↔
      match findActive db.credentials call.query with
      | some (_, row) => ∀ vaulted, call.env.decrypt row call.query = some vaulted →
          call.fingerprint vaulted = call.fingerprint secret → vaulted = secret
      | none => tokenAnswer call.env now db call.tenantId call.accountId = .ok (some secret) := by
  have safe : MigrationSafe call now db ↔ _ :=
    ⟨fun safe => safe account secret found legacy, fun safe account' secret' found' legacy' => by
      rw [found] at found'
      cases found'
      rw [legacy] at legacy'
      cases legacy'
      exact safe⟩
  rw [safe]
  cases active : findActive db.credentials call.query with
  | some both => exact Iff.rfl
  | none => exact (tokenAnswer_eq_legacy_iff found legacy active).symm

theorem migrationSafe_of_no_secret
    (none : ∀ secret, legacySecret call.env call.accountId account ≠ .ok (some secret)) :
    MigrationSafe call now db := by
  intro account' secret found' legacy
  rw [found] at found'
  cases found'
  exact absurd legacy (none secret)

theorem preservesMeaning_migrate_active
    (legacy : legacySecret call.env call.accountId account = .ok (some secret))
    (active : findActive db.credentials call.query = some (rowId, row))
    (migrated : migrateSecret call secret db = some (after, outcome)) :
    PreservesMeaning call.env now call.tenantId call.accountId db after ↔
      ∀ vaulted, call.env.decrypt row call.query = some vaulted →
        call.fingerprint vaulted = call.fingerprint secret → vaulted = secret := by
  cases opens : call.env.decrypt row call.query with
  | none =>
    have read : resolveProviderCredential call.env db.credentials call.query =
        .error (.decryptFailed rowId) := by
      simp only [resolveProviderCredential, active, opens]
    rw [migrateSecret, read] at migrated
    cases migrated
    refine iff_of_true .refl ?_
    rintro vaulted ⟨⟩
  | some vaulted =>
    have read : resolveProviderCredential call.env db.credentials call.query = .ok (some vaulted) := by
      simp only [resolveProviderCredential, active, opens]
    simp only [migrateSecret, verifyAndClear, read] at migrated
    by_cases same : call.fingerprint vaulted = call.fingerprint secret
    · rw [if_pos same, if_pos same] at migrated
      cases migrated
      rw [preservesMeaning_clearLegacy found legacy active opens]
      constructor
      · rintro rfl other ⟨⟩ -
        rfl
      · intro identical
        exact identical vaulted rfl same
    · rw [if_neg same] at migrated
      cases migrated
      refine iff_of_true .refl ?_
      rintro other ⟨⟩ matched
      exact absurd matched same

theorem preservesMeaning_migrate_inactive
    (legacy : legacySecret call.env call.accountId account = .ok (some secret))
    (inactive : findActive db.credentials call.query = none)
    (migrated : migrateSecret call secret db = some (after, outcome)) :
    PreservesMeaning call.env now call.tenantId call.accountId db after ↔
      tokenAnswer call.env now db call.tenantId call.accountId = .ok (some secret) := by
  have read : resolveProviderCredential call.env db.credentials call.query = .ok none := by
    simp only [resolveProviderCredential, inactive]
  simp only [migrateSecret, read, Option.bind_eq_some_iff] at migrated
  obtain ⟨stored, succeeds, verified⟩ := migrated
  have reread := resolveProviderCredential_of_stores (stores_of_store succeeds)
  have holds : resolveProviderCredential call.env stored call.query = .ok (some secret) := reread
  simp only [verifyAndClear, holds, if_true] at verified
  cases verified
  exact preservesMeaning_store found legacy rfl rfl rfl inactive succeeds

end

theorem preservesMeaning_iff (applied : applyOne call db = some (after, outcome)) :
    PreservesMeaning call.env now call.tenantId call.accountId db after ↔
      MigrationSafe call now db := by
  rw [applyOne] at applied
  cases found : db.findAccount call.tenantId call.accountId with
  | none =>
    rw [found] at applied
    cases applied
  | some account =>
    rw [found] at applied
    dsimp only at applied
    cases legacy : legacySecret call.env call.accountId account with
    | error err =>
      rw [legacy] at applied
      cases applied
      refine iff_of_true .refl (migrationSafe_of_no_secret found ?_)
      rw [legacy]
      rintro secret ⟨⟩
    | ok secret =>
      rw [legacy] at applied
      cases secret with
      | none =>
        cases applied
        refine iff_of_true .refl (migrationSafe_of_no_secret found ?_)
        rw [legacy]
        rintro secret ⟨⟩
      | some secret =>
        rw [migrationSafe_iff found legacy]
        cases active : findActive db.credentials call.query with
        | some both => exact preservesMeaning_migrate_active found legacy active applied
        | none => exact preservesMeaning_migrate_inactive found legacy active applied

variable {ι : Type} [DecidableEq ι] {state : CutoverState ι} {action : CutoverAction ι}

/-- A step of a backfill preserves the meaning of the credential exactly if what it commits
over is safe to migrate; where it commits nothing, nothing changes. -/
theorem backfillStepPreserves_iff (sound : LockedSection.Sound cutoverStatement state) :
    BackfillStepPreserves now state action ↔ BackfillCommitSafe now state action := by
  rcases LockedSection.step_cases action sound with
    ⟨session, commits, executes, after⟩ | ⟨quiet, kept, -⟩
  · obtain ⟨⟨party, rfl, held⟩, ends⟩ := commits
    have applied (call : BackfillCall) (start : session.start = .backfill call .locked) :
        PreservesMeaning call.env now call.tenantId call.accountId state.committed
          (session.writes state.committed) ↔ MigrationSafe call now state.committed := by
      rw [start] at executes
      obtain ⟨outcome, applied⟩ := applyOne_of_commits executes ends
      exact preservesMeaning_iff applied
    constructor
    · rintro preserves other call ⟨⟨advancing, same, holding⟩, -⟩ start
      cases same
      rw [held] at holding
      cases holding
      have preserved := preserves party session call rfl held start
      rw [after] at preserved
      exact (applied call start).mp preserved
    · intro safe advancing other call same holding start
      cases same
      rw [held] at holding
      cases holding
      rw [after]
      exact (applied call start).mpr (safe session call ⟨⟨party, rfl, held⟩, ends⟩ start)
  · refine iff_of_true ?_ fun session call commits _ => absurd commits (quiet session)
    intro party session call _ _ _
    rw [kept]
    exact .refl

/-- In every run of backfills and connects that take the lock of the account, the backfills
preserve the meaning of its credential exactly if each commits over what is safe to migrate. -/
theorem backfillsPreserve_iff_commitSafe (now : Int) (db : MetaDatabase)
    (actions : List (CutoverAction ι)) :
    Runs.Meets (LockedSection.step cutoverStatement) (BackfillStepPreserves now) ⟨db, none⟩ actions ↔
      Runs.Meets (LockedSection.step cutoverStatement) (BackfillCommitSafe now) ⟨db, none⟩ actions :=
  Runs.meets_congr LockedSection.Sound.step backfillStepPreserves_iff (LockedSection.sound_free db)

/-! A credential that was revoked in the vault, with its secret still in a legacy column. -/

def revokedBackfill : BackfillCall where
  env := transparentEnv
  now := 0
  tenantId := "t1"
  accountId := "a1"
  draw := ⟨[], [], []⟩

def revokedCredential : ProviderCredential :=
  { (revokedBackfill.input "tok").created
      ((revokedBackfill.input "tok").encrypted transparentEnv ⟨"kek-local", "v1", []⟩ ⟨[], [], []⟩) with
    revokedAt := some 0 }

def revokedDatabase : MetaDatabase where
  accounts := Table.empty.insert "a1"
    { newAccount reconnectInput .facebookPage "p1" with longLivedToken := some "plain:v1:tok" }
  credentials := Table.empty.insert "c1" revokedCredential
  syncLeases := []

def revokedBackfillSteps : List (CutoverAction Unit) :=
  .enter () (.backfill revokedBackfill .locked) :: List.replicate 6 (.advance ())

/-- The backfill makes the revoked secret usable again. -/
theorem not_backfillsPreserve_of_revoked :
    ¬Runs.Meets (LockedSection.step cutoverStatement) (BackfillStepPreserves 0)
      ⟨revokedDatabase, none⟩ (revokedBackfillSteps ++ [.advance ()]) := by
  intro meets
  have entered : (Runs.run (LockedSection.step cutoverStatement) ⟨revokedDatabase, none⟩
      revokedBackfillSteps).holder.isSome = true := by
    decide +kernel
  obtain ⟨⟨party, session⟩, held⟩ := Option.isSome_iff_exists.mp entered
  have start : session.start = .backfill revokedBackfill .locked :=
    LockedSection.start_of_advances 6 (fun holding first => by cases first; rfl) held
  have answer := (meets.at_step party session revokedBackfill rfl held start).answer
  exact absurd answer (by decide +kernel)

end Tamanor.Sync
