import Tamanor.Sync.DisconnectProperties

/-! A disconnect against a connect of the same account. Each party takes one transaction
after the other, in any order between the two. The cleanup compares the legacy columns,
which a connect leaves as they are, so it cannot see a reconnect. -/

set_option autoImplicit false

namespace Tamanor.Sync

open Tamanor.Core Db Library

inductive DisconnectStage where
  | start
  | claimed (claim : DisconnectClaim)
  | revoked (claim : DisconnectClaim) (revoke : RevokeResult)
  | finished (result : DisconnectResult)
deriving DecidableEq

inductive LinkStage where
  | start
  | persisting (result : MetaLinkResult) (rest : List LinkTarget)
  | compensating (result : MetaLinkResult)
  | finished (outcome : LinkOutcome)
deriving DecidableEq

structure ReconnectRace where
  db : MetaDatabase
  disconnecting : DisconnectStage
  linking : LinkStage
  /-- The accounts whose credential the connect has stored. -/
  persisted : List String

inductive RaceParty where
  | disconnect | link

structure RaceCalls where
  disconnect : DisconnectCall
  link : LinkCall

namespace ReconnectRace

def start (db : MetaDatabase) : ReconnectRace := ⟨db, .start, .start, []⟩

def stepDisconnect (call : DisconnectCall) (race : ReconnectRace) : ReconnectRace :=
  match race.disconnecting with
  | .start =>
    match claimDisconnect call race.db with
    | none => { race with disconnecting := .finished disconnectNotFound }
    | some claim => { race with disconnecting := .claimed claim }
  | .claimed claim => { race with disconnecting := .revoked claim (revokeClaim call claim race.db) }
  | .revoked claim revoke =>
    let cleared := clearCluster call.tenantId claim revoke race.db
    { race with
      db := cleared
      disconnecting := .finished (disconnectResult call claim revoke (requestedRemoved call cleared)) }
  | .finished _ => race

def stepLink (call : LinkCall) (race : ReconnectRace) : ReconnectRace :=
  match race.linking with
  | .start =>
    match upsertAssets call race.db.accounts with
    | none => { race with linking := .finished .limitReached }
    | some (accounts, result) =>
      { race with
        db := { race.db with accounts := accounts }
        linking := .persisting result result.targets }
  | .persisting result [] => { race with linking := .finished (.linked result) }
  | .persisting result (target :: rest) =>
    match persistCredential call race.db target.id with
    | some persisted =>
      { race with
        db := persisted
        linking := .persisting result rest
        persisted := target.id :: race.persisted }
    | none => { race with linking := .compensating result }
  | .compensating result =>
    { race with
      db := compensate call result.targets race.db
      linking := .finished .credentialPersistError }
  | .finished _ => race

def step (calls : RaceCalls) (race : ReconnectRace) : RaceParty → ReconnectRace
  | .disconnect => race.stepDisconnect calls.disconnect
  | .link => race.stepLink calls.link

abbrev run (calls : RaceCalls) : ReconnectRace → List RaceParty → ReconnectRace :=
  Runs.run (step calls)

/-! Each party alone is the function of the source. -/

variable {calls : RaceCalls} {db : MetaDatabase}

theorem run_disconnect_alone (calls : RaceCalls) (db : MetaDatabase) :
    (run calls (start db) (List.replicate 3 .disconnect)).db =
        (disconnectAccount calls.disconnect [] [] db).1 ∧
      (run calls (start db) (List.replicate 3 .disconnect)).disconnecting =
        .finished (disconnectAccount calls.disconnect [] [] db).2 := by
  cases claimed : claimDisconnect calls.disconnect db with
  | none =>
    simp [List.replicate, run, Runs.run, step, stepDisconnect, start, claimed, disconnectAccount]
  | some claim =>
    simp [List.replicate, run, Runs.run, step, stepDisconnect, start, claimed, disconnectAccount,
      applyOthers]

theorem run_persisting_alone (calls : RaceCalls) (result : MetaLinkResult) (rest : List LinkTarget)
    (race : ReconnectRace) (reached : race.linking = .persisting result rest) :
    ∃ count, (run calls race (List.replicate count .link)).db =
        (match persistAll calls.link race.db rest with
          | (persisted, true) => persisted
          | (persisted, false) => compensate calls.link result.targets persisted) ∧
      (run calls race (List.replicate count .link)).linking =
        .finished (if (persistAll calls.link race.db rest).2 then .linked result
          else .credentialPersistError) := by
  induction rest generalizing race with
  | nil =>
    refine ⟨1, ?_⟩
    simp [List.replicate, run, Runs.run, step, stepLink, reached, persistAll]
  | cons target rest ih =>
    cases persists : persistCredential calls.link race.db target.id with
    | none =>
      refine ⟨2, ?_⟩
      simp [List.replicate, run, Runs.run, step, stepLink, reached, persistAll, persists]
    | some persisted =>
      have steps : step calls race .link = { race with
          db := persisted
          linking := .persisting result rest
          persisted := target.id :: race.persisted } := by
        simp only [step, stepLink, reached, persists]
      obtain ⟨count, same⟩ := ih _ (congrArg ReconnectRace.linking steps)
      refine ⟨count + 1, ?_⟩
      have continues : run calls race (List.replicate (count + 1) .link) =
          run calls (step calls race .link) (List.replicate count .link) := rfl
      rw [continues, same.1, same.2, steps, persistAll, persists]
      exact ⟨rfl, rfl⟩

theorem run_link_alone (calls : RaceCalls) (db : MetaDatabase) :
    ∃ count, (run calls (start db) (List.replicate count .link)).db =
        (linkMetaAssets calls.link db).1 ∧
      (run calls (start db) (List.replicate count .link)).linking =
        .finished (linkMetaAssets calls.link db).2 := by
  cases upserted : upsertAssets calls.link db.accounts with
  | none =>
    refine ⟨1, ?_⟩
    simp [List.replicate, run, Runs.run, step, stepLink, start, upserted, linkMetaAssets]
  | some both =>
    obtain ⟨accounts, result⟩ := both
    have steps : step calls (start db) .link = { start db with
        db := { db with accounts := accounts }
        linking := .persisting result result.targets } := by
      simp only [step, stepLink, start, upserted]
    obtain ⟨count, same⟩ := run_persisting_alone calls result result.targets _
      (congrArg ReconnectRace.linking steps)
    refine ⟨count + 1, ?_⟩
    have continues : run calls (start db) (List.replicate (count + 1) .link) =
        run calls (step calls (start db) .link) (List.replicate count .link) := rfl
    rw [continues, same.1, same.2, steps, linkMetaAssets, upserted]
    dsimp only
    cases persistAll calls.link { db with accounts := accounts } result.targets with
    | mk persisted ended => cases ended <;> exact ⟨rfl, rfl⟩

/-- The claim is made at the end of `before`, and the cleanup at the end of `between`; in
between, the connect commits its upsert and the credential of the account. -/
structure ReconnectsBetween (calls : RaceCalls) (db : MetaDatabase) (before between : List RaceParty) :
    Prop where
  unclaimed : (run calls (start db) before).disconnecting = .start
  unlinked : (run calls (start db) before).linking = .start
  persisted : calls.disconnect.accountId ∈
    (run calls (start db) (before ++ .disconnect :: between)).persisted
  cleansNext : ∃ claim revoke,
    (run calls (start db) (before ++ .disconnect :: between)).disconnecting = .revoked claim revoke

def BothFinished (race : ReconnectRace) : Prop :=
  (∃ result, race.disconnecting = .finished result) ∧ ∃ outcome, race.linking = .finished outcome

def Reconnected (calls : RaceCalls) (now : Int) (race : ReconnectRace) : Prop :=
  (∃ account, race.db.findAccount calls.disconnect.tenantId calls.disconnect.accountId = some account ∧
    account.status = .active ∧ account.connectionStatus = .connected) ∧
  race.db.token? calls.link.env now calls.disconnect.tenantId calls.disconnect.accountId =
    some calls.link.input.pageAccessToken

/-- A reconnect between the claim and the cleanup of a run survives it. -/
def NeverClobbers (calls : RaceCalls) (db : MetaDatabase) (now : Int) (schedule : List RaceParty) :
    Prop :=
  ∀ before between after, schedule = before ++ .disconnect :: between ++ .disconnect :: after →
    ReconnectsBetween calls db before between → BothFinished (run calls (start db) schedule) →
    Reconnected calls now (run calls (start db) schedule)

/-- No reconnect falls between the claim and the cleanup of a run that both parties finish. -/
def NeverReconnectsBetween (calls : RaceCalls) (db : MetaDatabase) (schedule : List RaceParty) : Prop :=
  ∀ before between after, schedule = before ++ .disconnect :: between ++ .disconnect :: after →
    BothFinished (run calls (start db) schedule) → ¬ReconnectsBetween calls db before between

/-! What a connect changes of an account that exists. -/

variable {call : LinkCall} {tenantId id : String} {account : ConnectedAccount}
  {race : ReconnectRace}

def Keeps (account : ConnectedAccount) (stored : Option ConnectedAccount) : Prop :=
  ∃ kept, stored = some kept ∧ kept.tenantId = account.tenantId ∧ SameColumns kept account

theorem keeps_of_upserts {accounts : AccountTable} {input : MetaLinkInput} {platform : Platform}
    {change : ConnectedAccount → ConnectedAccount} {upserted : Upserted}
    (upserts : UpsertsAsset accounts input platform change upserted)
    (changes : ∀ account, (change account).tenantId = account.tenantId ∧
      SameColumns (change account) account)
    (found : accounts.find? id = some account) : Keeps account (upserted.accounts.find? id) := by
  by_cases touched : id = upserted.id
  · subst touched
    obtain ⟨base, same, stored, -⟩ := upserts.base
    rw [found, Option.getD_some] at same
    subst same
    exact ⟨_, stored, changes account⟩
  · rw [upserts.others id touched]
    exact ⟨account, found, rfl, rfl, rfl⟩

theorem keeps_of_upsertAssets {before after : AccountTable} {result : MetaLinkResult}
    (upserted : upsertAssets call before = some (after, result))
    (found : before.find? id = some account) : Keeps account (after.find? id) := by
  obtain ⟨page, pageUpserts, rest⟩ := upsertAssets_cases upserted
  have pageKeeps := keeps_of_upserts pageUpserts (fun _ => ⟨rfl, rfl, rfl⟩) found
  rcases rest with rfl | ⟨instagram, instagramUpserts, rfl⟩
  · exact pageKeeps
  · obtain ⟨middle, stored, tenant, same⟩ := pageKeeps
    obtain ⟨last, storedLast, tenantLast, sameLast⟩ :=
      keeps_of_upserts instagramUpserts (fun _ => ⟨rfl, rfl, rfl⟩) stored
    exact ⟨last, storedLast, tenantLast.trans tenant, sameLast.1.trans same.1,
      sameLast.2.trans same.2⟩

theorem persistCredential_accounts {db after : MetaDatabase}
    (persists : persistCredential call db id = some after) : after.accounts = db.accounts := by
  unfold persistCredential at persists
  split at persists
  · cases persists
  · split at persists
    · cases persists
    · obtain ⟨stored, -, verified⟩ := Option.bind_eq_some_iff.mp persists
      unfold verifyCredential at verified
      split at verified
      · split at verified
        · cases verified
          rfl
        · cases verified
      · cases verified

theorem find?_downgrade (tenantId : String) (ids : List String) (accounts : AccountTable)
    (found : accounts.find? id = some account) :
    ∃ kept, (downgrade tenantId ids accounts).find? id = some kept ∧
      kept.tenantId = account.tenantId ∧ SameColumns kept account ∧ kept.status = account.status := by
  rw [downgrade, Table.find?_updateWhere, found, Option.map_some]
  refine ⟨_, rfl, ?_⟩
  split <;> exact ⟨rfl, ⟨rfl, rfl⟩, rfl⟩

/-- A step of the connect keeps an account and its legacy columns, and past the upsert also
its status. -/
theorem stepLink_keeps (call : LinkCall) (found : race.db.accounts.find? id = some account) :
    ∃ kept, (race.stepLink call).db.accounts.find? id = some kept ∧
      kept.tenantId = account.tenantId ∧ SameColumns kept account ∧
      (race.linking ≠ .start → kept.status = account.status) := by
  have unchanged : ∃ kept, race.db.accounts.find? id = some kept ∧
      kept.tenantId = account.tenantId ∧ SameColumns kept account ∧
      (race.linking ≠ .start → kept.status = account.status) :=
    ⟨account, found, rfl, ⟨rfl, rfl⟩, fun _ => rfl⟩
  unfold stepLink
  cases reached : race.linking with
  | start =>
    dsimp only
    cases upserted : upsertAssets call race.db.accounts with
    | none => exact ⟨account, found, rfl, ⟨rfl, rfl⟩, fun left => absurd rfl left⟩
    | some both =>
      obtain ⟨kept, stored, tenant, same⟩ := keeps_of_upsertAssets upserted found
      exact ⟨kept, stored, tenant, same, fun left => absurd rfl left⟩
  | persisting result rest =>
    rw [reached] at unchanged
    cases rest with
    | nil => exact unchanged
    | cons target rest =>
      dsimp only
      cases persists : persistCredential call race.db target.id with
      | none => exact unchanged
      | some persisted =>
        dsimp only
        rw [persistCredential_accounts persists]
        exact unchanged
  | compensating result =>
    rw [reached] at unchanged
    dsimp only
    unfold compensate
    split
    · exact unchanged
    · obtain ⟨kept, stored, tenant, same, status⟩ := find?_downgrade call.input.tenantId
        ((result.targets.filter (·.isNew)).map (·.id))
        race.db.accounts found
      exact ⟨kept, stored, tenant, same, fun _ => status⟩
  | finished outcome =>
    rw [reached] at unchanged
    exact unchanged

/-! A run from the claim to the cleanup, and on. -/

/-- From a claim on: until the cleanup has run, the account has the columns of the claim. -/
def AwaitsCleanup (known : ConnectedAccount) (claim : DisconnectClaim) (id : String)
    (race : ReconnectRace) : Prop :=
  ((∃ result, race.disconnecting = .finished result) ∨ race.disconnecting = .claimed claim ∨
      ∃ revoke, race.disconnecting = .revoked claim revoke) ∧
    ((∃ result, race.disconnecting = .finished result) ∨ Keeps known (race.db.accounts.find? id))

variable {known : ConnectedAccount} {claim : DisconnectClaim} {party : RaceParty}

theorem awaitsCleanup_step (awaits : AwaitsCleanup known claim id race) :
    AwaitsCleanup known claim id (step calls race party) := by
  obtain ⟨stage, kept⟩ := awaits
  cases party with
  | disconnect =>
    rcases stage with ⟨result, stage⟩ | stage | ⟨revoke, stage⟩
    · have idles : step calls race .disconnect = race := by
        simp only [step, stepDisconnect, stage]
      rw [idles]
      exact ⟨.inl ⟨result, stage⟩, kept⟩
    · rcases kept with ⟨result, finished⟩ | kept
      · rw [stage] at finished
        cases finished
      · simp only [AwaitsCleanup, step, stepDisconnect, stage]
        exact ⟨.inr (.inr ⟨_, rfl⟩), .inr kept⟩
    · simp only [AwaitsCleanup, step, stepDisconnect, stage]
      exact ⟨.inl ⟨_, rfl⟩, .inl ⟨_, rfl⟩⟩
  | link =>
    have same : (step calls race .link).disconnecting = race.disconnecting := by
      rw [step, stepLink]
      repeat' split
      all_goals rfl
    rw [AwaitsCleanup, same]
    refine ⟨stage, kept.imp_right fun kept => ?_⟩
    obtain ⟨account, found, tenant, columns⟩ := kept
    obtain ⟨later, stored, tenantLater, columnsLater, -⟩ := stepLink_keeps calls.link found
    exact ⟨later, stored, tenantLater.trans tenant, columnsLater.1.trans columns.1,
      columnsLater.2.trans columns.2⟩

/-- From the cleanup on: the account stays disconnected, since the upsert lies behind. -/
structure Clobbered (tenantId id : String) (race : ReconnectRace) : Prop where
  finished : ∃ result, race.disconnecting = .finished result
  upserted : race.linking ≠ .start
  disconnected : ∃ account, race.db.accounts.find? id = some account ∧
    account.tenantId = tenantId ∧ account.status = .disconnected

theorem linking_ne_start_of_step (calls : RaceCalls) (party : RaceParty)
    (upserted : race.linking ≠ .start) :
    (step calls race party).linking ≠ .start := by
  cases party with
  | disconnect =>
    rw [step, stepDisconnect]
    repeat' split
    all_goals exact upserted
  | link =>
    rw [step, stepLink]
    repeat' split
    all_goals first
      | exact absurd ‹race.linking = .start› upserted
      | exact upserted
      | exact fun same => by cases same

theorem clobbered_step (clobbered : Clobbered tenantId id race) :
    Clobbered tenantId id (step calls race party) := by
  have upserted := linking_ne_start_of_step calls party clobbered.upserted
  obtain ⟨result, finished⟩ := clobbered.finished
  cases party with
  | disconnect =>
    have idles : step calls race .disconnect = race := by
      simp only [step, stepDisconnect, finished]
    rw [idles]
    exact clobbered
  | link =>
    have same : (step calls race .link).disconnecting = race.disconnecting := by
      rw [step, stepLink]
      repeat' split
      all_goals rfl
    obtain ⟨account, found, tenant, status⟩ := clobbered.disconnected
    obtain ⟨later, stored, tenantLater, -, statusLater⟩ := stepLink_keeps calls.link found
    exact ⟨⟨result, same.trans finished⟩, upserted,
      later, stored, tenantLater.trans tenant, (statusLater clobbered.upserted).trans status⟩

theorem finished_step {result : DisconnectResult}
    (finished : race.disconnecting = .finished result) :
    (step calls race party).disconnecting = .finished result := by
  cases party with
  | disconnect => rw [step, stepDisconnect, finished]; exact finished
  | link =>
    rw [step, stepLink]
    repeat' split
    all_goals exact finished

theorem persisted_eq_nil_step (unlinked : race.linking = .start → race.persisted = []) :
    (step calls race party).linking = .start → (step calls race party).persisted = [] := by
  cases party with
  | disconnect =>
    rw [step, stepDisconnect]
    repeat' split
    all_goals exact unlinked
  | link =>
    rw [step, stepLink]
    repeat' split
    all_goals first
      | exact unlinked
      | exact fun same => by cases same

theorem finished_run {result : DisconnectResult} (finished : race.disconnecting = .finished result)
    (schedule : List RaceParty) : (run calls race schedule).disconnecting = .finished result :=
  @Runs.invariant_run _ _ (step calls) (fun race => race.disconnecting = .finished result) race
    finished_step schedule finished

theorem awaitsCleanup_run (awaits : AwaitsCleanup known claim id race) (schedule : List RaceParty) :
    AwaitsCleanup known claim id (run calls race schedule) :=
  Runs.invariant_run awaitsCleanup_step schedule awaits

theorem clobbered_run (clobbered : Clobbered tenantId id race) (schedule : List RaceParty) :
    Clobbered tenantId id (run calls race schedule) :=
  Runs.invariant_run clobbered_step schedule clobbered

theorem linking_ne_start_of_persisted {schedule : List RaceParty}
    (persisted : id ∈ (run calls (start db) schedule).persisted) :
    (run calls (start db) schedule).linking ≠ .start := by
  intro unlinked
  have empty := @Runs.invariant_run _ _ (step calls)
    (fun race => race.linking = .start → race.persisted = []) (start db) persisted_eq_nil_step schedule
    (fun _ => rfl) unlinked
  rw [run, empty] at persisted
  cases persisted

theorem awaitsCleanup_of_claim (unclaimed : race.disconnecting = .start)
    (claimed : claimDisconnect calls.disconnect race.db = some claim)
    (stored : race.db.accounts.find? id = some known) :
    AwaitsCleanup known claim id (step calls race .disconnect) := by
  have claims : step calls race .disconnect = { race with disconnecting := .claimed claim } := by
    simp only [step, stepDisconnect, unclaimed, claimed]
  rw [claims]
  exact ⟨.inr (.inl rfl), .inr ⟨known, stored, rfl, rfl, rfl⟩⟩

theorem clobbered_of_cleanup {claiming : MetaDatabase} {made : DisconnectClaim}
    {revoke : RevokeResult} (claimed : claimDisconnect calls.disconnect claiming = some made)
    (found : claiming.findAccount calls.disconnect.tenantId calls.disconnect.accountId = some known)
    (awaits : AwaitsCleanup known made calls.disconnect.accountId race)
    (cleansNext : race.disconnecting = .revoked claim revoke) (upserted : race.linking ≠ .start) :
    Clobbered calls.disconnect.tenantId calls.disconnect.accountId (step calls race .disconnect) := by
  obtain ⟨stage, kept⟩ := awaits
  rw [cleansNext] at stage kept
  obtain rfl : claim = made := by
    rcases stage with ⟨result, same⟩ | same | ⟨other, same⟩
    · cases same
    · cases same
    · cases same
      rfl
  obtain ⟨account, present, tenant, columns⟩ : Keeps known
      (race.db.accounts.find? calls.disconnect.accountId) := by
    rcases kept with ⟨result, same⟩ | kept
    · cases same
    · exact kept
  have ownTenant := tenant.trans (MetaDatabase.findAccount_eq_some_iff.mp found).2
  have member : calls.disconnect.accountId ∈ claim.clusterIds := by
    obtain ⟨requested, -, rfl⟩ := Option.map_eq_some_iff.mp claimed
    obtain ⟨row, listed, same⟩ :=
      self_mem_cluster claiming calls.disconnect.tenantId calls.disconnect.accountId requested
    exact List.mem_map.mpr ⟨row, listed, same⟩
  have matched := (any_claims_iff claimed found member ownTenant).mpr columns
  have cleans : step calls race .disconnect = { race with
      db := clearCluster calls.disconnect.tenantId claim revoke race.db
      disconnecting := .finished (disconnectResult calls.disconnect claim revoke
        (requestedRemoved calls.disconnect
          (clearCluster calls.disconnect.tenantId claim revoke race.db))) } := by
    simp only [step, stepDisconnect, cleansNext]
  rw [cleans]
  refine ⟨⟨_, rfl⟩, upserted, revoke.clearData account, ?_, ownTenant, rfl⟩
  rw [clearCluster, find?_clearRows, present, Option.map_some, matched, if_pos rfl]

theorem clobbered_of_reconnectsBetween {before between : List RaceParty}
    (reconnects : ReconnectsBetween calls db before between) (after : List RaceParty) :
    Clobbered calls.disconnect.tenantId calls.disconnect.accountId
      (run calls (start db) (before ++ .disconnect :: between ++ .disconnect :: after)) := by
  obtain ⟨unclaimed, -, persisted, claim, revoke, cleansNext⟩ := reconnects
  have upserted := linking_ne_start_of_persisted persisted
  have claims : run calls (start db) (before ++ .disconnect :: between) =
      run calls (step calls (run calls (start db) before) .disconnect) between :=
    Runs.run_append before _
  have cleans : run calls (start db) (before ++ .disconnect :: between ++ .disconnect :: after) =
      run calls (step calls (run calls (start db) (before ++ .disconnect :: between)) .disconnect)
        after :=
    Runs.run_append (before ++ .disconnect :: between) _
  rw [cleans]
  refine clobbered_run ?_ after
  rw [claims] at cleansNext upserted ⊢
  generalize run calls (start db) before = claiming at unclaimed cleansNext upserted ⊢
  cases claimed : claimDisconnect calls.disconnect claiming.db with
  | none =>
    have finished : (step calls claiming .disconnect).disconnecting = .finished disconnectNotFound := by
      simp only [step, stepDisconnect, unclaimed, claimed]
    rw [finished_run finished between] at cleansNext
    cases cleansNext
  | some made =>
    obtain ⟨known, found, -⟩ := Option.map_eq_some_iff.mp claimed
    have stored := (MetaDatabase.findAccount_eq_some_iff.mp found).1
    have awaits : AwaitsCleanup known made calls.disconnect.accountId
        (run calls (step calls claiming .disconnect) between) :=
      awaitsCleanup_run (awaitsCleanup_of_claim unclaimed claimed stored) between
    exact clobbered_of_cleanup claimed found awaits cleansNext upserted

/-- A reconnect between the claim and the cleanup never survives: the promise holds of a run
only if none falls there. -/
theorem neverClobbers_iff_neverReconnectsBetween (calls : RaceCalls) (db : MetaDatabase) (now : Int)
    (schedule : List RaceParty) :
    NeverClobbers calls db now schedule ↔ NeverReconnectsBetween calls db schedule := by
  constructor
  · intro preserved before between after ordered finished reconnects
    obtain ⟨⟨account, found, active, -⟩, -⟩ :=
      preserved before between after ordered reconnects finished
    obtain ⟨-, -, stored, present, -, disconnected⟩ := clobbered_of_reconnectsBetween reconnects after
    rw [← ordered] at present
    rw [(MetaDatabase.findAccount_eq_some_iff.mp found).1] at present
    cases present
    rw [active] at disconnected
    cases disconnected
  · intro never before between after ordered reconnects finished
    exact absurd reconnects (never before between after ordered finished)

/-! A reconnect while the provider is asked to revoke the token. -/

def vaultedPageRace : RaceCalls where
  disconnect := vaultedPageDisconnect
  link := { failingReconnect with persistFails := fun _ => false }

def vaultedPageClaim : DisconnectClaim where
  account := metaConnectedAccountFields reconnectInput (newAccount reconnectInput .facebookPage "p1")
  cluster := [⟨"a1", .facebookPage, none, none⟩]

/-- The cleanup disconnects the account that was reconnected after the claim. -/
theorem not_neverClobbers_of_vaulted :
    ¬NeverClobbers vaultedPageRace vaultedPageDatabase 0
      [.disconnect, .link, .link, .link, .disconnect, .disconnect] := by
  intro preserved
  have reconnects : ReconnectsBetween vaultedPageRace vaultedPageDatabase []
      [.link, .link, .link, .disconnect] :=
    ⟨rfl, rfl, by decide +kernel, vaultedPageClaim, .unsupported, by decide +kernel⟩
  have finished : BothFinished (run vaultedPageRace (start vaultedPageDatabase)
      [.disconnect, .link, .link, .link, .disconnect, .disconnect]) :=
    ⟨⟨disconnectResult vaultedPageDisconnect vaultedPageClaim .unsupported true, by decide +kernel⟩,
      .linked ⟨"a1", none, true, false⟩, by decide +kernel⟩
  obtain ⟨⟨account, found, active, -⟩, -⟩ := preserved [] _ [] rfl reconnects finished
  have kept : ((run vaultedPageRace (start vaultedPageDatabase)
      [.disconnect, .link, .link, .link, .disconnect, .disconnect]).db.findAccount "t1" "a1").any
        (·.status == .active) = true := by
    rw [show (run vaultedPageRace _ _).db.findAccount "t1" "a1" = some account from found]
    exact beq_iff_eq.mpr active
  exact absurd kept (by decide +kernel)

end ReconnectRace

end Tamanor.Sync
