import Tamanor.Sync.Disconnect
import Tamanor.Sync.MetaConnectorProperties

/-! When a disconnect removes the credentials of a cluster. The cleanup clears the legacy
columns of every account of it, and leaves the vault as it is. -/

set_option autoImplicit false

namespace Tamanor.Sync

open Tamanor.Core Db Library

variable {row : ClusterRow}

theorem mem_of_mem_dedupeById {seen : List String} {rows : List ClusterRow}
    (member : row ∈ dedupeById seen rows) : row ∈ rows := by
  induction rows generalizing seen with
  | nil => cases member
  | cons first rest ih =>
    rw [dedupeById] at member
    split at member
    · exact List.mem_cons_of_mem _ (ih member)
    · rcases List.mem_cons.mp member with rfl | member
      · exact List.mem_cons_self
      · exact List.mem_cons_of_mem _ (ih member)

theorem exists_mem_dedupeById (seen : List String) {rows : List ClusterRow} (member : row ∈ rows) :
    row.id ∈ seen ∨ ∃ kept ∈ dedupeById seen rows, kept.id = row.id := by
  induction rows generalizing seen with
  | nil => cases member
  | cons first rest ih =>
    rw [dedupeById]
    rcases List.mem_cons.mp member with rfl | member
    · split
      next known => exact .inl (List.contains_iff_mem.mp known)
      next => exact .inr ⟨row, List.mem_cons_self, rfl⟩
    · split
      next => exact ih seen member
      next =>
        rcases ih (first.id :: seen) member with known | ⟨kept, present, same⟩
        · rcases List.mem_cons.mp known with same | known
          · exact .inr ⟨first, List.mem_cons_self, same.symm⟩
          · exact .inl known
        · exact .inr ⟨kept, List.mem_cons_of_mem _ present, same⟩

variable {db : MetaDatabase} {tenantId id : String} {account : ConnectedAccount}

theorem find?_of_mem_cluster (found : db.findAccount tenantId id = some account)
    (member : row ∈ resolveTokenCluster db tenantId id account) :
    ∃ known, db.findAccount tenantId row.id = some known ∧ row = clusterRow row.id known := by
  have self : ∃ known, db.findAccount tenantId (clusterRow id account).id = some known ∧
      clusterRow id account = clusterRow (clusterRow id account).id known := ⟨account, found, rfl⟩
  have listed {page : String} (present : row ∈ ((db.findAccount tenantId page).map (clusterRow page)).toList ++
      igChildren db tenantId page) :
      ∃ known, db.findAccount tenantId row.id = some known ∧ row = clusterRow row.id known := by
    rcases List.mem_append.mp present with anchor | child
    · obtain ⟨known, stored, rfl⟩ := Option.map_eq_some_iff.mp (Option.mem_toList.mp anchor)
      exact ⟨known, stored, rfl⟩
    · obtain ⟨⟨childId, known⟩, selected, rfl⟩ := List.mem_map.mp child
      obtain ⟨stored, tests⟩ := List.mem_filter.mp selected
      simp only [Bool.and_eq_true, beq_iff_eq] at tests
      have located : db.findAccount tenantId childId = some known :=
        MetaDatabase.findAccount_eq_some_iff.mpr ⟨Table.find?_eq_some_iff.mpr stored, tests.1.1⟩
      exact ⟨known, located, rfl⟩
  unfold resolveTokenCluster at member
  dsimp only at member
  split at member
  · split at member
    · rw [List.mem_singleton.mp member]
      exact self
    · have present := mem_of_mem_dedupeById member
      split at present
      · exact listed present
      · rcases List.mem_append.mp present with present | last
        · exact listed present
        · rw [List.mem_singleton.mp last]
          exact self
  · rw [List.mem_singleton.mp member]
    exact self

theorem self_mem_cluster (db : MetaDatabase) (tenantId id : String) (account : ConnectedAccount) :
    ∃ row ∈ resolveTokenCluster db tenantId id account, row.id = id := by
  have self : ∃ row ∈ [clusterRow id account], row.id = id :=
    ⟨clusterRow id account, List.mem_singleton_self _, rfl⟩
  unfold resolveTokenCluster
  dsimp only
  split
  · split
    · exact self
    · next page _ =>
      generalize ((db.findAccount tenantId page).map (clusterRow page)).toList ++
        igChildren db tenantId page = rows
      have present : ∃ row ∈ if rows.any (·.id == id) then rows else rows ++ [clusterRow id account],
          row.id = id := by
        split
        next known =>
          obtain ⟨row, member, same⟩ := List.any_eq_true.mp known
          exact ⟨row, member, beq_iff_eq.mp same⟩
        next => exact ⟨clusterRow id account, by simp, rfl⟩
      obtain ⟨row, member, rfl⟩ := present
      rcases exists_mem_dedupeById [] member with known | kept
      · cases known
      · exact kept
  · exact self

def ColumnsFree (account : ConnectedAccount) : Prop :=
  account.longLivedToken = none ∧ account.accessToken = none

def SameColumns (account other : ConnectedAccount) : Prop :=
  account.longLivedToken = other.longLivedToken ∧ account.accessToken = other.accessToken

theorem RevokeResult.clearData_clearData (revoke : RevokeResult) (account : ConnectedAccount) :
    revoke.clearData (revoke.clearData account) = revoke.clearData account := rfl

theorem find?_clearRows (tenantId : String) (revoke : RevokeResult) (cluster : List ClusterRow) (accounts : AccountTable)
    (id : String) :
    (cluster.foldl (clearRow tenantId revoke) accounts).find? id =
      (accounts.find? id).map fun account =>
        if cluster.any fun row => row.claims tenantId id account then revoke.clearData account
        else account := by
  induction cluster generalizing accounts with
  | nil => simp
  | cons row rest ih =>
    rw [List.foldl_cons, ih, clearRow, Table.find?_updateWhere, Option.map_map]
    congr 1
    funext account
    dsimp only [Function.comp]
    by_cases claims : row.claims tenantId id account = true
    · simp [claims, RevokeResult.clearData_clearData]
    · simp [claims]

theorem findAccount_clearCluster (claim : DisconnectClaim) (revoke : RevokeResult)
    (db : MetaDatabase) (id : String) :
    (clearCluster tenantId claim revoke db).findAccount tenantId id =
      (db.findAccount tenantId id).map fun account =>
        if claim.cluster.any fun row => row.claims tenantId id account then revoke.clearData account
        else account := by
  have cleared := find?_clearRows tenantId revoke claim.cluster db.accounts id
  unfold MetaDatabase.findAccount clearCluster
  dsimp only
  rw [cleared]
  cases db.accounts.find? id with
  | none => rfl
  | some account =>
    have tenant : (if claim.cluster.any fun row => row.claims tenantId id account then
        revoke.clearData account else account).tenantId = account.tenantId := by
      split <;> rfl
    simp only [Option.map_some, Option.filter_some, tenant]
    cases account.tenantId == tenantId <;> rfl

theorem claims_iff {known : ConnectedAccount} (read : row = clusterRow row.id known)
    (tenant : account.tenantId = tenantId) :
    row.claims tenantId id account = true ↔ row.id = id ∧ SameColumns account known := by
  have longLived : row.longLivedToken = known.longLivedToken := by rw [read]; rfl
  have access : row.accessToken = known.accessToken := by rw [read]; rfl
  simp only [ClusterRow.claims, longLived, access, Bool.and_eq_true, beq_iff_eq, tenant, and_true,
    SameColumns, and_assoc, eq_comm (a := id)]

theorem any_claims_iff {claim : DisconnectClaim} {call : DisconnectCall} {known : ConnectedAccount}
    (claimed : claimDisconnect call db = some claim)
    (found : db.findAccount call.tenantId id = some known) (member : id ∈ claim.clusterIds)
    (tenant : account.tenantId = call.tenantId) :
    (claim.cluster.any fun row => row.claims call.tenantId id account) = true ↔
      SameColumns account known := by
  obtain ⟨requested, stored, rfl⟩ := Option.map_eq_some_iff.mp claimed
  have reads {row : ClusterRow} (listed : row ∈ resolveTokenCluster db call.tenantId call.accountId requested)
      (same : row.id = id) : row = clusterRow row.id known := by
    obtain ⟨other, foundOther, read⟩ := find?_of_mem_cluster stored listed
    rw [same, found] at foundOther
    cases foundOther
    exact read
  rw [List.any_eq_true]
  constructor
  · rintro ⟨row, listed, claims⟩
    simp only [ClusterRow.claims, Bool.and_eq_true, beq_iff_eq] at claims
    have read := reads listed claims.1.1.1.symm
    refine ⟨claims.1.2.trans ?_, claims.2.trans ?_⟩
    · rw [read]
      rfl
    · rw [read]
      rfl
  · intro same
    obtain ⟨row, listed, rfl⟩ := List.mem_map.mp member
    exact ⟨row, listed, (claims_iff (reads listed rfl) tenant).mpr ⟨rfl, same⟩⟩

/-! What the others leave in the legacy columns. -/

/-- The legacy columns of an account are the ones from before, or are cleared. -/
def TokensFrom (before after : Option ConnectedAccount) : Prop :=
  ∀ account, after = some account →
    ColumnsFree account ∨ ∃ known, before = some known ∧ SameColumns account known

theorem TokensFrom.refl (stored : Option ConnectedAccount) : TokensFrom stored stored :=
  fun account found => .inr ⟨account, found, rfl, rfl⟩

theorem TokensFrom.trans {first second third : Option ConnectedAccount}
    (earlier : TokensFrom first second) (later : TokensFrom second third) :
    TokensFrom first third := by
  intro account found
  rcases later account found with free | ⟨known, stored, same⟩
  · exact .inl free
  · rcases earlier known stored with free | ⟨origin, began, kept⟩
    · exact .inl ⟨same.1.trans free.1, same.2.trans free.2⟩
    · exact .inr ⟨origin, began, same.1.trans kept.1, same.2.trans kept.2⟩

theorem tokensFrom_map {stored : Option ConnectedAccount}
    {change : ConnectedAccount → ConnectedAccount}
    (changes : ∀ account, ColumnsFree (change account) ∨ SameColumns (change account) account) :
    TokensFrom stored (stored.map change) := by
  intro account found
  obtain ⟨known, rfl, rfl⟩ := Option.map_eq_some_iff.mp found
  exact (changes known).imp id fun same => ⟨known, rfl, same⟩

theorem UpsertsAsset.tokensFrom {accounts : AccountTable} {input : MetaLinkInput}
    {platform : Platform} {change : ConnectedAccount → ConnectedAccount} {upserted : Upserted}
    (upserts : UpsertsAsset accounts input platform change upserted)
    (changes : ∀ account, SameColumns (change account) account) (id : String) :
    TokensFrom (accounts.find? id) (upserted.accounts.find? id) := by
  by_cases touched : id = upserted.id
  · subst touched
    obtain ⟨base, same, stored, -, -, empty⟩ := upserts.base
    intro account found
    rw [stored] at found
    cases found
    cases known : accounts.find? upserted.id with
    | some account =>
      rw [known, Option.getD_some] at same
      exact .inr ⟨account, rfl, same ▸ changes base⟩
    | none =>
      have free := empty (by rw [upserts.existed, known]; rfl)
      exact .inl ⟨(changes base).1.trans free.1, (changes base).2.trans free.2⟩
  · rw [upserts.others id touched]
    exact .refl _

theorem upsertAssets_cases {call : LinkCall} {before after : AccountTable}
    {result : MetaLinkResult} (upserted : upsertAssets call before = some (after, result)) :
    ∃ page, UpsertsAsset before call.input .facebookPage (metaConnectedAccountFields call.input) page ∧
      (after = page.accounts ∨
        ∃ instagram, UpsertsAsset page.accounts call.input .instagramBusiness
          (instagramFields call.input page.id) instagram ∧ after = instagram.accounts) := by
  unfold upsertAssets at upserted
  dsimp only at upserted
  split at upserted
  case isFalse => cases upserted
  refine ⟨_, upsertAccount_upserts call.env before call.input .facebookPage
    call.input.page.pageId _, ?_⟩
  split at upserted
  · cases upserted
    exact .inl rfl
  · next igBusinessId _ =>
    split at upserted
    case isFalse => cases upserted
    cases upserted
    exact .inr ⟨_, upsertAccount_upserts call.env _ call.input .instagramBusiness igBusinessId _, rfl⟩

theorem upsertAssets_tokensFrom {call : LinkCall} {before after : AccountTable}
    {result : MetaLinkResult} (upserted : upsertAssets call before = some (after, result))
    (id : String) : TokensFrom (before.find? id) (after.find? id) := by
  obtain ⟨page, pageUpserts, rest⟩ := upsertAssets_cases upserted
  have pageFrom := pageUpserts.tokensFrom (fun _ => ⟨rfl, rfl⟩) id
  rcases rest with rfl | ⟨instagram, instagramUpserts, rfl⟩
  · exact pageFrom
  · exact pageFrom.trans (instagramUpserts.tokensFrom (fun _ => ⟨rfl, rfl⟩) id)

theorem applyOne_accounts {call : BackfillCall} {before after : MetaDatabase}
    {outcome : BackfillOutcome} (applied : applyOne call before = some (after, outcome)) :
    after.accounts = before.accounts ∨
      after.accounts = (clearLegacy call.accountId before).accounts := by
  have verified {secret : String} {backfilledNow : Bool} {reached : MetaDatabase}
      (verifies : verifyAndClear call secret backfilledNow reached = some (after, outcome))
      (same : reached.accounts = before.accounts) :
      after.accounts = before.accounts ∨
        after.accounts = (clearLegacy call.accountId before).accounts := by
    unfold verifyAndClear at verifies
    split at verifies
    · cases verifies
    · cases verifies
      exact .inl same
    · split at verifies
      · cases verifies
        exact .inr (by rw [clearLegacy, same]; rfl)
      · cases verifies
        exact .inl same
  unfold applyOne at applied
  split at applied
  · cases applied
  · split at applied
    · cases applied
      exact .inl rfl
    · cases applied
      exact .inl rfl
    · unfold migrateSecret at applied
      split at applied
      · cases applied
        exact .inl rfl
      · obtain ⟨stored, -, verifies⟩ := Option.bind_eq_some_iff.mp applied
        exact verified verifies rfl
      · split at applied
        · exact verified applied rfl
        · cases applied
          exact .inl rfl

theorem OtherOperation.tokensFrom (operation : OtherOperation) (db : MetaDatabase) (id : String) :
    TokensFrom (db.accounts.find? id) ((operation.apply db).accounts.find? id) := by
  cases operation with
  | upsertAssets call =>
    rw [OtherOperation.apply]
    cases upserted : Sync.upsertAssets call db.accounts with
    | none => exact .refl _
    | some both => exact upsertAssets_tokensFrom upserted id
  | updateAccounts update =>
    rw [OtherOperation.apply, Table.find?_updateWhere]
    refine tokensFrom_map fun account => .inr ?_
    split
    · exact update.keepsTokens account
    · exact ⟨rfl, rfl⟩
  | deleteAccounts test =>
    rw [OtherOperation.apply, Table.find?_deleteWhere]
    intro account found
    exact .inr ⟨account, (Option.filter_eq_some_iff.mp found).1, rfl, rfl⟩
  | backfill call =>
    rw [OtherOperation.apply]
    cases applied : applyOne call db with
    | none => exact .refl _
    | some both =>
      obtain ⟨after, outcome⟩ := both
      rcases applyOne_accounts applied with same | cleared
      · dsimp only
        rw [same]
        exact .refl _
      · dsimp only
        rw [cleared, clearLegacy, Table.find?_modify]
        split
        · exact tokensFrom_map fun account => .inl ⟨rfl, rfl⟩
        · exact .refl _
  | clearCluster tenantId claim revoke =>
    rw [OtherOperation.apply, Sync.clearCluster, find?_clearRows]
    refine tokensFrom_map fun account => ?_
    split
    · exact .inl ⟨rfl, rfl⟩
    · exact .inr ⟨rfl, rfl⟩
  | revokeCredentials test now => exact .refl _

theorem applyOthers_tokensFrom (others : List OtherOperation) (db : MetaDatabase) (id : String) :
    TokensFrom (db.accounts.find? id) ((applyOthers others db).accounts.find? id) := by
  induction others generalizing db with
  | nil => exact .refl _
  | cons operation rest ih => exact (operation.tokensFrom db id).trans (ih (operation.apply db))

/-! What the resolver finds once the columns are cleared. -/

/-- The vault holds a credential for an account that the resolver takes: an active row for
the long-lived token that decrypts and is not refused for its age; or such a row for the
short-lived one, where none for the long-lived token is active or revoked. -/
def HasUsableCredential (env : VaultEnv) (now : Int) (table : CredentialTable)
    (tenantId id : String) : Prop :=
  let usable (purpose : CredentialPurpose) (row : ProviderCredential) :=
    (env.decrypt row (metaQuery tenantId id purpose)).isSome = true ∧
      env.refusesExpiry now row.expiresAt = false
  match findActive table (metaQuery tenantId id .longLivedToken) with
  | some (_, row) => usable .longLivedToken row
  | none =>
    hasRevoked table (metaQuery tenantId id .longLivedToken) = false ∧
      ∃ rowId row, findActive table (metaQuery tenantId id .accessToken) = some (rowId, row) ∧
        usable .accessToken row

variable {env : VaultEnv} {now : Int} {table : CredentialTable}

theorem probeVault_cons_active {purpose : CredentialPurpose} {rest : List CredentialPurpose}
    {rowId : String} {row : ProviderCredential}
    (active : findActive table (metaQuery tenantId id purpose) = some (rowId, row)) :
    (∃ token, probeVault env table now tenantId id (purpose :: rest) = .ok (some token)) ↔
      (env.decrypt row (metaQuery tenantId id purpose)).isSome = true ∧
        env.refusesExpiry now row.expiresAt = false := by
  rw [probeVault, resolveProviderCredentialOutcome, active]
  dsimp only
  cases env.decrypt row (metaQuery tenantId id purpose) with
  | none => simp
  | some token =>
    dsimp only
    rw [← VaultEnv.refusesExpiry]
    cases env.refusesExpiry now row.expiresAt <;> simp

theorem probeVault_eq_some_iff :
    (∃ token, probeVault env table now tenantId id metaPurposes = .ok (some token)) ↔
      HasUsableCredential env now table tenantId id := by
  rw [HasUsableCredential, metaPurposes]
  cases active : findActive table (metaQuery tenantId id .longLivedToken) with
  | some both => exact probeVault_cons_active active
  | none =>
    rw [probeVault, resolveProviderCredentialOutcome, active]
    dsimp only
    cases hasRevoked table (metaQuery tenantId id .longLivedToken) with
    | true => simp
    | false =>
      simp only [Bool.false_eq_true, if_false, true_and]
      cases short : findActive table (metaQuery tenantId id .accessToken) with
      | some both =>
        obtain ⟨rowId, row⟩ := both
        rw [probeVault_cons_active short]
        simp
      | none =>
        rw [probeVault, resolveProviderCredentialOutcome, short]
        cases hasRevoked table (metaQuery tenantId id .accessToken) <;> simp [probeVault]

theorem resolveMetaAccessTokenSafe_of_columnsFree (free : ColumnsFree account)
    (tenant : account.tenantId = tenantId) :
    resolveMetaAccessTokenSafe env table now (MetaDatabase.tokenAccount id account) = none ↔
      ¬HasUsableCredential env now table tenantId id := by
  rw [← probeVault_eq_some_iff]
  simp only [resolveMetaAccessTokenSafe, resolveMetaAccessToken, MetaDatabase.tokenAccount, tenant,
    legacyToken, free.1, free.2]
  cases probeVault env table now tenantId id metaPurposes with
  | error err => simp
  | ok token =>
    cases token with
    | some token => simp
    | none => cases env.legacyFallbackEnabled <;> simp [decryptToken]

/-- If the disconnect reports that the credentials are removed, no account of its cluster
has a token afterwards. -/
def DisconnectRemoves (call : DisconnectCall) (beforeRevoke beforeClear : List OtherOperation)
    (db : MetaDatabase) (later : Int) : Prop :=
  let disconnected := disconnectAccount call beforeRevoke beforeClear db
  disconnected.2.localCredentialsRemoved = true →
    ∀ id ∈ disconnected.2.cluster.accountIds,
      disconnected.1.token? call.env later call.tenantId id = none

/-- The cleanup finds the requested account with the columns that were claimed, or already
disconnected and free of credentials. -/
def FindsRequested (call : DisconnectCall) (claim : DisconnectClaim) (db : MetaDatabase) : Prop :=
  ∃ account, db.findAccount call.tenantId call.accountId = some account ∧
    (SameColumns account claim.account ∨ isCredentialFree account = true)

/-- When the cleanup starts, the vault holds no credential that the resolver takes for an
account of the cluster. -/
def VaultUnusable (call : DisconnectCall) (beforeRevoke beforeClear : List OtherOperation)
    (db : MetaDatabase) (later : Int) : Prop :=
  let before := applyOthers beforeClear (applyOthers beforeRevoke db)
  ∀ claim, claimDisconnect call db = some claim → FindsRequested call claim before →
    ∀ id ∈ claim.clusterIds, (before.findAccount call.tenantId id).isSome = true →
      ¬HasUsableCredential call.env later before.credentials call.tenantId id

variable {call : DisconnectCall} {claim : DisconnectClaim} {before : MetaDatabase}

theorem requestedRemoved_iff (claimed : claimDisconnect call db = some claim) (revoke : RevokeResult) :
    requestedRemoved call (clearCluster call.tenantId claim revoke before) = true ↔
      FindsRequested call claim before := by
  obtain ⟨requested, stored, claims⟩ := Option.map_eq_some_iff.mp claimed
  have member : call.accountId ∈ claim.clusterIds := by
    obtain ⟨row, listed, same⟩ := self_mem_cluster db call.tenantId call.accountId requested
    exact List.mem_map.mpr ⟨row, claims ▸ listed, same⟩
  have claimedAccount : claim.account = requested := by rw [← claims]
  rw [requestedRemoved, findAccount_clearCluster, FindsRequested]
  cases found : before.findAccount call.tenantId call.accountId with
  | none => simp
  | some account =>
    have tenant := (MetaDatabase.findAccount_eq_some_iff.mp found).2
    have matched := any_claims_iff claimed stored member tenant
    rw [← claimedAccount] at matched
    simp only [Option.map_some, Option.any_some, Option.some.injEq, exists_eq_left']
    rw [← matched]
    split
    next cleared =>
      have free : isCredentialFree (revoke.clearData account) = true := rfl
      simp [cleared, free]
    next kept => simp [kept]

theorem columnsFree_of_clearCluster (claimed : claimDisconnect call db = some claim)
    (from_ : TokensFrom (db.accounts.find? id) (before.accounts.find? id))
    (member : id ∈ claim.clusterIds) {revoke : RevokeResult}
    (found : (clearCluster call.tenantId claim revoke before).findAccount call.tenantId id =
      some account) : ColumnsFree account := by
  rw [findAccount_clearCluster] at found
  obtain ⟨prior, foundPrior, cleared⟩ := Option.map_eq_some_iff.mp found
  obtain ⟨stored, tenant⟩ := MetaDatabase.findAccount_eq_some_iff.mp foundPrior
  obtain ⟨known, foundKnown⟩ : ∃ known, db.findAccount call.tenantId id = some known := by
    obtain ⟨requested, storedRequested, rfl⟩ := Option.map_eq_some_iff.mp claimed
    obtain ⟨row, listed, rfl⟩ := List.mem_map.mp member
    obtain ⟨known, foundKnown, -⟩ := find?_of_mem_cluster storedRequested listed
    exact ⟨known, foundKnown⟩
  have matched := any_claims_iff claimed foundKnown member tenant
  split at cleared
  · rw [← cleared]
    exact ⟨rfl, rfl⟩
  · next kept =>
    rw [← cleared]
    rcases from_ prior stored with free | ⟨origin, began, same⟩
    · exact free
    · rw [(MetaDatabase.findAccount_eq_some_iff.mp foundKnown).1] at began
      cases began
      exact absurd (matched.mpr same) kept

/-- A disconnect removes the credentials that it reports as removed exactly if the vault
holds no usable one for an account of the cluster when the cleanup starts. -/
theorem disconnectRemoves_iff_vaultUnusable (call : DisconnectCall)
    (beforeRevoke beforeClear : List OtherOperation) (db : MetaDatabase) (later : Int) :
    DisconnectRemoves call beforeRevoke beforeClear db later ↔
      VaultUnusable call beforeRevoke beforeClear db later := by
  unfold DisconnectRemoves VaultUnusable disconnectAccount
  cases claimed : claimDisconnect call db with
  | none => simp [disconnectNotFound]
  | some claim =>
    dsimp only
    generalize revokeClaim call claim (applyOthers beforeRevoke db) = revoke
    have fromBefore (id : String) : TokensFrom (db.accounts.find? id)
        ((applyOthers beforeClear (applyOthers beforeRevoke db)).accounts.find? id) :=
      (applyOthers_tokensFrom beforeRevoke db id).trans (applyOthers_tokensFrom beforeClear _ id)
    generalize applyOthers beforeClear (applyOthers beforeRevoke db) = before at fromBefore
    have removed : (disconnectResult call claim revoke (requestedRemoved call
        (clearCluster call.tenantId claim revoke before))).localCredentialsRemoved = true ↔
          FindsRequested call claim before := requestedRemoved_iff claimed revoke
    rw [removed]
    simp only [Option.some.injEq, forall_eq']
    refine forall_congr' fun _ => forall₂_congr fun id member => ?_
    cases found : (clearCluster call.tenantId claim revoke before).findAccount call.tenantId id with
    | none =>
      have absent : before.findAccount call.tenantId id = none := by
        rw [findAccount_clearCluster, Option.map_eq_none_iff] at found
        exact found
      simp [MetaDatabase.token?, found, absent]
    | some account =>
      have free := columnsFree_of_clearCluster claimed (fromBefore id) member found
      have tenant := (MetaDatabase.findAccount_eq_some_iff.mp found).2
      have present : (before.findAccount call.tenantId id).isSome = true := by
        rw [findAccount_clearCluster] at found
        obtain ⟨prior, foundPrior, -⟩ := Option.map_eq_some_iff.mp found
        rw [foundPrior]
        rfl
      rw [MetaDatabase.token?_of_findAccount found,
        resolveMetaAccessTokenSafe_of_columnsFree free tenant]
      simp [present, clearCluster]

/-! A Page whose token is in the vault. -/

def vaultedPageCredential : ProviderCredential :=
  (reconnectInput.credential "a1").created
    ((reconnectInput.credential "a1").encrypted transparentEnv ⟨"kek-local", "v1", []⟩ ⟨[], [], []⟩)

def vaultedPageDatabase : MetaDatabase where
  accounts := Table.empty.insert "a1"
    (metaConnectedAccountFields reconnectInput (newAccount reconnectInput .facebookPage "p1"))
  credentials := Table.empty.insert "c1" vaultedPageCredential
  syncLeases := []

def vaultedPageDisconnect : DisconnectCall where
  env := transparentEnv
  now := 0
  transport := none
  tenantId := "t1"
  accountId := "a1"

/-- The disconnect reports the credential as removed, and the vault still yields the token. -/
theorem not_disconnectRemoves_of_vaulted :
    ¬DisconnectRemoves vaultedPageDisconnect [] [] vaultedPageDatabase 0 := by
  intro removes
  exact absurd (removes (by decide +kernel) "a1" (by decide +kernel)) (by decide +kernel)

end Tamanor.Sync
