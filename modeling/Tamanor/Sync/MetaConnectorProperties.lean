import Tamanor.Db.CredentialVaultProperties
import Tamanor.Sync.MetaConnector

/-! When connecting fails closed. The upsert makes every account active before there is a
credential for it, and the compensation only reaches the accounts that are new. -/

set_option autoImplicit false

namespace Tamanor.Sync

open Tamanor.Core Db Library

/-- What an upsert of one asset does: it changes the row of the asset, or adds one. -/
structure UpsertsAsset (accounts : AccountTable) (input : MetaLinkInput) (platform : Platform)
    (change : ConnectedAccount → ConnectedAccount) (upserted : Upserted) : Prop where
  existed : upserted.existed = (accounts.find? upserted.id).isSome
  base : ∃ base, (accounts.find? upserted.id).getD base = base ∧
    upserted.accounts.find? upserted.id = some (change base) ∧
    base.tenantId = input.tenantId ∧ base.platform = platform ∧
    (upserted.existed = false → base.longLivedToken = none ∧ base.accessToken = none)
  others : ∀ id, id ≠ upserted.id → upserted.accounts.find? id = accounts.find? id

theorem upsertAccount_upserts (env : VaultEnv) (accounts : AccountTable) (input : MetaLinkInput)
    (platform : Platform) (externalId : String) (change : ConnectedAccount → ConnectedAccount) :
    UpsertsAsset accounts input platform change
      (upsertAccount env accounts input platform externalId change) := by
  unfold upsertAccount
  cases found : findAsset accounts input platform externalId with
  | some row =>
    obtain ⟨id, account⟩ := row
    have stored : accounts.find? id = some account := Table.find?_of_find?_rows found
    have asset := List.find?_some found
    simp only [isAsset, Bool.and_eq_true, beq_iff_eq] at asset
    refine ⟨by simp [stored], ⟨account, by simp [stored], ?_, asset.1.1.1, asset.1.2, ?_⟩, ?_⟩
    · simp [Table.find?_modify, stored]
    · intro absent
      cases absent
    · intro other different
      simp [Table.find?_modify, different]
  | none =>
    have fresh : accounts.find? (env.newId (accounts.rows.map Prod.fst)) = none :=
      Table.find?_eq_none_iff.mpr (env.newId_fresh _)
    refine ⟨by simp [fresh],
      ⟨newAccount input platform externalId, by simp [fresh], ?_, rfl, rfl, fun _ => ⟨rfl, rfl⟩⟩, ?_⟩
    · rw [Table.find?_insert _ fresh, if_pos rfl]
    · intro other different
      rw [Table.find?_insert _ fresh, if_neg different]

structure Connects (tenantId : String) (prior : Option ConnectedAccount) (target : LinkTarget)
    (account : ConnectedAccount) : Prop where
  tenant : account.tenantId = tenantId
  active : account.status = .active
  connected : account.connectionStatus = .connected
  isNew : target.isNew = prior.isNone
  priorTenant : ∀ known, prior = some known → known.tenantId = tenantId
  longLived : account.longLivedToken = prior.bind (·.longLivedToken)
  access : account.accessToken = prior.bind (·.accessToken)

theorem UpsertsAsset.connects {accounts : AccountTable} {input : MetaLinkInput}
    {platform : Platform} {change : ConnectedAccount → ConnectedAccount} {upserted : Upserted}
    (upserts : UpsertsAsset accounts input platform change upserted)
    (changes : ∀ account : ConnectedAccount, (change account).tenantId = account.tenantId ∧
      (change account).status = .active ∧ (change account).connectionStatus = .connected ∧
      (change account).longLivedToken = account.longLivedToken ∧
      (change account).accessToken = account.accessToken) :
    ∃ account, upserted.accounts.find? upserted.id = some account ∧
      Connects input.tenantId (accounts.find? upserted.id) ⟨upserted.id, !upserted.existed⟩ account := by
  obtain ⟨base, same, stored, tenant, -, empty⟩ := upserts.base
  obtain ⟨keepsTenant, active, connected, keepsLongLived, keepsAccess⟩ := changes base
  refine ⟨change base, stored, keepsTenant.trans tenant, active, connected, ?_, ?_, ?_, ?_⟩
  · simp [upserts.existed]
  · intro known found
    rw [found, Option.getD_some] at same
    rw [same, tenant]
  · rw [keepsLongLived]
    cases found : accounts.find? upserted.id with
    | some known =>
      rw [found, Option.getD_some] at same
      simp [same]
    | none => exact (empty (by rw [upserts.existed, found]; rfl)).1
  · rw [keepsAccess]
    cases found : accounts.find? upserted.id with
    | some known =>
      rw [found, Option.getD_some] at same
      simp [same]
    | none => exact (empty (by rw [upserts.existed, found]; rfl)).2

structure UpsertsAll (tenantId : String) (before after : AccountTable) (targets : List LinkTarget) :
    Prop where
  distinct : (targets.map (·.id)).Nodup
  connects : ∀ target ∈ targets, ∃ account, after.find? target.id = some account ∧
    Connects tenantId (before.find? target.id) target account

variable {call : LinkCall} {db : MetaDatabase}

theorem upsertAssets_upsertsAll {before after : AccountTable} {result : MetaLinkResult}
    (upserted : upsertAssets call before = some (after, result)) :
    UpsertsAll call.input.tenantId before after result.targets := by
  have pageUpserts := upsertAccount_upserts call.env before call.input .facebookPage
    call.input.page.pageId (metaConnectedAccountFields call.input)
  have pageConnects := pageUpserts.connects fun _ => ⟨rfl, rfl, rfl, rfl, rfl⟩
  unfold upsertAssets at upserted
  dsimp only at upserted
  generalize upsertAccount call.env before call.input .facebookPage call.input.page.pageId
    (metaConnectedAccountFields call.input) = page at upserted pageUpserts pageConnects
  split at upserted
  case isFalse => cases upserted
  split at upserted
  · cases upserted
    refine ⟨List.nodup_singleton _, fun target member => ?_⟩
    rw [List.mem_singleton.mp member]
    exact pageConnects
  · next igBusinessId _ =>
    split at upserted
    case isFalse => cases upserted
    have igUpserts := upsertAccount_upserts call.env page.accounts call.input .instagramBusiness
      igBusinessId (instagramFields call.input page.id)
    have igConnects := igUpserts.connects fun _ => ⟨rfl, rfl, rfl, rfl, rfl⟩
    generalize upsertAccount call.env page.accounts call.input .instagramBusiness igBusinessId
      (instagramFields call.input page.id) = instagram at upserted igUpserts igConnects
    cases upserted
    obtain ⟨pageBase, -, pageStored, -, pagePlatform, -⟩ := pageUpserts.base
    obtain ⟨igBase, igSame, -, -, igPlatform, -⟩ := igUpserts.base
    have apart : page.id ≠ instagram.id := by
      intro same
      rw [← same, pageStored, Option.getD_some] at igSame
      rw [← igSame] at igPlatform
      exact absurd (pagePlatform.symm.trans igPlatform) (by decide)
    have pageKept : instagram.accounts.find? page.id = page.accounts.find? page.id :=
      igUpserts.others _ apart
    have igBefore : page.accounts.find? instagram.id = before.find? instagram.id :=
      pageUpserts.others _ apart.symm
    refine ⟨by simp [MetaLinkResult.targets, apart], fun target member => ?_⟩
    rcases List.mem_cons.mp member with rfl | member
    · obtain ⟨account, stored, connects⟩ := pageConnects
      exact ⟨account, pageKept.trans stored, connects⟩
    · rw [List.mem_singleton.mp member]
      obtain ⟨account, stored, connects⟩ := igConnects
      exact ⟨account, stored, igBefore ▸ connects⟩

/-- Whether the locked transaction for an account throws. -/
def LinkCall.throws (call : LinkCall) (id : String) : Bool :=
  call.persistFails id || call.env.key.isNone

/-- The accounts whose credentials are stored before the first failure. -/
def LinkCall.persisted (call : LinkCall) (targets : List LinkTarget) : List LinkTarget :=
  targets.takeWhile fun target => !call.throws target.id

theorem persistCredential_of_throws {id : String} (throws : call.throws id = true) :
    persistCredential call db id = none := by
  unfold persistCredential
  rcases Bool.or_eq_true_iff.mp throws with fails | noKey
  · rw [if_pos fails]
  · split
    · rfl
    · split
      · rfl
      · rw [storeProviderCredential, Option.isNone_iff_eq_none.mp noKey]
        rfl

theorem persistCredential_of_not_throws {id : String}
    (present : (db.findAccount call.input.tenantId id).isSome = true)
    (passes : call.throws id = false) :
    ∃ stored, persistCredential call db id = some { db with credentials := stored } ∧
      Stores call.env db.credentials (call.input.credential id) stored := by
  obtain ⟨works, configured⟩ := Bool.or_eq_false_iff.mp passes
  obtain ⟨key, found⟩ : ∃ key, call.env.key = some key := by
    cases found : call.env.key with
    | none => simp [found] at configured
    | some key => exact ⟨key, rfl⟩
  obtain ⟨stored, succeeds⟩ : ∃ stored, storeProviderCredential call.env db.credentials
      (call.input.credential id) (call.draw id) call.now = some stored := by
    rw [storeProviderCredential, found]
    exact ⟨_, rfl⟩
  have stores := stores_of_store succeeds
  refine ⟨stored, ?_, stores⟩
  have absent : ¬(db.findAccount call.input.tenantId id).isNone = true := by
    rw [Option.isNone_eq_false_iff.mpr present]
    exact Bool.false_ne_true
  rw [persistCredential, if_neg (by rw [works]; exact Bool.false_ne_true), if_neg absent, succeeds,
    Option.bind_some, verifyCredential, resolveProviderCredential_of_stores stores]
  exact if_pos rfl

structure PersistsAll (call : LinkCall) (db : MetaDatabase) (targets : List LinkTarget)
    (final : MetaDatabase × Bool) : Prop where
  accounts : final.1.accounts = db.accounts
  ended : final.2 = targets.all fun target => !call.throws target.id
  others : ∀ id, id ∉ targets.map (·.id) →
    probeVault call.env final.1.credentials call.now call.input.tenantId id metaPurposes =
      probeVault call.env db.credentials call.now call.input.tenantId id metaPurposes
  persisted : ∀ target ∈ call.persisted targets,
    probeVault call.env final.1.credentials call.now call.input.tenantId target.id metaPurposes =
      if call.env.refusesExpiry call.now call.input.tokenExpiresAt then .error (.unusable .expired)
      else .ok (some call.input.pageAccessToken)
  kept : ∀ target ∈ targets, target ∉ call.persisted targets →
    probeVault call.env final.1.credentials call.now call.input.tenantId target.id metaPurposes =
      probeVault call.env db.credentials call.now call.input.tenantId target.id metaPurposes

theorem persistAll_persistsAll {targets : List LinkTarget}
    (present : ∀ target ∈ targets, (db.findAccount call.input.tenantId target.id).isSome = true)
    (distinct : (targets.map (·.id)).Nodup) :
    PersistsAll call db targets (persistAll call db targets) := by
  induction targets generalizing db with
  | nil => exact ⟨rfl, rfl, fun _ _ => rfl, by simp [LinkCall.persisted], by simp⟩
  | cons target rest ih =>
    obtain ⟨apart, distinct⟩ := List.nodup_cons.mp distinct
    cases throws : call.throws target.id with
    | true =>
      have stops : persistAll call db (target :: rest) = (db, false) := by
        rw [persistAll, persistCredential_of_throws throws]
      have none : call.persisted (target :: rest) = [] := by
        simp [LinkCall.persisted, throws]
      rw [stops]
      exact ⟨rfl, by simp [throws], fun _ _ => rfl, by simp [none], fun _ _ _ => rfl⟩
    | false =>
      obtain ⟨stored, persists, stores⟩ :=
        persistCredential_of_not_throws (present target List.mem_cons_self) throws
      have continues : persistAll call db (target :: rest) =
          persistAll call { db with credentials := stored } rest := by
        rw [persistAll, persists]
      have later : PersistsAll call { db with credentials := stored } rest
          (persistAll call { db with credentials := stored } rest) :=
        ih (fun other member => present other (List.mem_cons_of_mem _ member)) distinct
      have persisted : call.persisted (target :: rest) = target :: call.persisted rest := by
        simp [LinkCall.persisted, throws]
      have untouched (id : String) (different : id ≠ target.id) :
          probeVault call.env stored call.now call.input.tenantId id metaPurposes =
            probeVault call.env db.credentials call.now call.input.tenantId id metaPurposes :=
        probeVault_of_stores_other stores rfl different metaPurposes
      rw [continues]
      refine ⟨later.accounts, by simp [later.ended, throws], ?_, ?_, ?_⟩
      · intro id absent
        rw [List.map_cons, List.mem_cons, not_or] at absent
        exact (later.others id absent.2).trans (untouched id absent.1)
      · intro other member
        rw [persisted] at member
        rcases List.mem_cons.mp member with rfl | member
        · exact (later.others other.id apart).trans (probeVault_of_stores stores rfl)
        · exact later.persisted other member
      · intro other member left
        rw [persisted, List.mem_cons, not_or] at left
        have member := (List.mem_cons.mp member).resolve_left left.1
        have different : other.id ≠ target.id := fun same =>
          apart (List.mem_map.mpr ⟨other, member, same⟩)
        exact (later.kept other member left.2).trans (untouched other.id different)

def linkTargets (call : LinkCall) (db : MetaDatabase) : List LinkTarget :=
  match upsertAssets call db.accounts with
  | some (_, result) => result.targets
  | none => []

def LeftConnected (db : MetaDatabase) (tenantId id : String) : Prop :=
  ∃ account, db.findAccount tenantId id = some account ∧ account.status = .active ∧
    account.connectionStatus = .connected

def KeepsWorking (env : VaultEnv) (now : Int) (tenantId id : String) (before after : MetaDatabase) :
    Prop :=
  ∀ prior token, before.findAccount tenantId id = some prior →
    before.token? env now tenantId id = some token →
    ∃ account, after.findAccount tenantId id = some account ∧ account.status = prior.status ∧
      account.connectionStatus = prior.connectionStatus ∧
      after.token? env now tenantId id = some token

/-- The call fails closed: if it reports that a credential could not be stored, every
account it touched has a token or is not left active and connected, and the ones that
worked before work as before. -/
def FailsClosed (call : LinkCall) (db : MetaDatabase) : Prop :=
  (linkMetaAssets call db).2 = .credentialPersistError →
    ∀ target ∈ linkTargets call db,
      (((linkMetaAssets call db).1.token? call.env call.now call.input.tenantId target.id).isSome =
          true ∨
        ¬LeftConnected (linkMetaAssets call db).1 call.input.tenantId target.id) ∧
      KeepsWorking call.env call.now call.input.tenantId target.id db (linkMetaAssets call db).1

def priorToken? (call : LinkCall) (db : MetaDatabase) (id : String) : Option String :=
  let prior := db.findAccount call.input.tenantId id
  resolveMetaAccessTokenSafe call.env db.credentials call.now
    { id := id, tenantId := call.input.tenantId
      longLivedToken := prior.bind (·.longLivedToken), accessToken := prior.bind (·.accessToken) }

/-- The token of an account after a call that fails: the new one if it was stored before
the failure, else the one from before. -/
def tokenAfter? (call : LinkCall) (db : MetaDatabase) (target : LinkTarget) : Option String :=
  if target ∈ call.persisted (linkTargets call db) then
    if call.env.refusesExpiry call.now call.input.tokenExpiresAt then none
    else some call.input.pageAccessToken
  else priorToken? call db target.id

/-- Nothing throws, or each account is safe against the failure: it is new and the
compensation reaches it, or it has a token in the end; and if it had one before, it was
active and connected and the token is the same. -/
def SafeAgainstFailure (call : LinkCall) (db : MetaDatabase) : Prop :=
  (∃ target ∈ linkTargets call db, call.throws target.id = true) →
    ∀ target ∈ linkTargets call db,
      (target.isNew = true ∧ call.downgradeFails = false ∨
        (tokenAfter? call db target).isSome = true) ∧
      ∀ prior token, db.findAccount call.input.tenantId target.id = some prior →
        db.token? call.env call.now call.input.tenantId target.id = some token →
        prior.status = .active ∧ prior.connectionStatus = .connected ∧
          tokenAfter? call db target = some token

structure AfterFailure (call : LinkCall) (db after : MetaDatabase) (target : LinkTarget)
    (account : ConnectedAccount) : Prop where
  found : after.findAccount call.input.tenantId target.id = some account
  active : account.status = .active
  connected : account.connectionStatus =
    if target.isNew && !call.downgradeFails then .needsReconnect else .connected
  token : after.token? call.env call.now call.input.tenantId target.id = tokenAfter? call db target

theorem linkMetaAssets_cases (call : LinkCall) (db : MetaDatabase) :
    linkMetaAssets call db = (db, .limitReached) ∧ linkTargets call db = [] ∨
      ∃ accounts result final, UpsertsAll call.input.tenantId db.accounts accounts result.targets ∧
        linkTargets call db = result.targets ∧
        PersistsAll call { db with accounts := accounts } result.targets final ∧
        linkMetaAssets call db =
          if final.2 then (final.1, .linked result)
          else (compensate call result.targets final.1, .credentialPersistError) := by
  unfold linkMetaAssets linkTargets
  cases upserted : upsertAssets call db.accounts with
  | none => exact .inl ⟨rfl, rfl⟩
  | some both =>
    obtain ⟨accounts, result⟩ := both
    have upserts := upsertAssets_upsertsAll upserted
    have present : ∀ target ∈ result.targets,
        (MetaDatabase.findAccount { db with accounts := accounts } call.input.tenantId
          target.id).isSome = true := by
      intro target member
      obtain ⟨account, stored, connects⟩ := upserts.connects target member
      rw [MetaDatabase.findAccount_eq_some_iff.mpr ⟨stored, connects.tenant⟩]
      rfl
    refine .inr ⟨accounts, result, _, upserts, rfl, persistAll_persistsAll present upserts.distinct, ?_⟩
    dsimp only
    cases persistAll call { db with accounts := accounts } result.targets with
    | mk persisted ok => cases ok <;> rfl

theorem linkMetaAssets_failed_iff (call : LinkCall) (db : MetaDatabase) :
    (linkMetaAssets call db).2 = .credentialPersistError ↔
      ∃ target ∈ linkTargets call db, call.throws target.id = true := by
  rcases linkMetaAssets_cases call db with ⟨refused, none⟩ |
    ⟨accounts, result, final, -, targets, persists, linked⟩
  · simp [refused, none]
  · rw [linked, targets]
    have ended := persists.ended
    cases ok : final.2 with
    | true =>
      rw [ok, eq_comm, List.all_eq_true] at ended
      constructor
      · intro failed
        cases failed
      · rintro ⟨target, member, throws⟩
        have passes := ended target member
        rw [throws] at passes
        cases passes
    | false =>
      rw [ok, eq_comm, List.all_eq_false] at ended
      obtain ⟨target, member, throws⟩ := ended
      exact ⟨fun _ => ⟨target, member, by simpa using throws⟩, fun _ => rfl⟩

theorem compensate_credentials (call : LinkCall) (targets : List LinkTarget) (db : MetaDatabase) :
    (compensate call targets db).credentials = db.credentials := by
  unfold compensate
  split <;> rfl

theorem find?_compensate {targets : List LinkTarget} {target : LinkTarget}
    {account : ConnectedAccount} (distinct : (targets.map (·.id)).Nodup) (member : target ∈ targets)
    (stored : db.accounts.find? target.id = some account)
    (tenant : account.tenantId = call.input.tenantId) :
    ∃ after, (compensate call targets db).accounts.find? target.id = some after ∧
      after.tenantId = account.tenantId ∧ after.status = account.status ∧
      after.connectionStatus = (if target.isNew && !call.downgradeFails then .needsReconnect
        else account.connectionStatus) ∧
      after.longLivedToken = account.longLivedToken ∧ after.accessToken = account.accessToken := by
  unfold compensate
  cases call.downgradeFails with
  | true => exact ⟨account, stored, rfl, rfl, by simp, rfl, rfl⟩
  | false =>
    have listed : target.id ∈ (targets.filter (·.isNew)).map (·.id) ↔ target.isNew = true := by
      constructor
      · intro downgraded
        obtain ⟨other, kept, same⟩ := List.mem_map.mp downgraded
        have kept := List.mem_filter.mp kept
        rw [← List.inj_on_of_nodup_map distinct kept.1 member same]
        exact kept.2
      · intro isNew
        exact List.mem_map_of_mem (List.mem_filter.mpr ⟨member, isNew⟩)
    rw [if_neg Bool.false_ne_true]
    simp only [downgrade, Table.find?_updateWhere, stored, Option.map_some, tenant,
      List.contains_eq_mem, beq_self_eq_true, Bool.and_true, decide_eq_true_eq, listed]
    cases target.isNew with
    | true => exact ⟨_, rfl, rfl, rfl, rfl, rfl, rfl⟩
    | false => exact ⟨_, rfl, tenant, rfl, rfl, rfl, rfl⟩

/-- Every account that a failing call touches is active afterwards, and it is connected
unless it was new and the compensation reached it. -/
theorem linkMetaAssets_afterFailure (failed : (linkMetaAssets call db).2 = .credentialPersistError)
    {target : LinkTarget} (touched : target ∈ linkTargets call db) :
    (∃ account, AfterFailure call db (linkMetaAssets call db).1 target account) ∧
      target.isNew = (db.findAccount call.input.tenantId target.id).isNone := by
  rcases linkMetaAssets_cases call db with ⟨-, none⟩ |
    ⟨accounts, result, final, upserts, targets, persists, linked⟩
  · rw [none] at touched
    cases touched
  · have stopped : final.2 = false := by
      cases ok : final.2 with
      | false => rfl
      | true =>
        rw [linked, ok] at failed
        cases failed
    have member : target ∈ result.targets := targets ▸ touched
    obtain ⟨connected, stored, connects⟩ := upserts.connects target member
    have kept : final.1.accounts.find? target.id = some connected := persists.accounts ▸ stored
    obtain ⟨after, found, sameTenant, sameStatus, connection, longLived, access⟩ :=
      find?_compensate upserts.distinct member kept connects.tenant
    have prior : db.findAccount call.input.tenantId target.id = db.accounts.find? target.id := by
      rw [MetaDatabase.findAccount]
      cases known : db.accounts.find? target.id with
      | none => rfl
      | some account =>
        rw [Option.filter_some, connects.priorTenant account known, beq_self_eq_true, if_pos rfl]
    refine ⟨⟨after, ?_⟩, prior ▸ connects.isNew⟩
    rw [linked, stopped]
    have foundAfter : (compensate call result.targets final.1).findAccount call.input.tenantId
        target.id = some after :=
      MetaDatabase.findAccount_eq_some_iff.mpr ⟨found, sameTenant.trans connects.tenant⟩
    refine ⟨foundAfter, sameStatus.trans connects.active, connection.trans (by rw [connects.connected]), ?_⟩
    rw [show ((if false = true then (final.1, LinkOutcome.linked result)
      else (compensate call result.targets final.1, .credentialPersistError)).1) =
      compensate call result.targets final.1 from rfl,
      MetaDatabase.token?_of_findAccount foundAfter, compensate_credentials, tokenAfter?, targets]
    split
    next stored =>
      have probed := persists.persisted target stored
      simp only [resolveMetaAccessTokenSafe, resolveMetaAccessToken, MetaDatabase.tokenAccount,
        sameTenant.trans connects.tenant, probed]
      cases call.env.refusesExpiry call.now call.input.tokenExpiresAt <;> rfl
    next left =>
      refine resolveMetaAccessTokenSafe_congr ?_ ?_ ?_
      · exact (congrArg (fun tenantId => probeVault call.env final.1.credentials call.now tenantId
          target.id metaPurposes) (sameTenant.trans connects.tenant)).trans
          (persists.kept target member left)
      · exact (longLived.trans connects.longLived).trans (by rw [prior])
      · exact (access.trans connects.access).trans (by rw [prior])

/-- Connecting fails closed exactly if nothing throws or every account is safe against the
failure. -/
theorem failsClosed_iff_safeAgainstFailure (call : LinkCall) (db : MetaDatabase) :
    FailsClosed call db ↔ SafeAgainstFailure call db := by
  rw [FailsClosed, SafeAgainstFailure, linkMetaAssets_failed_iff]
  refine forall_congr' fun throws => forall₂_congr fun target touched => ?_
  have failed := (linkMetaAssets_failed_iff call db).mpr throws
  obtain ⟨⟨account, after⟩, isNew⟩ := linkMetaAssets_afterFailure failed touched
  refine and_congr ?_ ?_
  · rw [after.token]
    have left : LeftConnected (linkMetaAssets call db).1 call.input.tenantId target.id ↔
        ¬(target.isNew = true ∧ call.downgradeFails = false) := by
      unfold LeftConnected
      rw [after.found]
      simp only [Option.some.injEq, exists_eq_left', after.active, after.connected, true_and]
      cases target.isNew <;> cases call.downgradeFails <;> simp
    rw [left, not_not, or_comm]
  · unfold KeepsWorking
    refine forall₂_congr fun prior token => forall₂_congr fun known worked => ?_
    have reconnected : target.isNew = false := by rw [isNew, known]; rfl
    simp only [after.found, Option.some.injEq, exists_eq_left', after.active, after.connected,
      after.token, reconnected, Bool.false_and, Bool.false_eq_true, if_false, eq_comm]

/-! A reconnect of an account that has no credential any more. -/

def reconnectInput : MetaLinkInput where
  tenantId := "t1"
  brandId := "b1"
  page := ⟨"p1", "Shop", none, none⟩
  connectIg := false
  scopes := []
  grantedPermissions := []
  pageAccessToken := "new"
  tokenType := none
  tokenExpiresAt := none
  authorizingProviderUserId := none

def failingReconnect : LinkCall where
  env := transparentEnv
  now := 0
  input := reconnectInput
  maxFacebookPerBrand := some 1
  maxInstagramPerBrand := some 1
  draw _ := ⟨[], [], []⟩
  persistFails _ := true
  downgradeFails := false

def disconnectedPage : ConnectedAccount :=
  { newAccount reconnectInput .facebookPage "p1" with
    status := .disconnected
    connectionStatus := .disconnected }

def disconnectedPageDatabase : MetaDatabase where
  accounts := Table.empty.insert "a1" disconnectedPage
  credentials := Table.empty
  syncLeases := []

/-- The failing reconnect leaves the Page active and connected without a token. -/
theorem not_failsClosed_of_reconnect : ¬FailsClosed failingReconnect disconnectedPageDatabase := by
  intro closed
  have touched : (⟨"a1", false⟩ : LinkTarget) ∈ linkTargets failingReconnect disconnectedPageDatabase := by
    decide
  rcases (closed (by decide) _ touched).1 with working | disconnected
  · exact absurd working (by decide +kernel)
  · exact disconnected
      ⟨metaConnectedAccountFields reconnectInput disconnectedPage, by decide, rfl, rfl⟩

end Tamanor.Sync
