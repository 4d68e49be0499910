import Tamanor.Db.CredentialVaultProperties
import Tamanor.Db.MetaIdentityDeletion

/-! When the deauthorize callback survives a crash and spares other identities. The second
statement removes what the first one selects by, so what a later delivery finds depends on
where the first one stopped. -/

set_option autoImplicit false

namespace Tamanor.Db

open Tamanor.Core Library

variable {db : IdentityDatabase} {identity providerUserId : String} {now later : Int}
  {credentials : List AuthorizedCredential}

def isFound (credentials : List AuthorizedCredential) (id : String) (row : ProviderCredential) :
    Bool :=
  (credentials.map (·.id)).contains id && row.revokedAt.isNone

def isOwner (credentials : List AuthorizedCredential) (id : String) (account : ConnectedAccount) :
    Bool :=
  (ownerIds credentials).contains id && account.status != .disconnected

theorem revokeFound_eq (credentials : List AuthorizedCredential) (now : Int) (db : IdentityDatabase) :
    (revokeFound credentials now db).1 =
      { db with
        platform :=
          { db.platform with
            credentials := db.platform.credentials.updateWhere (isFound credentials) fun row =>
              { row with revokedAt := some now } } } := by
  unfold revokeFound
  dsimp only
  split
  next empty =>
    have none : db.platform.credentials.updateWhere (isFound credentials)
        (fun row => { row with revokedAt := some now }) = db.platform.credentials :=
      Table.updateWhere_of_none _ fun id row _ => by
        rw [isFound, List.isEmpty_iff.mp empty]
        rfl
    rw [none]
  next => rfl

theorem invalidateOwners_eq (credentials : List AuthorizedCredential) (now : Int)
    (db : IdentityDatabase) :
    (invalidateOwners credentials now db).1 =
      { db with
        platform :=
          { db.platform with
            accounts :=
              db.platform.accounts.updateWhere (isOwner credentials) (deauthorized now) } } := by
  unfold invalidateOwners
  dsimp only
  split
  next empty =>
    have none : db.platform.accounts.updateWhere (isOwner credentials) (deauthorized now) =
        db.platform.accounts :=
      Table.updateWhere_of_none _ fun id account _ => by
        rw [isOwner, List.isEmpty_iff.mp empty]
        rfl
    rw [none]
  next => rfl

/-! What the statements leave to be found. -/

theorem mem_findAuthorized {rowId : String} {row : ProviderCredential}
    (stored : (rowId, row) ∈ db.platform.credentials.rows)
    (authorized : row.isAuthorizedBy identity = true) :
    rowId ∈ (findAuthorized db identity).map (·.id) := by
  refine List.mem_map.mpr ⟨⟨rowId, row.owner.connection.connectedAccountId?⟩, ?_, rfl⟩
  exact List.mem_map.mpr ⟨(rowId, row), List.mem_filter.mpr ⟨stored, authorized⟩, rfl⟩

theorem findAuthorized_revokeFound (db : IdentityDatabase) (identity : String) (now : Int) :
    findAuthorized (revokeFound (findAuthorized db identity) now db).1 identity = [] := by
  rw [revokeFound_eq, findAuthorized, List.map_eq_nil_iff, List.filter_eq_nil_iff]
  intro updated member
  obtain ⟨⟨rowId, row⟩, stored, rfl⟩ := List.mem_map.mp member
  dsimp only
  split
  next => simp [ProviderCredential.isAuthorizedBy]
  next unfound =>
    intro authorized
    have active : row.revokedAt.isNone = true := by
      rw [ProviderCredential.isAuthorizedBy, Bool.and_eq_true] at authorized
      exact authorized.2
    have listed := List.contains_iff_mem.mpr (mem_findAuthorized stored authorized)
    exact unfound (by rw [isFound, listed, active]; rfl)

theorem findAuthorized_invalidateOwners (credentials : List AuthorizedCredential) (now : Int)
    (db : IdentityDatabase) :
    findAuthorized (invalidateOwners credentials now db).1 identity = findAuthorized db identity := by
  rw [invalidateOwners_eq]
  rfl

theorem findAuthorized_dropLoginLink (link : String) (db : IdentityDatabase) :
    findAuthorized (dropLoginLink link db).1 identity = findAuthorized db identity := rfl

theorem dropLoginLink_dropLoginLink (identity : String) (db : IdentityDatabase) :
    (dropLoginLink identity (dropLoginLink identity db).1).1 = (dropLoginLink identity db).1 := by
  simp only [dropLoginLink, List.filter_filter, Bool.and_self]

def revokedOnce (identity : String) (now : Int) (db : IdentityDatabase) : IdentityDatabase :=
  (revokeFound (findAuthorized db identity) now db).1

def invalidatedOnce (identity : String) (now : Int) (db : IdentityDatabase) : IdentityDatabase :=
  (invalidateOwners (findAuthorized db identity) now (revokedOnce identity now db)).1

theorem revokeMetaAuthorization_of_identity (named : metaIdentity providerUserId ≠ "") :
    (revokeMetaAuthorization providerUserId now db).1 =
      (dropLoginLink (metaIdentity providerUserId)
        (invalidatedOnce (metaIdentity providerUserId) now db)).1 := by
  rw [revokeMetaAuthorization]
  dsimp only
  rw [if_neg named]
  rfl

theorem revokeMetaAuthorization_of_clean (named : metaIdentity providerUserId ≠ "")
    (clean : findAuthorized db (metaIdentity providerUserId) = []) :
    (revokeMetaAuthorization providerUserId now db).1 =
      (dropLoginLink (metaIdentity providerUserId) db).1 := by
  have none : ownerIds [] = [] := rfl
  rw [revokeMetaAuthorization_of_identity named, invalidatedOnce, revokedOnce, clean, revokeFound,
    invalidateOwners]
  rfl

theorem run_returned {system : DeauthorizeSystem} {result : MetaIdentityRevocationResult}
    (returned : system.stage = .returned result) (count : Nat) :
    Runs.run (DeauthorizeSystem.step providerUserId) system (List.replicate count .advance) =
      system := by
  induction count with
  | zero => rfl
  | succ count ih =>
    have idles : system.step providerUserId .advance = system := by
      simp only [DeauthorizeSystem.step, DeauthorizeSystem.advance, returned]
    rw [List.replicate_succ, Runs.run_cons, idles, ih]

theorem stopAfter_of_nameless (nameless : metaIdentity providerUserId = "") (now : Int) (count : Nat)
    (db : IdentityDatabase) : stopAfter providerUserId now count db = db := by
  cases count with
  | zero => rfl
  | succ count =>
    have ends : (DeauthorizeSystem.start db now).step providerUserId .advance =
        { DeauthorizeSystem.start db now with stage := .returned cleanRevocation } := by
      simp only [DeauthorizeSystem.step, DeauthorizeSystem.advance, DeauthorizeSystem.start,
        nameless, if_true]
    rw [stopAfter, List.replicate_succ, Runs.run_cons, ends, run_returned rfl]
    rfl

theorem stopAfter_one (db : IdentityDatabase) : stopAfter providerUserId now 1 db = db := by
  simp only [stopAfter, List.replicate, Runs.run_cons, Runs.run_nil, DeauthorizeSystem.step,
    DeauthorizeSystem.advance, DeauthorizeSystem.start]
  split <;> rfl

variable (named : metaIdentity providerUserId ≠ "")
include named

theorem stopAfter_two :
    stopAfter providerUserId now 2 db = revokedOnce (metaIdentity providerUserId) now db := by
  simp only [stopAfter, List.replicate, Runs.run_cons, Runs.run_nil, DeauthorizeSystem.step,
    DeauthorizeSystem.advance, DeauthorizeSystem.start, if_neg named]
  rfl

theorem stopAfter_three :
    stopAfter providerUserId now 3 db = invalidatedOnce (metaIdentity providerUserId) now db := by
  simp only [stopAfter, List.replicate, Runs.run_cons, Runs.run_nil, DeauthorizeSystem.step,
    DeauthorizeSystem.advance, DeauthorizeSystem.start, if_neg named]
  rfl

theorem stopAfter_four (count : Nat) :
    stopAfter providerUserId now (count + 4) db =
      (revokeMetaAuthorization providerUserId now db).1 := by
  have steps : Runs.run (DeauthorizeSystem.step providerUserId) (.start db now)
      (List.replicate (count + 4) .advance) =
        Runs.run (DeauthorizeSystem.step providerUserId)
          (Runs.run (DeauthorizeSystem.step providerUserId) (.start db now)
            (List.replicate 4 .advance)) (List.replicate count .advance) := by
    rw [← Runs.run_append, List.replicate_append_replicate, Nat.add_comm]
  obtain ⟨result, returned⟩ : ∃ result, (Runs.run (DeauthorizeSystem.step providerUserId)
      (.start db now) (List.replicate 4 .advance)).stage = .returned result := by
    simp only [List.replicate, Runs.run_cons, Runs.run_nil, DeauthorizeSystem.step,
      DeauthorizeSystem.advance, DeauthorizeSystem.start, if_neg named]
    exact ⟨_, rfl⟩
  rw [stopAfter, steps, run_returned returned, revokeMetaAuthorization_of_identity named]
  simp only [List.replicate, Runs.run_cons, Runs.run_nil, DeauthorizeSystem.step,
    DeauthorizeSystem.advance, DeauthorizeSystem.start, if_neg named]
  rfl

omit named

theorem timeless_eq_iff {db other : IdentityDatabase} :
    db.timeless = other.timeless ↔
      db.platform.accounts.mapValues ConnectedAccount.timeless =
          other.platform.accounts.mapValues ConnectedAccount.timeless ∧
        db.platform.credentials.mapValues ProviderCredential.timeless =
          other.platform.credentials.mapValues ProviderCredential.timeless ∧
        db.platform.syncLeases = other.platform.syncLeases ∧
        db.oAuthAccounts = other.oAuthAccounts := by
  simp only [IdentityDatabase.timeless, IdentityDatabase.mk.injEq, MetaDatabase.mk.injEq, and_assoc]

theorem delivered_eq (identity : String) (now : Int) (db : IdentityDatabase) :
    (dropLoginLink identity (invalidatedOnce identity now db)).1 =
      { platform :=
          { accounts := db.platform.accounts.updateWhere (isOwner (findAuthorized db identity))
              (deauthorized now)
            credentials := db.platform.credentials.updateWhere (isFound (findAuthorized db identity))
              fun row => { row with revokedAt := some now }
            syncLeases := db.platform.syncLeases }
        oAuthAccounts := (dropLoginLink identity db).1.oAuthAccounts } := by
  rw [invalidatedOnce, invalidateOwners_eq, revokedOnce, revokeFound_eq]
  rfl

theorem timeless_delivered (identity : String) (now later : Int) (db : IdentityDatabase) :
    (dropLoginLink identity (invalidatedOnce identity later db)).1.timeless =
      (dropLoginLink identity (invalidatedOnce identity now db)).1.timeless := by
  rw [timeless_eq_iff, delivered_eq, delivered_eq]
  exact ⟨Table.mapValues_updateWhere_congr _ _ fun _ => rfl,
    Table.mapValues_updateWhere_congr _ _ fun _ => rfl, rfl, rfl⟩

theorem timeless_deauthorized_iff (account : ConnectedAccount) :
    (deauthorized now account).timeless = account.timeless ↔ IsDeauthorized account := by
  simp only [ConnectedAccount.timeless, deauthorized, IsDeauthorized, ConnectedAccount.mk.injEq,
    true_and, and_true, eq_comm]
  tauto

theorem timeless_stopped_iff (identity : String) (now : Int) (db : IdentityDatabase) :
    (dropLoginLink identity (revokedOnce identity now db)).1.timeless =
        (dropLoginLink identity (invalidatedOnce identity now db)).1.timeless ↔
      ∀ id ∈ ownerIds (findAuthorized db identity), ∀ account,
        db.platform.accounts.find? id = some account → account.status ≠ .disconnected →
        IsDeauthorized account := by
  have stopped : (dropLoginLink identity (revokedOnce identity now db)).1 =
      { platform :=
          { accounts := db.platform.accounts
            credentials := db.platform.credentials.updateWhere (isFound (findAuthorized db identity))
              fun row => { row with revokedAt := some now }
            syncLeases := db.platform.syncLeases }
        oAuthAccounts := (dropLoginLink identity db).1.oAuthAccounts } := by
    rw [revokedOnce, revokeFound_eq]
    rfl
  rw [timeless_eq_iff, stopped, delivered_eq]
  simp only [and_true]
  rw [eq_comm, Table.mapValues_updateWhere_eq_iff]
  constructor
  · intro same id owner account found connected
    have tested : isOwner (findAuthorized db identity) id account = true := by
      simp [isOwner, owner, connected]
    exact (timeless_deauthorized_iff account).mp (same id account found tested)
  · intro marked id account found tested
    simp only [isOwner, Bool.and_eq_true, List.contains_iff_mem, bne_iff_ne] at tested
    exact (timeless_deauthorized_iff account).mpr (marked id tested.1 account found tested.2)

theorem rerunConverges_iff (providerUserId : String) (now later : Int) (count : Nat)
    (db : IdentityDatabase) :
    RerunConverges providerUserId now later count db ↔ RerunHarmless providerUserId count db := by
  unfold RerunConverges RerunHarmless
  by_cases nameless : metaIdentity providerUserId = ""
  · refine iff_of_true ?_ fun _ named => absurd nameless named
    rw [stopAfter_of_nameless nameless]
    simp only [revokeMetaAuthorization, nameless, if_true]
  · have named : metaIdentity providerUserId ≠ "" := nameless
    rcases count with _ | _ | _ | _ | count
    · refine iff_of_true ?_ fun stopped => by cases stopped
      have untouched : stopAfter providerUserId now 0 db = db := rfl
      rw [untouched, revokeMetaAuthorization_of_identity named,
        revokeMetaAuthorization_of_identity named]
      exact timeless_delivered _ _ _ _
    · refine iff_of_true ?_ fun stopped => by cases stopped
      rw [stopAfter_one, revokeMetaAuthorization_of_identity named,
        revokeMetaAuthorization_of_identity named]
      exact timeless_delivered _ _ _ _
    · have clean : findAuthorized (stopAfter providerUserId now 2 db)
          (metaIdentity providerUserId) = [] := by
        rw [stopAfter_two named]
        exact findAuthorized_revokeFound db _ now
      rw [revokeMetaAuthorization_of_clean named clean, revokeMetaAuthorization_of_identity named,
        stopAfter_two named, timeless_stopped_iff]
      simp [named]
    · refine iff_of_true ?_ fun stopped => by cases stopped
      have clean : findAuthorized (stopAfter providerUserId now 3 db)
          (metaIdentity providerUserId) = [] := by
        rw [stopAfter_three named, invalidatedOnce, findAuthorized_invalidateOwners]
        exact findAuthorized_revokeFound db _ now
      rw [revokeMetaAuthorization_of_clean named clean, revokeMetaAuthorization_of_identity named,
        stopAfter_three named]
    · refine iff_of_true ?_ fun stopped => by omega
      have clean : findAuthorized (stopAfter providerUserId now (count + 4) db)
          (metaIdentity providerUserId) = [] := by
        rw [stopAfter_four named, revokeMetaAuthorization_of_identity named,
          findAuthorized_dropLoginLink, invalidatedOnce, findAuthorized_invalidateOwners]
        exact findAuthorized_revokeFound db _ now
      rw [revokeMetaAuthorization_of_clean named clean, stopAfter_four named,
        revokeMetaAuthorization_of_identity named, dropLoginLink_dropLoginLink]

variable {system : DeauthorizeSystem} {action : DeauthorizeAction}

theorem advance_platform (identity : String) (system : DeauthorizeSystem) :
    (system.advance identity).db.platform =
      match system.stage with
      | .found credentials => (revokeFound credentials system.now system.db).1.platform
      | .revoked credentials _ => (invalidateOwners credentials system.now system.db).1.platform
      | _ => system.db.platform := by
  unfold DeauthorizeSystem.advance
  cases system.stage with
  | start =>
    dsimp only
    split <;> rfl
  | found credentials => rfl
  | revoked credentials count => rfl
  | invalidated revoked invalidated => rfl
  | returned result => rfl

theorem revokes_spared_of_same {table : CredentialTable} {spared : ProviderCredential → Prop} :
    ∀ rowId row row', table.find? rowId = some row → table.find? rowId = some row' →
      row.revokedAt = none → row'.revokedAt ≠ none → spared row := by
  intro rowId row row' found found' active revoked
  rw [found] at found'
  cases found'
  exact absurd active revoked

theorem changes_spared_of_same {accounts : Table String ConnectedAccount} {spared : String → Prop} :
    ∀ id account account', accounts.find? id = some account → accounts.find? id = some account' →
      account' ≠ account → spared id := by
  intro id account account' found found' changed
  rw [found] at found'
  cases found'
  exact absurd rfl changed

/-- The credentials that were found are there, and none of those that are active has gone to
another identity. -/
structure FoundOwn (table : CredentialTable) (identity : String)
    (credentials : List AuthorizedCredential) : Prop where
  present : ∀ rowId ∈ credentials.map (·.id), (table.find? rowId).isSome = true
  own : ∀ rowId ∈ credentials.map (·.id), ∀ row, table.find? rowId = some row →
    row.revokedAt = none → ¬BelongsToOther identity row

/-- What the callback holds is not another identity's. -/
def HeldOwn (identity : String) (system : DeauthorizeSystem) : Prop :=
  match system.stage with
  | .found credentials =>
    FoundOwn system.db.platform.credentials identity credentials ∧
      OwnersOwn system.db system.now identity credentials
  | .revoked credentials _ => OwnersOwn system.db system.now identity credentials
  | _ => True

theorem foundOwn_findAuthorized (db : IdentityDatabase) (identity : String) :
    FoundOwn db.platform.credentials identity (findAuthorized db identity) := by
  have authorized : ∀ rowId ∈ (findAuthorized db identity).map (·.id), ∃ row,
      db.platform.credentials.find? rowId = some row ∧ row.isAuthorizedBy identity = true := by
    intro rowId listed
    obtain ⟨credential, found, rfl⟩ := List.mem_map.mp listed
    obtain ⟨entry, isEntry, rfl⟩ := List.mem_map.mp found
    obtain ⟨stored, authorized⟩ := List.mem_filter.mp isEntry
    exact ⟨entry.2, Table.find?_eq_some_iff.mpr stored, authorized⟩
  constructor
  · intro rowId listed
    obtain ⟨row, found, _⟩ := authorized rowId listed
    rw [found]
    rfl
  · intro rowId listed row found _ belongs
    obtain ⟨stored, isStored, isAuthorized⟩ := authorized rowId listed
    rw [found] at isStored
    cases isStored
    obtain ⟨other, isOther, different⟩ := belongs
    rw [ProviderCredential.isAuthorizedBy, Bool.and_eq_true, Bool.and_eq_true, beq_iff_eq,
      isOther] at isAuthorized
    exact different (by simpa using isAuthorized.1.2)

section Kept

variable {rewritten : CredentialTable}

theorem FoundOwn.kept (own : FoundOwn db.platform.credentials identity credentials)
    (present : ∀ rowId, (db.platform.credentials.find? rowId).isSome = true →
      (rewritten.find? rowId).isSome = true)
    (earlier : ∀ rowId ∈ credentials.map (·.id), ∀ row, rewritten.find? rowId = some row →
      row.revokedAt = none → BelongsToOther identity row →
      db.platform.credentials.find? rowId = some row) :
    FoundOwn rewritten identity credentials where
  present := fun rowId listed => present rowId (own.present rowId listed)
  own := by
    intro rowId listed row found active belongs
    exact own.own rowId listed row (earlier rowId listed row found active belongs) active belongs

theorem ownersOwn_kept (own : OwnersOwn db now identity credentials)
    (earlier : ∀ id ∈ ownerIds credentials, MarkChanges db now id → ∀ rowId row,
      rewritten.find? rowId = some row → row.revokedAt = none →
      row.owner.provider = .metaPlatforms → row.owner.connection = .connectedAccount id →
      BelongsToOther identity row → db.platform.credentials.find? rowId = some row) :
    OwnersOwn { db with platform := { db.platform with credentials := rewritten } } now identity
      credentials := by
  intro id owner changes other
  obtain ⟨rowId, row, found, provider, connection, active, belongs⟩ := other
  exact own id owner changes ⟨rowId, row,
    earlier id owner changes rowId row found active provider connection belongs, provider,
    connection, active, belongs⟩

end Kept

theorem heldOwn_revoke (own : HeldOwn identity system) (query : CredentialQuery) (now : Int) :
    HeldOwn identity
      (system.withCredentials
        (revokeProviderCredential system.db.platform.credentials query now)) := by
  have earlier : ∀ rowId row,
      (revokeProviderCredential system.db.platform.credentials query now).find? rowId = some row →
      row.revokedAt = none → system.db.platform.credentials.find? rowId = some row := by
    intro rowId row found active
    unfold revokeProviderCredential at found
    split at found
    next id revoked isActive =>
      rw [Table.find?_modify] at found
      split at found
      · obtain ⟨before, _, rfl⟩ := Option.map_eq_some_iff.mp found
        cases active
      · exact found
    next => exact found
  have present : ∀ rowId, (system.db.platform.credentials.find? rowId).isSome = true →
      ((revokeProviderCredential system.db.platform.credentials query now).find?
        rowId).isSome = true := by
    intro rowId isThere
    unfold revokeProviderCredential
    split
    next => rw [Table.isSome_find?_modify]; exact isThere
    next => exact isThere
  unfold HeldOwn at own ⊢
  cases stage : system.stage with
  | found credentials =>
    rw [stage] at own
    simp only [DeauthorizeSystem.withCredentials, stage]
    exact ⟨own.1.kept present fun rowId _ row found active _ => earlier rowId row found active,
      ownersOwn_kept own.2 fun _ _ _ rowId row found active _ _ _ => earlier rowId row found active⟩
  | revoked credentials count =>
    rw [stage] at own
    simp only [DeauthorizeSystem.withCredentials, stage]
    exact ownersOwn_kept own fun _ _ _ rowId row found active _ _ _ => earlier rowId row found active
  | _ => simp only [DeauthorizeSystem.withCredentials, stage]

structure StoredRow (table : CredentialTable) (input : StoreCredentialInput) (rowId : String)
    (row : ProviderCredential) : Prop where
  owner : row.owner = input.query
  identity : row.authorizingProviderUserId = input.authorizingProviderUserId
  rotated : (table.find? rowId).isSome = true → ∃ before,
    findActive table input.query = some (rowId, before)

theorem stored_cases {env : VaultEnv} {table stored : CredentialTable}
    {input : StoreCredentialInput} {draw : CredentialDraw} {time : Int}
    (succeeds : storeProviderCredential env table input draw time = some stored) :
    env.key ≠ none ∧
      (∀ rowId, (table.find? rowId).isSome = true → (stored.find? rowId).isSome = true) ∧
      ∀ rowId row, stored.find? rowId = some row →
        table.find? rowId = some row ∨ StoredRow table input rowId row := by
  obtain ⟨key, configured, wrote⟩ := Option.map_eq_some_iff.mp succeeds
  refine ⟨by rw [configured]; exact nofun, ?_⟩
  dsimp only at wrote
  split at wrote
  next id before isActive =>
    subst wrote
    constructor
    · intro rowId isThere
      rw [Table.isSome_find?_modify]
      exact isThere
    · intro rowId row found
      rw [Table.find?_modify] at found
      split at found
      next same =>
        subst same
        rw [find?_of_findActive isActive] at found
        cases found
        exact .inr ⟨(isActive_of_findActive isActive).1, rfl, fun _ => ⟨before, isActive⟩⟩
      next => exact .inl found
  next =>
    subst wrote
    have fresh := find?_newId env table
    constructor
    · intro rowId isThere
      obtain ⟨row, found⟩ := Option.isSome_iff_exists.mp isThere
      rw [Table.find?_insert_of_found fresh found]
      rfl
    · intro rowId row found
      rcases Table.of_find?_insert fresh found with ⟨rfl, rfl⟩ | ⟨_, earlier⟩
      · refine .inr ⟨rfl, rfl, ?_⟩
        rw [fresh]
        exact nofun
      · exact .inl earlier

section

variable (own : HeldOwn (metaIdentity providerUserId) system)
include own

theorem heldOwn_store {env : VaultEnv} {stored : CredentialTable} {input : StoreCredentialInput}
    {draw : CredentialDraw} {time : Int}
    (spares : StoresSpare providerUserId system (.store env input draw time))
    (succeeds : storeProviderCredential env system.db.platform.credentials input draw time =
      some stored) :
    HeldOwn (metaIdentity providerUserId) (system.withCredentials stored) := by
  obtain ⟨keyed, present, cases⟩ := stored_cases succeeds
  have spared := spares keyed
  unfold HeldOwn at own ⊢
  have rowsEarlier (credentials : List AuthorizedCredential)
      (sparesRows : (∃ other, input.authorizingProviderUserId = some other ∧
        other ≠ metaIdentity providerUserId) →
          input.SparesRows system.db.platform.credentials credentials)
      (found : FoundOwn system.db.platform.credentials (metaIdentity providerUserId) credentials) :
      FoundOwn stored (metaIdentity providerUserId) credentials := by
    refine found.kept present ?_
    intro rowId listed row isRow _ belongs
    obtain earlier | wrote := cases rowId row isRow
    · exact earlier
    · obtain ⟨before, isActive⟩ := wrote.rotated (found.present rowId listed)
      unfold BelongsToOther at belongs
      rw [wrote.identity] at belongs
      exact absurd listed (sparesRows belongs rowId before isActive)
  have ownersEarlier (credentials : List AuthorizedCredential)
      (sparesOwners : (∃ other, input.authorizingProviderUserId = some other ∧
        other ≠ metaIdentity providerUserId) → input.SparesOwners system.db system.now credentials)
      (owners : OwnersOwn system.db system.now (metaIdentity providerUserId) credentials) :
      OwnersOwn (system.withCredentials stored).db system.now (metaIdentity providerUserId)
        credentials := by
    refine ownersOwn_kept owners ?_
    intro id owner changes rowId row isRow _ provider connection belongs
    obtain earlier | wrote := cases rowId row isRow
    · exact earlier
    · unfold BelongsToOther at belongs
      rw [wrote.identity] at belongs
      rw [wrote.owner] at provider connection
      exact absurd connection (sparesOwners belongs id owner changes provider)
  cases stage : system.stage with
  | found credentials =>
    rw [stage] at own
    rw [stage] at spared
    simp only [DeauthorizeSystem.withCredentials, stage]
    exact ⟨rowsEarlier credentials (fun other => (spared other).1) own.1,
      ownersEarlier credentials (fun other => (spared other).2) own.2⟩
  | revoked credentials count =>
    rw [stage] at own
    rw [stage] at spared
    simp only [DeauthorizeSystem.withCredentials, stage]
    exact ownersEarlier credentials spared own
  | _ => simp only [DeauthorizeSystem.withCredentials, stage]

theorem heldOwn_advance (spares : StoresSpare providerUserId system .advance) :
    HeldOwn (metaIdentity providerUserId) (system.advance (metaIdentity providerUserId)) := by
  unfold HeldOwn at own
  unfold DeauthorizeSystem.advance
  cases stage : system.stage with
  | start =>
    dsimp only
    split
    · exact trivial
    next named => exact ⟨foundOwn_findAuthorized _ _, spares stage named⟩
  | found credentials =>
    rw [stage] at own
    change OwnersOwn (revokeFound credentials system.now system.db).1 system.now _ credentials
    rw [revokeFound_eq]
    refine ownersOwn_kept own.2 ?_
    intro id _ _ rowId row found active _ _ _
    rw [Table.find?_updateWhere] at found
    obtain ⟨before, isBefore, changed⟩ := Option.map_eq_some_iff.mp found
    split at changed
    · subst changed
      cases active
    · subst changed
      exact isBefore
  | revoked credentials count => exact trivial
  | invalidated revoked invalidated => exact trivial
  | returned result =>
    dsimp only
    rw [HeldOwn, stage]
    exact trivial

theorem heldOwn_step (spares : StoresSpare providerUserId system action) :
    HeldOwn (metaIdentity providerUserId) (system.step providerUserId action) := by
  cases action with
  | advance => exact heldOwn_advance own spares
  | restart now => exact trivial
  | store env input draw now =>
    unfold DeauthorizeSystem.step
    dsimp only
    split
    next stored succeeds => exact heldOwn_store own spares succeeds
    next => exact own
  | revoke query now => exact heldOwn_revoke own query now

theorem sparesOthers_of_held : SparesOthers providerUserId system action := by
  intro advances
  subst advances
  rw [DeauthorizeSystem.step, advance_platform]
  unfold HeldOwn at own
  cases stage : system.stage with
  | found credentials =>
    rw [stage] at own
    dsimp only
    rw [revokeFound_eq]
    refine ⟨?_, changes_spared_of_same⟩
    intro rowId row row' found found' active revoked
    rw [Table.find?_updateWhere, found, Option.map_some] at found'
    cases tested : isFound credentials rowId row with
    | true =>
      rw [isFound, Bool.and_eq_true, List.contains_iff_mem] at tested
      exact own.1.own rowId tested.1 row found active
    | false =>
      rw [tested, if_neg Bool.false_ne_true] at found'
      cases found'
      exact absurd active revoked
  | revoked credentials count =>
    rw [stage] at own
    dsimp only
    rw [invalidateOwners_eq]
    refine ⟨revokes_spared_of_same, ?_⟩
    intro id account account' found found' changed
    rw [Table.find?_updateWhere, found, Option.map_some] at found'
    cases tested : isOwner credentials id account with
    | true =>
      rw [tested, if_pos rfl] at found'
      cases found'
      simp only [isOwner, Bool.and_eq_true, List.contains_iff_mem, bne_iff_ne] at tested
      exact own id tested.1 ⟨account, found, tested.2, changed⟩
    | false =>
      rw [tested, if_neg Bool.false_ne_true] at found'
      cases found'
      exact absurd rfl changed
  | start | invalidated | returned => exact ⟨revokes_spared_of_same, changes_spared_of_same⟩

end

/-- The callback survives a crash exactly if it does not stop between the credentials and
accounts that are still to be downgraded. It spares other identities in every run in which the
vault gives them nothing of what it has read, before it has written. -/
theorem deauthorize_converges_and_spares (providerUserId : String) (now later : Int)
    (count : Nat) (db : IdentityDatabase) (actions : List DeauthorizeAction) :
    (RerunConverges providerUserId now later count db ↔ RerunHarmless providerUserId count db) ∧
      (Runs.Meets (DeauthorizeSystem.step providerUserId) (StoresSpare providerUserId)
          (.start db now) actions →
        Runs.Meets (DeauthorizeSystem.step providerUserId) (SparesOthers providerUserId)
          (.start db now) actions) := by
  refine ⟨rerunConverges_iff providerUserId now later count db, ?_⟩
  intro spares
  exact spares.of_invariant (fun own spares => heldOwn_step own spares)
    (fun own _ => sparesOthers_of_held own) trivial

/-! A Page that an identity authorised. -/

def authorizedInput (identity : String) : StoreCredentialInput where
  query := metaQuery "t1" "a1" .longLivedToken
  secret := "tok"
  tokenType := none
  expiresAt := none
  scopes := []
  authorizingProviderUserId := some identity

def authorizedPage : ConnectedAccount where
  tenantId := "t1"
  brandId := "b1"
  platform := .facebookPage
  status := .active
  mode := .readOnly
  health := .healthy
  externalId := "p1"
  externalName := some "Shop"
  pageId := some "p1"
  igBusinessId := none
  scopes := []
  grantedPermissions := []
  monitoringEnabled := true
  connectionStatus := .connected
  tokenHealth := .ok
  lastTokenCheckAt := none
  lastTokenCheckResult := none
  requiresReconnectReason := none
  accessToken := none
  longLivedToken := none
  refreshToken := none
  tokenType := none
  tokenExpiresAt := none
  lastError := none
  lastErrorAt := none
  syncAttempts := 0
  nextRetryAt := none
  parentAccountId := none

def authorizedDatabase : IdentityDatabase where
  platform :=
    { accounts := Table.empty.insert "a1" authorizedPage
      credentials := Table.empty.insert "c1" ((authorizedInput "u1").created
        ((authorizedInput "u1").encrypted transparentEnv ⟨"kek-local", "v1", []⟩ ⟨[], [], []⟩))
      syncLeases := [] }
  oAuthAccounts := []

/-- The same person reconnects the Page while the callback runs. -/
theorem deauthorize_spares_reconnect :
    Runs.Meets (DeauthorizeSystem.step "u1") (SparesOthers "u1") (.start authorizedDatabase 0)
      [.advance, .store transparentEnv (authorizedInput "u1") ⟨[], [], []⟩ 0, .advance, .advance,
        .advance] := by
  have same : metaIdentity "u1" = "u1" := by decide +kernel
  refine (deauthorize_converges_and_spares "u1" 0 1 2 authorizedDatabase _).2
    ⟨?_, ?_, ?_, ?_, ?_, trivial⟩
  · intro _ _ id _ _ holds
    obtain ⟨rowId, row, found, _, _, _, other, isOther, different⟩ := holds
    rcases Table.of_find?_insert rfl found with ⟨_, rfl⟩ | ⟨_, absent⟩
    · cases isOther
      exact different same.symm
    · cases absent
  · intro _ belongs
    obtain ⟨other, isOther, different⟩ := belongs
    cases isOther
    exact absurd same.symm different
  · exact fun stage => absurd stage (by decide +kernel)
  · exact fun stage => absurd stage (by decide +kernel)
  · exact fun stage => absurd stage (by decide +kernel)

/-- The callback has found the credential, and another person reconnects the Page. -/
def rotatedSystem : DeauthorizeSystem :=
  Runs.run (DeauthorizeSystem.step "u1") (.start authorizedDatabase 0)
    [.advance, .store transparentEnv (authorizedInput "u2") ⟨[], [], []⟩ 0]

/-- A crash between the credentials and the accounts is not made up for; and a credential
that another person has rotated in place since it was found is revoked with the rest. -/
theorem not_deauthorize_converges_nor_spares :
    ¬RerunConverges "u1" 0 1 2 authorizedDatabase ∧
      ¬Runs.Meets (DeauthorizeSystem.step "u1") (SparesOthers "u1") (.start authorizedDatabase 0)
        [.advance, .store transparentEnv (authorizedInput "u2") ⟨[], [], []⟩ 0, .advance] := by
  constructor
  · rw [rerunConverges_iff]
    intro harmless
    have marked := harmless rfl (by decide +kernel) "a1" (by decide +kernel) authorizedPage
      (by decide +kernel) (by decide)
    exact absurd marked.1 (by decide)
  · rintro ⟨-, -, spares, -⟩
    have rotated : (rotatedSystem.db.platform.credentials.find? "c1").any (fun row =>
        row.revokedAt == none && row.authorizingProviderUserId == some "u2") = true := by
      decide +kernel
    have revoked : ((rotatedSystem.step "u1" .advance).db.platform.credentials.find? "c1").any
        (fun row => row.revokedAt != none) = true := by
      decide +kernel
    obtain ⟨row, found, tests⟩ := (Option.any_eq_true _ _).mp rotated
    obtain ⟨after, foundAfter, isRevoked⟩ := (Option.any_eq_true _ _).mp revoked
    rw [Bool.and_eq_true, beq_iff_eq, beq_iff_eq] at tests
    rw [bne_iff_ne] at isRevoked
    exact (spares rfl).1 "c1" row after found foundAfter tests.1 isRevoked
      ⟨"u2", tests.2, by decide +kernel⟩

end Tamanor.Db
