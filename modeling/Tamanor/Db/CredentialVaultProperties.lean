import Tamanor.Db.CredentialVault

/-! What the operations of the vault change, seen through the two questions that the
resolver asks: which row is active, and whether there is a revoked one. -/

set_option autoImplicit false

namespace Tamanor.Db

open Tamanor.Core Library

variable {env : VaultEnv} {table stored : CredentialTable} {query : CredentialQuery}
  {input : StoreCredentialInput} {draw : CredentialDraw} {now : Int} {id : String}
  {row : ProviderCredential}

theorem isActive_of_findActive (found : findActive table query = some (id, row)) :
    row.owner = query ∧ row.revokedAt = none := by
  have active := List.find?_some found
  rw [ProviderCredential.isActive, Bool.and_eq_true, beq_iff_eq, Option.isNone_iff_eq_none] at active
  exact active

theorem find?_of_findActive (found : findActive table query = some (id, row)) :
    table.find? id = some row :=
  Table.find?_of_find?_rows found

/-- What a store leaves behind: the secret is the active one for its owner, and no other
question to the vault has another answer. -/
structure Stores (env : VaultEnv) (table : CredentialTable) (input : StoreCredentialInput)
    (stored : CredentialTable) : Prop where
  active : ∃ id row, findActive stored input.query = some (id, row) ∧
    env.decrypt row input.query = some input.secret ∧ row.expiresAt = input.expiresAt ∧
    row.authorizingProviderUserId = input.authorizingProviderUserId
  others : ∀ query, query ≠ input.query → findActive stored query = findActive table query
  revoked : ∀ query, hasRevoked stored query = hasRevoked table query

theorem findActive_rewrite (found : findActive table query = some (id, row))
    (secret : EncryptedCredential) (rotatedAt : Option Int) (other : CredentialQuery) :
    findActive (table.modify id fun row => row.rewrite input secret rotatedAt) other =
      if other = query then some (id, row.rewrite input secret rotatedAt)
      else findActive table other := by
  have owned := isActive_of_findActive found
  have looked : findActive (table.modify id fun row => row.rewrite input secret rotatedAt) other =
      (findActive table other).map fun found =>
        if found.1 = id then (found.1, found.2.rewrite input secret rotatedAt) else found :=
    Table.find?_rows_modify table id _ fun _ _ => rfl
  rw [looked]
  split
  next same => simp [same, found]
  next different =>
    cases active : findActive table other with
    | none => rfl
    | some otherFound =>
      obtain ⟨otherId, otherRow⟩ := otherFound
      have apart : otherId ≠ id := by
        rintro rfl
        have same := (find?_of_findActive active).symm.trans (find?_of_findActive found)
        obtain rfl := Option.some.inj same
        exact different ((isActive_of_findActive active).1.symm.trans owned.1)
      simp [apart]

theorem findActive_created (fresh : table.find? id = none)
    (inactive : findActive table input.query = none) (secret : EncryptedCredential)
    (other : CredentialQuery) :
    findActive (table.insert id (input.created secret)) other =
      if other = input.query then some (id, input.created secret) else findActive table other := by
  rw [findActive, Table.rows_insert id fresh, List.find?_append]
  split
  next same =>
    rw [same, show table.rows.find? _ = none from inactive]
    simp [ProviderCredential.isActive, StoreCredentialInput.created]
  next different =>
    simp [ProviderCredential.isActive, StoreCredentialInput.created, Ne.symm different, findActive]

theorem decrypt_encrypted (key : KeyProvider) (configured : env.key = some key)
    (drawn : CredentialDraw) (encrypted : row.secret = input.encrypted env key drawn) :
    env.decrypt row input.query = some input.secret := by
  rw [VaultEnv.decrypt, configured, Option.bind_some, encrypted, StoreCredentialInput.encrypted,
    decryptCredential_encryptCredential]

theorem find?_newId (env : VaultEnv) (table : CredentialTable) :
    table.find? (env.newId (table.rows.map Prod.fst)) = none :=
  Table.find?_eq_none_iff.mpr (env.newId_fresh _)

theorem stores_of_store (succeeds : storeProviderCredential env table input draw now = some stored) :
    Stores env table input stored := by
  obtain ⟨key, configured, written⟩ := Option.map_eq_some_iff.mp succeeds
  have opens (row : ProviderCredential) :
      row.secret = input.encrypted env key draw → env.decrypt row input.query = some input.secret :=
    decrypt_encrypted key configured draw
  cases found : findActive table input.query with
  | some active =>
    obtain ⟨id, row⟩ := active
    simp only [found] at written
    subst written
    have active (other : CredentialQuery) :
        findActive (table.modify id fun row => row.rewrite input (input.encrypted env key draw)
          (some now)) other = if other = input.query then _ else findActive table other :=
      findActive_rewrite found (input.encrypted env key draw) (some now) other
    refine ⟨⟨id, _, (active input.query).trans (if_pos rfl), opens _ rfl, rfl, rfl⟩, ?_, ?_⟩
    · intro query different
      rw [active, if_neg different]
    · intro query
      exact Table.any_rows_modify table id _ fun _ _ => rfl
  | none =>
    simp only [found] at written
    subst written
    have fresh := find?_newId env table
    have active := findActive_created fresh found (input.encrypted env key draw)
    refine ⟨⟨_, _, (active input.query).trans (if_pos rfl), opens _ rfl, rfl, rfl⟩, ?_, ?_⟩
    · intro query different
      rw [active, if_neg different]
    · intro query
      rw [hasRevoked, Table.rows_insert _ fresh, List.any_append, hasRevoked]
      simp [ProviderCredential.isRevoked, StoreCredentialInput.created]

theorem resolveProviderCredentialOutcome_congr
    (active : findActive stored query = findActive table query)
    (revoked : hasRevoked stored query = hasRevoked table query) :
    resolveProviderCredentialOutcome env stored now query =
      resolveProviderCredentialOutcome env table now query := by
  rw [resolveProviderCredentialOutcome, active, revoked, resolveProviderCredentialOutcome]

theorem probeVault_congr {tenantId accountId : String} {purposes : List CredentialPurpose}
    (active : ∀ purpose ∈ purposes, findActive stored (metaQuery tenantId accountId purpose) =
      findActive table (metaQuery tenantId accountId purpose))
    (revoked : ∀ purpose ∈ purposes, hasRevoked stored (metaQuery tenantId accountId purpose) =
      hasRevoked table (metaQuery tenantId accountId purpose)) :
    probeVault env stored now tenantId accountId purposes =
      probeVault env table now tenantId accountId purposes := by
  induction purposes with
  | nil => rfl
  | cons purpose rest ih =>
    have same : resolveProviderCredentialOutcome env stored now _ =
        resolveProviderCredentialOutcome env table now _ :=
      resolveProviderCredentialOutcome_congr (active purpose List.mem_cons_self)
        (revoked purpose List.mem_cons_self)
    have later := ih (fun purpose member => active purpose (List.mem_cons_of_mem _ member))
      fun purpose member => revoked purpose (List.mem_cons_of_mem _ member)
    rw [probeVault, same, later, probeVault]

/-! What the resolver finds after a store for an account. -/

variable {tenantId accountId : String}

theorem metaQuery_ne {otherId : String} (different : otherId ≠ accountId)
    (purpose other : CredentialPurpose) :
    metaQuery tenantId otherId other ≠ metaQuery tenantId accountId purpose := by
  intro same
  exact different (CredentialConnection.connectedAccount.inj (congrArg CredentialQuery.connection same))

def VaultEnv.refusesExpiry (env : VaultEnv) (now : Int) (expiresAt : Option Int) : Bool :=
  expiresAt.any (· < now) && !env.expiredAllowed

section

variable (stores : Stores env table input stored)
include stores

theorem probeVault_of_stores (owner : input.query = metaQuery tenantId accountId .longLivedToken) :
    probeVault env stored now tenantId accountId metaPurposes =
      if env.refusesExpiry now input.expiresAt then .error (.unusable .expired)
      else .ok (some input.secret) := by
  obtain ⟨id, row, active, opens, expiry, -⟩ := stores.active
  rw [owner] at active opens
  have outcome : resolveProviderCredentialOutcome env stored now
      (metaQuery tenantId accountId .longLivedToken) =
      .ok (.present input.secret (input.expiresAt.any (· < now))) := by
    simp only [resolveProviderCredentialOutcome, active, opens, expiry]
  rw [metaPurposes, probeVault, outcome]
  rfl

theorem probeVault_of_stores_other {otherId : String} {purpose : CredentialPurpose}
    (owner : input.query = metaQuery tenantId accountId purpose) (different : otherId ≠ accountId)
    (purposes : List CredentialPurpose) :
    probeVault env stored now tenantId otherId purposes =
      probeVault env table now tenantId otherId purposes := by
  refine probeVault_congr (fun other _ => stores.others _ ?_) fun other _ => stores.revoked _
  rw [owner]
  exact metaQuery_ne different purpose other

theorem resolveProviderCredential_of_stores :
    resolveProviderCredential env stored input.query = .ok (some input.secret) := by
  obtain ⟨id, row, active, opens, -⟩ := stores.active
  simp only [resolveProviderCredential, active, opens]

end

theorem resolveMetaAccessTokenSafe_congr {account other : MetaTokenAccount}
    (probed : probeVault env stored now other.tenantId other.id metaPurposes =
      probeVault env table now account.tenantId account.id metaPurposes)
    (longLived : other.longLivedToken = account.longLivedToken)
    (access : other.accessToken = account.accessToken) :
    resolveMetaAccessTokenSafe env stored now other =
      resolveMetaAccessTokenSafe env table now account := by
  simp only [resolveMetaAccessTokenSafe, resolveMetaAccessToken, probed, legacyToken, longLived,
    access]

theorem resolveMetaAccessTokenSafe_of_stores (stores : Stores env table input stored)
    {account : MetaTokenAccount}
    (owner : input.query = metaQuery account.tenantId account.id .longLivedToken) :
    resolveMetaAccessTokenSafe env stored now account =
      if env.refusesExpiry now input.expiresAt then none else some input.secret := by
  simp only [resolveMetaAccessTokenSafe, resolveMetaAccessToken, probeVault_of_stores stores owner]
  cases env.refusesExpiry now input.expiresAt <;> rfl

/-- A stored token is the one in use until it expires, and the other accounts keep theirs. -/
theorem resolve_stored {account : MetaTokenAccount} {later : Int}
    (succeeds : storeProviderCredential env table input draw now = some stored)
    (owner : input.query = metaQuery account.tenantId account.id .longLivedToken) :
    resolveMetaAccessTokenSafe env stored later account =
        (if env.refusesExpiry later input.expiresAt then none else some input.secret) ∧
      ∀ other : MetaTokenAccount, other.id ≠ account.id →
        resolveMetaAccessTokenSafe env stored later other =
          resolveMetaAccessTokenSafe env table later other := by
  have stores := stores_of_store succeeds
  refine ⟨resolveMetaAccessTokenSafe_of_stores stores owner, fun other different => ?_⟩
  refine resolveMetaAccessTokenSafe_congr (probeVault_congr (fun purpose _ => ?_)
    fun purpose _ => stores.revoked _) rfl rfl
  refine stores.others _ fun same => ?_
  rw [owner] at same
  exact different (CredentialConnection.connectedAccount.inj (congrArg CredentialQuery.connection same))

/-! A deployment with a cipher that hides nothing, for runs on given data. -/

def transparentAead : Aead where
  encipher _ _ _ plaintext := (plaintext, [])
  decipher? _ _ _ ciphertext _ := some ciphertext
  decipher_encipher _ _ _ _ := rfl

def longerId (used : List String) : String :=
  String.ofList (List.replicate ((used.map String.length).sum + 1) 'x')

theorem longerId_fresh (used : List String) : longerId used ∉ used := by
  intro member
  have bound : (longerId used).length ≤ (used.map String.length).sum :=
    List.single_le_sum (fun _ _ => Nat.zero_le _) _ (List.mem_map_of_mem member)
  have length : (longerId used).length = (used.map String.length).sum + 1 := by
    rw [longerId, String.length_ofList, List.length_replicate]
  omega

def transparentEnv : VaultEnv where
  newId := longerId
  newId_fresh := longerId_fresh
  aead := transparentAead
  sha256Hex text := text
  key := some ⟨"kek-local", "v1", []⟩
  tokens := ⟨some .plaintext, fun _ => none⟩
  legacyFallback := none
  disallowExpired := none

def secretInput : StoreCredentialInput :=
  ⟨metaQuery "t" "a" .longLivedToken, "secret", none, none, [], none⟩

def keptInput : StoreCredentialInput :=
  ⟨metaQuery "t" "b" .longLivedToken, "kept", none, none, [], none⟩

def storedRow (input : StoreCredentialInput) : ProviderCredential :=
  input.created (input.encrypted transparentEnv ⟨"kek-local", "v1", []⟩ ⟨[], [], []⟩)

def twoAccounts : CredentialTable where
  rows :=
    [("cred-a", storedRow { secretInput with secret := "old" }), ("cred-b", storedRow keptInput)]
  unique := by decide

theorem resolve_stored_rotated :
    ∃ stored, storeProviderCredential transparentEnv twoAccounts secretInput ⟨[], [], []⟩ 7 =
        some stored ∧
      stored.rows.map (fun row => (row.1, row.2.rotatedAt)) =
        [("cred-a", some 7), ("cred-b", none)] ∧
      resolveMetaAccessTokenSafe transparentEnv twoAccounts 8 ⟨"a", "t", none, none⟩ = some "old" ∧
      resolveMetaAccessTokenSafe transparentEnv stored 8 ⟨"a", "t", none, none⟩ = some "secret" ∧
      resolveMetaAccessTokenSafe transparentEnv stored 8 ⟨"b", "t", none, none⟩ = some "kept" := by
  have succeeds : storeProviderCredential transparentEnv twoAccounts secretInput ⟨[], [], []⟩ 7 =
    some _ := rfl
  obtain ⟨own, others⟩ := @resolve_stored _ _ _ _ _ _ ⟨"a", "t", none, none⟩ 8 succeeds rfl
  refine ⟨_, succeeds, rfl, ?_, own, ?_⟩
  · decide +kernel
  · rw [others ⟨"b", "t", none, none⟩ (by decide)]
    decide +kernel

end Tamanor.Db
