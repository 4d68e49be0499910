import Tamanor.Core.BusinessContacts
import Tamanor.Db.CredentialCrypto
import Tamanor.Library.Table

/-! The credential vault (`provider-credential-vault.ts`) and the resolver of Meta tokens
over it (`provider-credential-resolver.ts`). -/

set_option autoImplicit false

namespace Tamanor.Db

open Tamanor.Core Library

inductive CredentialPurpose where
  | accessToken | longLivedToken | refreshToken
deriving DecidableEq

def CredentialPurpose.value : CredentialPurpose → String
  | .accessToken => "access_token"
  | .longLivedToken => "long_lived_token"
  | .refreshToken => "refresh_token"

inductive CredentialConnection where
  | connectedAccount (id : String)
  | businessConnection (id : String)
deriving DecidableEq

def CredentialConnection.id : CredentialConnection → String
  | .connectedAccount id => id
  | .businessConnection id => id

structure CredentialQuery where
  tenantId : String
  provider : BusinessProvider
  purpose : CredentialPurpose
  connection : CredentialConnection
deriving DecidableEq

def CredentialQuery.aad (query : CredentialQuery) : CredentialAad where
  tenantId := query.tenantId
  provider := query.provider.value
  connectionId := query.connection.id
  purpose := query.purpose.value

/-- A row without its id. The columns that a query selects by are its owner. -/
structure ProviderCredential where
  owner : CredentialQuery
  secret : EncryptedCredential
  tokenType : Option String
  expiresAt : Option Int
  scopes : List String
  authorizingProviderUserId : Option String
  rotatedAt : Option Int
  revokedAt : Option Int

abbrev CredentialTable := Table String ProviderCredential

/-- Keys and settings of the deployment. No key means that the key provider throws; new ids
are never ones in use. -/
structure VaultEnv where
  newId : List String → String
  newId_fresh : ∀ used, newId used ∉ used
  aead : Aead
  sha256Hex : String → String
  key : Option KeyProvider
  tokens : TokenCipher
  legacyFallback : Option String
  disallowExpired : Option String

namespace VaultEnv

/-- `(value ?? missing).trim().toLowerCase()`, as far as a word of ASCII letters can tell. -/
def setting (value : Option String) (missing : String) : String :=
  (String.ofList (Text.trim (value.getD missing).toList)).toLower

def legacyFallbackEnabled (env : VaultEnv) : Bool := setting env.legacyFallback "true" != "false"

def expiredAllowed (env : VaultEnv) : Bool := setting env.disallowExpired "" != "true"

def decrypt (env : VaultEnv) (row : ProviderCredential) (query : CredentialQuery) : Option String :=
  env.key.bind fun key => decryptCredential env.aead key row.secret query.aad

end VaultEnv

inductive UnusableReason where
  | revoked | expired
deriving DecidableEq

inductive VaultError where
  | decryptFailed (credentialId : String)
  | unusable (reason : UnusableReason)
  | legacy (error : TokenError)
deriving DecidableEq

inductive CredentialOutcome where
  | present (plaintext : String) (expired : Bool)
  | revoked | absent

def ProviderCredential.isActive (row : ProviderCredential) (query : CredentialQuery) : Bool :=
  row.owner == query && row.revokedAt.isNone

def ProviderCredential.isRevoked (row : ProviderCredential) (query : CredentialQuery) : Bool :=
  row.owner == query && row.revokedAt.isSome

variable (table : CredentialTable)

/-- The active row; a partial unique index keeps it the only one. -/
def findActive (query : CredentialQuery) : Option (String × ProviderCredential) :=
  table.rows.find? fun row => row.2.isActive query

def hasRevoked (query : CredentialQuery) : Bool :=
  table.rows.any fun row => row.2.isRevoked query

def resolveProviderCredential (env : VaultEnv) (table : CredentialTable)
    (query : CredentialQuery) : Except VaultError (Option String) :=
  match findActive table query with
  | none => .ok none
  | some (id, row) =>
    match env.decrypt row query with
    | some plaintext => .ok (some plaintext)
    | none => .error (.decryptFailed id)

def resolveProviderCredentialOutcome (env : VaultEnv) (table : CredentialTable) (now : Int)
    (query : CredentialQuery) : Except VaultError CredentialOutcome :=
  match findActive table query with
  | some (id, row) =>
    match env.decrypt row query with
    | some plaintext => .ok (.present plaintext (row.expiresAt.any (· < now)))
    | none => .error (.decryptFailed id)
  | none => .ok (if hasRevoked table query then .revoked else .absent)

structure StoreCredentialInput where
  query : CredentialQuery
  secret : String
  tokenType : Option String
  expiresAt : Option Int
  scopes : List String
  authorizingProviderUserId : Option String

def ProviderCredential.rewrite (row : ProviderCredential) (input : StoreCredentialInput)
    (secret : EncryptedCredential) (rotatedAt : Option Int) : ProviderCredential :=
  { row with
    secret := secret
    authorizingProviderUserId := input.authorizingProviderUserId
    tokenType := input.tokenType
    expiresAt := input.expiresAt
    scopes := input.scopes
    rotatedAt := rotatedAt }

def StoreCredentialInput.created (input : StoreCredentialInput) (secret : EncryptedCredential) :
    ProviderCredential where
  owner := input.query
  secret := secret
  tokenType := input.tokenType
  expiresAt := input.expiresAt
  scopes := input.scopes
  authorizingProviderUserId := input.authorizingProviderUserId
  rotatedAt := none
  revokedAt := none

def StoreCredentialInput.encrypted (input : StoreCredentialInput) (env : VaultEnv)
    (key : KeyProvider) (draw : CredentialDraw) : EncryptedCredential :=
  encryptCredential env.aead env.sha256Hex key draw input.secret input.query.aad

def storeProviderCredential (env : VaultEnv) (table : CredentialTable)
    (input : StoreCredentialInput) (draw : CredentialDraw) (now : Int) : Option CredentialTable :=
  env.key.map fun key =>
    let secret := input.encrypted env key draw
    match findActive table input.query with
    | some (id, _) => table.modify id fun row => row.rewrite input secret (some now)
    | none => table.insert (env.newId (table.rows.map Prod.fst)) (input.created secret)

def revokeProviderCredential (query : CredentialQuery) (now : Int) : CredentialTable :=
  match findActive table query with
  | some (id, _) => table.modify id fun row => { row with revokedAt := some now }
  | none => table

structure MetaTokenAccount where
  id : String
  tenantId : String
  longLivedToken : Option String
  accessToken : Option String

def metaQuery (tenantId accountId : String) (purpose : CredentialPurpose) : CredentialQuery where
  tenantId := tenantId
  provider := .metaPlatforms
  purpose := purpose
  connection := .connectedAccount accountId

inductive MetaTokenSource where
  | vault | legacy

structure ResolvedMetaToken where
  token : String
  source : MetaTokenSource

def probeVault (env : VaultEnv) (table : CredentialTable) (now : Int) (tenantId accountId : String) :
    List CredentialPurpose → Except VaultError (Option String)
  | [] => .ok none
  | purpose :: rest =>
    match resolveProviderCredentialOutcome env table now (metaQuery tenantId accountId purpose) with
    | .error err => .error err
    | .ok (.present plaintext expired) =>
      if expired && !env.expiredAllowed then .error (.unusable .expired)
      else .ok (some plaintext)
    | .ok .revoked => .error (.unusable .revoked)
    | .ok .absent => probeVault env table now tenantId accountId rest

def metaPurposes : List CredentialPurpose := [.longLivedToken, .accessToken]

def legacyToken (env : VaultEnv) (account : MetaTokenAccount) : Except TokenError (Option String) :=
  decryptToken env.tokens (account.longLivedToken <|> account.accessToken)

def resolveMetaAccessToken (env : VaultEnv) (table : CredentialTable) (now : Int)
    (account : MetaTokenAccount) : Except VaultError (Option ResolvedMetaToken) :=
  match probeVault env table now account.tenantId account.id metaPurposes with
  | .error err => .error err
  | .ok (some token) => .ok (some ⟨token, .vault⟩)
  | .ok none =>
    if env.legacyFallbackEnabled then
      match legacyToken env account with
      | .error err => .error (.legacy err)
      | .ok token => .ok ((token.filter (· ≠ "")).map (⟨·, .legacy⟩))
    else .ok none

def resolveMetaAccessTokenSafe (env : VaultEnv) (table : CredentialTable) (now : Int)
    (account : MetaTokenAccount) : Option String :=
  match resolveMetaAccessToken env table now account with
  | .ok (some resolved) => some resolved.token
  | _ => none

end Tamanor.Db
