import Tamanor.Library.Base64

/-! Encryption of provider credentials (`provider-credential-crypto.ts`) and of the tokens
in the legacy columns (`token-crypto.ts`), over an authenticated cipher. -/

set_option autoImplicit false

namespace Tamanor.Db

open Library

abbrev Bytes := List UInt8

/-- AES-256-GCM. What it sealed it opens, with the key, the vector and the additional
data that it was sealed with. -/
structure Aead where
  encipher : (key iv : Bytes) → (additional : String) → (plaintext : Bytes) → Bytes × Bytes
  decipher? : (key iv : Bytes) → (additional : String) → (ciphertext tag : Bytes) → Option Bytes
  decipher_encipher : ∀ key iv additional plaintext,
    decipher? key iv additional (encipher key iv additional plaintext).1
      (encipher key iv additional plaintext).2 = some plaintext

structure CredentialAad where
  tenantId : String
  provider : String
  connectionId : String
  purpose : String

structure WrappedDataKey where
  keyProvider : String
  keyVersion : String
  iv : Bytes
  tag : Bytes
  sealed : Bytes

structure EncryptedCredential where
  ciphertext : Bytes
  iv : Bytes
  authTag : Bytes
  wrappedDataKey : WrappedDataKey
  keyProvider : String
  keyVersion : String
  formatVersion : String
  fingerprint : String

/-- `LocalKekKeyProvider`. -/
structure KeyProvider where
  id : String
  keyVersion : String
  kek : Bytes

structure CredentialDraw where
  dek : Bytes
  iv : Bytes
  wrapIv : Bytes

def pcvFormatVersion : String := "pcv1"

def canonicalAad (aad : CredentialAad) (keyVersion : String) : String :=
  "|".intercalate
    [pcvFormatVersion, keyVersion, aad.tenantId, aad.provider, aad.connectionId, aad.purpose]

namespace KeyProvider

def binding (key : KeyProvider) : String := key.id ++ "|" ++ key.keyVersion

def wrapDataKey (aead : Aead) (key : KeyProvider) (dek wrapIv : Bytes) : WrappedDataKey :=
  let sealed := aead.encipher key.kek wrapIv key.binding dek
  { keyProvider := key.id, keyVersion := key.keyVersion, iv := wrapIv, tag := sealed.2
    sealed := sealed.1 }

def unwrapDataKey (aead : Aead) (key : KeyProvider) (wrapped : WrappedDataKey) : Option Bytes :=
  if wrapped.keyProvider = key.id ∧ wrapped.keyVersion = key.keyVersion then
    aead.decipher? key.kek wrapped.iv key.binding wrapped.sealed wrapped.tag
  else none

theorem unwrapDataKey_wrapDataKey (aead : Aead) (key : KeyProvider) (dek wrapIv : Bytes) :
    key.unwrapDataKey aead (key.wrapDataKey aead dek wrapIv) = some dek := by
  simp [unwrapDataKey, wrapDataKey, aead.decipher_encipher]

end KeyProvider

def credentialFingerprint (sha256Hex : String → String) (plaintext : String) : String :=
  String.ofList ((sha256Hex plaintext).toList.take 32)

def encryptCredential (aead : Aead) (sha256Hex : String → String) (key : KeyProvider)
    (draw : CredentialDraw) (plaintext : String) (aad : CredentialAad) : EncryptedCredential :=
  let sealed := aead.encipher draw.dek draw.iv (canonicalAad aad key.keyVersion)
    (Base64.utf8Bytes plaintext.toList)
  { ciphertext := sealed.1
    iv := draw.iv
    authTag := sealed.2
    wrappedDataKey := key.wrapDataKey aead draw.dek draw.wrapIv
    keyProvider := key.id
    keyVersion := key.keyVersion
    formatVersion := pcvFormatVersion
    fingerprint := credentialFingerprint sha256Hex plaintext }

def decryptCredential (aead : Aead) (key : KeyProvider) (record : EncryptedCredential)
    (aad : CredentialAad) : Option String := do
  if record.formatVersion ≠ pcvFormatVersion then none
  else
    let dek ← key.unwrapDataKey aead record.wrappedDataKey
    let plaintext ← aead.decipher? dek record.iv (canonicalAad aad record.keyVersion)
      record.ciphertext record.authTag
    some (String.ofList (Base64.utf8Text plaintext))

theorem decryptCredential_encryptCredential (aead : Aead) (sha256Hex : String → String)
    (key : KeyProvider) (draw : CredentialDraw) (plaintext : String) (aad : CredentialAad) :
    decryptCredential aead key (encryptCredential aead sha256Hex key draw plaintext aad) aad =
      some plaintext := by
  simp [decryptCredential, encryptCredential, KeyProvider.unwrapDataKey_wrapDataKey, aead.decipher_encipher,
    Base64.utf8Text_utf8Bytes]

inductive TokenEncryptionMode where
  | plaintext | aesGcm | kms

inductive TokenError where
  | decryptFailed | kmsUnavailable | untagged | invalidMode
deriving DecidableEq

def plaintextPrefix : Text := "plain:v1:".toList

def aesPrefix : Text := "aesgcm:v1:".toList

def kmsPrefix : Text := "kms:v1:".toList

/-- The mode is none if the setting is invalid; `aesDecrypt` is none if it throws. -/
structure TokenCipher where
  mode : Option TokenEncryptionMode
  aesDecrypt : Text → Option String

def decryptToken (cipher : TokenCipher) (stored : Option String) :
    Except TokenError (Option String) :=
  match stored.filter (· ≠ "") with
  | none => .ok none
  | some stored =>
    let text := stored.toList
    if plaintextPrefix.isPrefixOf text then
      .ok (some (String.ofList (text.drop plaintextPrefix.length)))
    else if aesPrefix.isPrefixOf text then
      match cipher.aesDecrypt (text.drop aesPrefix.length) with
      | some token => .ok (some token)
      | none => .error .decryptFailed
    else if kmsPrefix.isPrefixOf text then .error .kmsUnavailable
    else
      match cipher.mode with
      | none => .error .invalidMode
      | some .aesGcm => .error .untagged
      | some _ => .ok (some stored)

end Tamanor.Db
