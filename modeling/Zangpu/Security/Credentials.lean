import Zangpu.Security.Keyring
import Zangpu.Services.Admin

/-!
Protected secrets of callers.

Owns: credential rows with their encrypted secret, `create_protected_credential` and
`decrypt_credential_secret`; the records that hold an encrypted secret, credentials
and bindings; and that a written record reads back under every later key ring, and
that its ciphertext opens in no record with other identifiers.

Does not own: the SHA-256 hex digest and the random draws, which are arguments. The
secret of a new credential is returned beside its row, where the source hands it out
once.
-/

set_option autoImplicit false

namespace Zangpu.Security

open Zangpu.Foundation
open Zangpu.Models
open Zangpu.Integrations.Bifrost (EncryptedSecret VirtualKeyCreationResult bindingAad envelopeText
  readEnvelope persistCreatedBinding persistCreatedBinding_ok decryptBindingValue
  readEnvelope_envelopeText)

/-! ## Credentials -/

/-- A credential with the columns of its encrypted secret. -/
structure ProtectedCredential extends ApiClientCredential where
  secretCiphertext : String
  secretNonce : String
  masterKeyId : String
  secretFingerprint : String
  deriving DecidableEq, Repr

/-- What a creation draws at random, and the clock reading. -/
structure CredentialDraws where
  credentialId : String
  keyToken : String
  secretToken : String
  nonce : GcmNonce
  clock : Int

/-- The arguments of `create_protected_credential`. -/
structure CredentialRequest where
  apiClientId : String
  createdBy : String
  credentialId : Option String := none
  keyId : Option String := none
  now : Option Int := none
  expiresAt : Option Int := none

/-- Python's `given or drawn`. -/
def givenOr (given : Option String) (drawn : String) : String :=
  (given.filter (· ≠ "")).getD drawn

variable (aead : Aead MasterKey GcmNonce) (sha256Hex : List UInt8 → String)

def secretFingerprint (secret : String) : String := sha256Hex (utf8 secret)

def createProtectedCredential (keyring : CredentialKeyring) (request : CredentialRequest)
    (draws : CredentialDraws) : Except KeyringError (ProtectedCredential × String) := do
  let resolvedCredentialId := givenOr request.credentialId draws.credentialId
  let resolvedKeyId := givenOr request.keyId ("zpk_" ++ draws.keyToken)
  let createdAt := request.now.getD draws.clock
  let secret := "zps_" ++ draws.secretToken
  let masterKeyId := keyring.activeKeyId
  let aad ← credentialAad resolvedCredentialId request.apiClientId resolvedKeyId masterKeyId
  let encrypted ← keyring.encrypt aead draws.nonce (utf8 secret) (utf8 aad)
  return ({
    id := resolvedCredentialId
    apiClientId := request.apiClientId
    keyId := resolvedKeyId
    secretCiphertext := encrypted.ciphertext
    secretNonce := encrypted.nonce
    masterKeyId := encrypted.keyId
    secretFingerprint := secretFingerprint sha256Hex secret
    status := .active
    expiresAt := request.expiresAt
    replacedById := none
    createdBy := request.createdBy
    revokedBy := none
    createdAt := createdAt
    revokedAt := none }, secret)

def decryptCredentialSecret (keyring : CredentialKeyring) (credential : ProtectedCredential) :
    Except KeyringError String := do
  let aad ← credentialAad credential.id credential.apiClientId credential.keyId
    credential.masterKeyId
  let plaintext ← keyring.decrypt aead
    ⟨credential.secretCiphertext, credential.secretNonce, credential.masterKeyId⟩ (utf8 aad)
  match decodeUtf8 plaintext with
  | none => .error (.credentialDecryptionError "credential plaintext is invalid")
  | some secret => do
      require (secretFingerprint sha256Hex secret = credential.secretFingerprint)
        (.credentialDecryptionError "credential fingerprint does not match")
      return secret

variable {aead} {sha256Hex}

/-- What a creation stores: the secret sealed under the identifiers of its own row. -/
theorem createProtectedCredential_ok {keyring : CredentialKeyring} {request : CredentialRequest}
    {draws : CredentialDraws} {credential : ProtectedCredential} {secret : String}
    (created : createProtectedCredential aead sha256Hex keyring request draws =
      .ok (credential, secret)) :
    ∃ aad, credentialAad credential.id credential.apiClientId credential.keyId
        credential.masterKeyId = .ok aad ∧
      (⟨credential.secretCiphertext, credential.secretNonce, credential.masterKeyId⟩ :
        EncryptedSecret) = keyring.sealSecret aead draws.nonce (utf8 secret) (utf8 aad) ∧
      credential.secretFingerprint = secretFingerprint sha256Hex secret := by
  simp only [createProtectedCredential, CredentialKeyring.encrypt, bind_ok_iff, require_ok_iff,
    pure, Except.pure, Except.ok.injEq, Prod.mk.injEq] at created
  obtain ⟨aad, bound, encrypted, ⟨_, _, rfl⟩, rfl, rfl⟩ := created
  exact ⟨aad, bound, rfl, rfl⟩

/-- A creation fails on its identifiers only. -/
theorem createProtectedCredential_succeeds (keyring : CredentialKeyring)
    (request : CredentialRequest) (draws : CredentialDraws)
    (singleLine : ∀ value ∈ [givenOr request.credentialId draws.credentialId,
        request.apiClientId, givenOr request.keyId ("zpk_" ++ draws.keyToken)],
      value ≠ "" ∧ '\n' ∉ value.toList ∧ '\r' ∉ value.toList) :
    ∃ stored, createProtectedCredential aead sha256Hex keyring request draws =
        .ok (stored, "zps_" ++ draws.secretToken) ∧
      stored.keyId = givenOr request.keyId ("zpk_" ++ draws.keyToken) := by
  have version := isKeyVersion_singleLine (keyring.versions _ keyring.active)
  have admitted : ∀ value ∈ [givenOr request.credentialId draws.credentialId,
      request.apiClientId, givenOr request.keyId ("zpk_" ++ draws.keyToken), keyring.activeKeyId],
      value ≠ "" ∧ '\n' ∉ value.toList ∧ '\r' ∉ value.toList := by
    simp only [List.forall_mem_cons] at singleLine ⊢
    exact ⟨singleLine.1, singleLine.2.1, singleLine.2.2.1, version, List.forall_mem_nil _⟩
  have secretful : utf8 ("zps_" ++ draws.secretToken) ≠ [] := by
    refine utf8_ne_nil fun empty => ?_
    exact absurd (String.append_eq_empty_iff.mp empty).1 (by decide)
  simp only [createProtectedCredential, CredentialKeyring.encrypt, credentialAad, require,
    if_pos admitted, if_pos secretful, ok_bind]
  exact ⟨_, rfl, rfl⟩

/-- The rest of the row is the one the administrator service adds. -/
theorem createProtectedCredential_row {keyring : CredentialKeyring} {request : CredentialRequest}
    {draws : CredentialDraws} {credential : ProtectedCredential} {secret : String}
    (unexpiring : request.expiresAt = none)
    (created : createProtectedCredential aead sha256Hex keyring request draws =
      .ok (credential, secret)) :
    Services.Admin.createProtectedCredential keyring.activeKeyId request.apiClientId
        request.createdBy ⟨credential.id, credential.keyId⟩ (request.now.getD draws.clock) =
      .ok credential.toApiClientCredential := by
  simp only [createProtectedCredential, credentialAad, CredentialKeyring.encrypt, bind_ok_iff,
    require_ok_iff, pure, Except.pure, Except.ok.injEq, Prod.mk.injEq] at created
  obtain ⟨aad, ⟨_, singleLine, _⟩, encrypted, _, rfl, rfl⟩ := created
  have checked := (require_ok_iff _ (ModelError.valueError
    "credential AAD identifiers must be non-empty single-line values") ()).mpr singleLine
  rw [Services.Admin.createProtectedCredential, Services.Admin.checkCredentialAad, checked,
    ok_bind, unexpiring]
  rfl

/-! ## Records -/

/-- A row that holds an encrypted secret. -/
inductive SecretRecord where
  | binding (row : ApiClientBinding)
  | credential (row : ProtectedCredential)

namespace SecretRecord

/-- The identifiers of the associated data, the recorded key version last. -/
def identifiers : SecretRecord → List (Option String)
  | binding row =>
      [some row.id, some row.apiClientId, row.bifrostVirtualKeyId, row.bifrostValueKeyVersion]
  | credential row =>
      [some row.id, some row.apiClientId, some row.keyId, some row.masterKeyId]

/-- The text of the ciphertext, inside the envelope of a binding. -/
def ciphertext : SecretRecord → Option String
  | binding row => (row.bifrostValueCiphertext.bind readEnvelope).map Prod.fst
  | credential row => some row.secretCiphertext

/-- The decryption of a record's secret; `none` where the source raises. -/
def reveal {aead : Aead MasterKey GcmNonce} (ideal : aead.Ideal)
    (sha256Hex : List UInt8 → String) (nonces : Nat → GcmNonce) (keyring : CredentialKeyring) :
    SecretRecord → Option String
  | binding row => decryptBindingValue (keyring.forBindings ideal nonces) row
  | credential row => (decryptCredentialSecret aead sha256Hex keyring row).toOption

/-- The records that the writers leave, with the secret they were given or drew. -/
inductive Written {aead : Aead MasterKey GcmNonce} (ideal : aead.Ideal)
    (sha256Hex : List UInt8 → String) (nonces : Nat → GcmNonce) (keyring : CredentialKeyring) :
    SecretRecord → String → Prop
  | binding {number : Nat} {now : Int} {result : VirtualKeyCreationResult}
      {before stored : ApiClientBinding}
      (persisted : persistCreatedBinding (keyring.forBindings ideal nonces) number now result
        before = .ok stored) :
      Written ideal sha256Hex nonces keyring (.binding stored) result.value
  | credential {request : CredentialRequest} {draws : CredentialDraws}
      {stored : ProtectedCredential} {secret : String}
      (created : createProtectedCredential aead sha256Hex keyring request draws =
        .ok (stored, secret)) :
      Written ideal sha256Hex nonces keyring (.credential stored) secret

/-- A record whose secret is sealed under its own identifiers. -/
structure Seals (aead : Aead MasterKey GcmNonce) (keyring : CredentialKeyring) (nonce : GcmNonce)
    (secret aad : String) (record : SecretRecord) : Prop where
  ciphertext : record.ciphertext =
    some (keyring.sealSecret aead nonce (utf8 secret) (utf8 aad)).ciphertext
  identified : ∃ names, Joins names aad ∧ record.identifiers = names.map some

variable {ideal : aead.Ideal} {nonces : Nat → GcmNonce} {before after : CredentialKeyring}
  {record : SecretRecord} {secret : String}

theorem Written.seals (written : Written ideal sha256Hex nonces before record secret) :
    ∃ nonce aad, Seals aead before nonce secret aad record := by
  cases written with
  | @binding number _ result row stored persisted =>
      obtain ⟨aad, bound, virtualKeyId, ciphertext, keyVersion, sameId, sameClient⟩ :=
        persistCreatedBinding_ok persisted
      have plain := (before.forBindings ideal nonces).aesGcm_base64 number result.value aad
      refine ⟨nonces number, aad, ?_, _, joins_bindingAad bound, ?_⟩
      · rw [SecretRecord.ciphertext, ciphertext, Option.bind_some,
          readEnvelope_envelopeText plain.1 plain.2]
        rfl
      · rw [identifiers, virtualKeyId, keyVersion, sameId, sameClient]
        rfl
  | @credential request draws stored _ created =>
      obtain ⟨aad, bound, sealedAs, _⟩ := createProtectedCredential_ok created
      refine ⟨draws.nonce, aad, ?_, _, joins_credentialAad bound, rfl⟩
      exact congrArg some (congrArg EncryptedSecret.ciphertext sealedAs)

/-- A written record reads back under every later ring. -/
theorem Written.reveal (written : Written ideal sha256Hex nonces before record secret)
    (later : CredentialKeyring.Later before after) (otherNonces : Nat → GcmNonce) :
    record.reveal ideal sha256Hex otherNonces after = some secret := by
  cases written with
  | @binding number now result row stored persisted =>
      obtain ⟨aad, bound, virtualKeyId, ciphertext, keyVersion, sameId, sameClient⟩ :=
        persistCreatedBinding_ok persisted
      have plain := (before.forBindings ideal nonces).aesGcm_base64 number result.value aad
      rw [← sameId, ← sameClient] at bound
      rw [SecretRecord.reveal, Integrations.Bifrost.decryptBindingValue_stored bound virtualKeyId
        ciphertext keyVersion plain]
      exact CredentialKeyring.decodes_sealSecret ideal later _ _ _
  | @credential request draws stored _ created =>
      obtain ⟨aad, bound, sealedAs, fingerprint⟩ := createProtectedCredential_ok created
      have opened : decryptCredentialSecret aead sha256Hex after stored = .ok secret := by
        rw [decryptCredentialSecret, bound, ok_bind, sealedAs,
          CredentialKeyring.decrypt_sealSecret ideal later, ok_bind]
        simp only [decodeUtf8_utf8, fingerprint, require, if_true, ok_bind]
        rfl
      rw [SecretRecord.reveal, opened]
      rfl

/-- A ciphertext opens in no record with other identifiers. -/
theorem Written.reveal_moved (written : Written ideal sha256Hex nonces before record secret)
    {moved : SecretRecord} (same : moved.ciphertext = record.ciphertext)
    (differs : moved.identifiers ≠ record.identifiers) (otherNonces : Nat → GcmNonce) :
    moved.reveal ideal sha256Hex otherNonces after = none := by
  obtain ⟨nonce, aad, seals⟩ := written.seals
  obtain ⟨names, joins, named⟩ := seals.identified
  rw [seals.ciphertext] at same
  have apart {otherNames : List String} {otherAad : String} (otherJoins : Joins otherNames otherAad)
      (otherNamed : moved.identifiers = otherNames.map some) : utf8 otherAad ≠ utf8 aad := by
    intro sameAad
    rw [otherNamed, named, otherJoins.injective joins sameAad] at differs
    exact differs rfl
  cases moved with
  | binding row =>
      rw [Option.eq_none_iff_forall_ne_some]
      intro opened revealed
      simp only [SecretRecord.reveal, decryptBindingValue, Option.bind_eq_bind,
        Option.bind_eq_some_iff, Option.filter_eq_some_iff] at revealed
      obtain ⟨virtualKeyId, ⟨hasKey, _⟩, envelope, ⟨hasEnvelope, _⟩, keyVersion,
        ⟨hasVersion, _⟩, ⟨text, nonceText⟩, read, revealed⟩ := revealed
      have moved : text = (before.sealSecret aead nonce (utf8 secret) (utf8 aad)).ciphertext := by
        simpa [SecretRecord.ciphertext, hasEnvelope, read] using same
      cases bound : bindingAad row.id row.apiClientId virtualKeyId keyVersion with
      | error failure =>
          rw [bound] at revealed
          cases revealed
      | ok otherAad =>
          rw [bound] at revealed
          have differing := apart (joins_bindingAad bound) (by
            rw [SecretRecord.identifiers, hasKey, hasVersion]
            rfl)
          obtain ⟨failure, failed⟩ := @CredentialKeyring.decrypt_moved aead ideal before after
            nonce (utf8 secret) (utf8 aad) (utf8 otherAad) differing
            ⟨text, nonceText, keyVersion⟩ moved
          simp only [CredentialKeyring.forBindings, failed] at revealed
          cases revealed
  | credential row =>
      cases bound : credentialAad row.id row.apiClientId row.keyId row.masterKeyId with
      | error failure =>
          rw [SecretRecord.reveal, decryptCredentialSecret, bound]
          rfl
      | ok otherAad =>
          have differing := apart (joins_credentialAad bound) rfl
          obtain ⟨failure, failed⟩ := @CredentialKeyring.decrypt_moved aead ideal before after
            nonce (utf8 secret) (utf8 aad) (utf8 otherAad) differing
            ⟨row.secretCiphertext, row.secretNonce, row.masterKeyId⟩ (Option.some.inj same)
          rw [SecretRecord.reveal, decryptCredentialSecret, bound, ok_bind, failed]
          rfl

end SecretRecord

/-- **Encrypted secrets round-trip and cannot be swapped.** -/
theorem secrets_round_trip_unswapped {aead : Aead MasterKey GcmNonce} (ideal : aead.Ideal)
    (sha256Hex : List UInt8 → String) (nonces otherNonces : Nat → GcmNonce)
    (before : CredentialKeyring) (record : SecretRecord) (secret : String)
    (written : record.Written ideal sha256Hex nonces before secret) :
    (∀ after, CredentialKeyring.Later before after →
        record.reveal ideal sha256Hex otherNonces after = some secret) ∧
      ∀ moved : SecretRecord, moved.ciphertext = record.ciphertext →
        moved.identifiers ≠ record.identifiers →
          ∀ reader, moved.reveal ideal sha256Hex otherNonces reader = none := by
  refine ⟨fun after later => ?_, fun moved same differs reader => ?_⟩
  · exact written.reveal later otherNonces
  · exact written.reveal_moved same differs otherNonces

/-! ## A sample -/

/-- A cipher without secrecy. -/
def openCipher : Aead MasterKey GcmNonce := .transparent Subtype.val Subtype.val

theorem openCipher_ideal : openCipher.Ideal :=
  Aead.transparent_ideal Subtype.val_injective Subtype.val_injective

def sampleKey (byte : UInt8) : MasterKey :=
  ⟨List.replicate aes256KeyBytes byte, List.length_replicate⟩

def sampleNonces (number : Nat) : GcmNonce :=
  ⟨List.replicate aesGcmNonceBytes (UInt8.ofNat number), List.length_replicate⟩

/-- A ring with its first version, and the ring after a rotation to a second one. -/
def sampleKeyring : CredentialKeyring :=
  ⟨[("v1", sampleKey 1)], "v1", by decide, by decide, by decide, by decide⟩

def rotatedKeyring : CredentialKeyring :=
  ⟨[("v1", sampleKey 1), ("v2", sampleKey 2)], "v2", by decide, by decide, by decide, by decide⟩

theorem rotatedKeyring_later : CredentialKeyring.Later sampleKeyring rotatedKeyring := by
  refine .single fun version key found => ?_
  by_cases same : version = "v1"
  · subst same
    exact found
  · have missing : sampleKeyring.key? version = none := by
      rw [CredentialKeyring.key?, List.lookup_eq_none_iff]
      simpa [sampleKeyring] using same
    rw [missing] at found
    cases found

/-- The digest of the sample secret. -/
def sampleDigest (bytes : List UInt8) : String :=
  if bytes = utf8 "zps_AAAAAAAAAAAAAAAAAAAAAAAAAAAAAAAAAAAAAAAAAAA" then
    "b4ac2b5756444986c38acc0b36588a18941fb3c98e4d0bb299941e5226585a09"
  else ""

def sampleRequest : CredentialRequest := { apiClientId := "client", createdBy := "admin" }

def sampleDraws : CredentialDraws where
  credentialId := "credential"
  keyToken := "BBBB"
  secretToken := "AAAAAAAAAAAAAAAAAAAAAAAAAAAAAAAAAAAAAAAAAAA"
  nonce := sampleNonces 0
  clock := 1000

/-- A credential created under `v1` reads back after a rotation to `v2`, and not under
another key identifier. -/
theorem secrets_round_trip_unswapped_sample :
    ∃ stored : ProtectedCredential,
      createProtectedCredential openCipher sampleDigest sampleKeyring sampleRequest sampleDraws =
        .ok (stored, "zps_" ++ sampleDraws.secretToken) ∧
      (SecretRecord.credential stored).reveal openCipher_ideal sampleDigest sampleNonces
          rotatedKeyring = some ("zps_" ++ sampleDraws.secretToken) ∧
      (SecretRecord.credential { stored with keyId := "zpk_CCCC" }).reveal openCipher_ideal
          sampleDigest sampleNonces rotatedKeyring = none := by
  obtain ⟨stored, created, named⟩ := @createProtectedCredential_succeeds openCipher sampleDigest
    sampleKeyring sampleRequest sampleDraws (by decide)
  obtain ⟨reads, closed⟩ := secrets_round_trip_unswapped openCipher_ideal sampleDigest
    sampleNonces sampleNonces sampleKeyring (.credential stored) _ (.credential created)
  refine ⟨stored, created, reads _ rotatedKeyring_later, ?_⟩
  refine closed (.credential { stored with keyId := "zpk_CCCC" }) rfl ?_ _
  intro same
  simp only [SecretRecord.identifiers, named, List.cons.injEq, Option.some.injEq] at same
  exact absurd same.2.2.1 (by decide)

end Zangpu.Security
