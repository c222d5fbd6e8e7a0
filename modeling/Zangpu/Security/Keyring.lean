import Zangpu.Foundation.Aead
import Zangpu.Foundation.Base64
import Zangpu.Foundation.Utf8
import Zangpu.Integrations.Bifrost.Material

/-!
The credential key ring.

Owns: key versions and the ring that `from_json` builds, encryption under the active
version, decryption under the recorded one, the associated data of a credential, that
associated data determine their identifiers, and the key ring as bindings use it.

Does not own: the cipher, which is an `Aead` over keys of 32 bytes and nonces of 12;
the JSON text of a ring, which is given as its parsed entries.
-/

set_option autoImplicit false

namespace Zangpu.Security

open Zangpu.Foundation
open Zangpu.Models
open Zangpu.Integrations.Bifrost (EncryptedSecret base64Alphabet isBase64 bindingAad)

/-! ## Keys -/

def maxKeyVersions : Nat := 16

def aes256KeyBytes : Nat := 32

def aesGcmNonceBytes : Nat := 12

abbrev MasterKey := { key : List UInt8 // key.length = aes256KeyBytes }

abbrev GcmNonce := { nonce : List UInt8 // nonce.length = aesGcmNonceBytes }

/-- The exceptions of the key ring, and the value errors of its callers. -/
inductive KeyringError where
  | keyringConfigurationError (message : String)
  | keyVersionUnavailable (message : String)
  | credentialDecryptionError (message : String)
  | valueError (message : String)
  deriving DecidableEq, Repr

def keyVersionCharacter (character : Char) : Bool :=
  ('A' ≤ character && character ≤ 'Z') || ('a' ≤ character && character ≤ 'z') ||
    ('0' ≤ character && character ≤ '9') || character ∈ ['.', '_', '-']

/-- `KEY_VERSION_RE` matches the whole text. -/
def isKeyVersion (version : String) : Bool :=
  1 ≤ version.toList.length && version.toList.length ≤ 64 &&
    version.toList.all keyVersionCharacter

theorem isKeyVersion_ne_empty {version : String} (valid : isKeyVersion version = true) :
    version ≠ "" := by
  rintro rfl
  exact absurd valid (by decide)

/-- A key version is an identifier that associated data may hold. -/
theorem isKeyVersion_singleLine {version : String} (valid : isKeyVersion version = true) :
    version ≠ "" ∧ '\n' ∉ version.toList ∧ '\r' ∉ version.toList := by
  have characters : ∀ character ∈ version.toList, keyVersionCharacter character = true := by
    rw [isKeyVersion, Bool.and_eq_true] at valid
    exact List.all_eq_true.mp valid.2
  refine ⟨isKeyVersion_ne_empty valid, fun member => ?_, fun member => ?_⟩
  · exact absurd (characters _ member) (by decide)
  · exact absurd (characters _ member) (by decide)

/-! ## The ring -/

structure CredentialKeyring where
  keys : List (String × MasterKey)
  activeKeyId : String
  unique : (keys.map Prod.fst).Nodup
  bounded : 1 ≤ keys.length ∧ keys.length ≤ maxKeyVersions
  versions : ∀ version ∈ keys.map Prod.fst, isKeyVersion version = true
  active : activeKeyId ∈ keys.map Prod.fst

def decodeKey (encodedKey : String) : Except KeyringError MasterKey :=
  match Base64.decode encodedKey.toList with
  | none => .error (.keyringConfigurationError "credential key ring contains invalid base64")
  | some key =>
      if size : key.length = aes256KeyBytes then .ok ⟨key, size⟩
      else .error (.keyringConfigurationError
        "credential key ring values must decode to 32 bytes")

/-- The loop of `from_json` over the entries; `none` is a value that is not a text. -/
def readKeys : List (String × Option String) → Except KeyringError (List (String × MasterKey))
  | [] => .ok []
  | (keyId, encodedKey) :: rest => do
      require (isKeyVersion keyId = true)
        (.keyringConfigurationError "invalid credential key version")
      match encodedKey with
      | none =>
          .error (.keyringConfigurationError "credential key values must be base64 strings")
      | some text => do
          let key ← decodeKey text
          let keys ← readKeys rest
          return (keyId, key) :: keys

/-- A serialized key ring after `json.loads`. -/
inductive Serialized where
  | notJson
  | notObject
  | object (entries : List (String × Option String))

/-- The entries pass the checks of the loop, under their own names. -/
theorem readKeys_versions {entries : List (String × Option String)}
    {keys : List (String × MasterKey)} (read : readKeys entries = .ok keys) :
    keys.map Prod.fst = entries.map Prod.fst ∧
      ∀ version ∈ keys.map Prod.fst, isKeyVersion version = true := by
  induction entries generalizing keys with
  | nil =>
      cases read
      exact ⟨rfl, List.forall_mem_nil _⟩
  | cons entry rest inductionHypothesis =>
      obtain ⟨keyId, encodedKey⟩ := entry
      simp only [readKeys, bind_ok_iff, require_ok_iff] at read
      obtain ⟨_, valid, read⟩ := read
      cases encodedKey with
      | none => cases read
      | some text =>
          simp only [bind_ok_iff, pure, Except.pure, Except.ok.injEq] at read
          obtain ⟨key, _, others, readRest, rfl⟩ := read
          obtain ⟨sameNames, validRest⟩ := inductionHypothesis readRest
          refine ⟨congrArg (keyId :: ·) sameNames, ?_⟩
          exact List.forall_mem_cons.mpr ⟨valid, validRest⟩

theorem readKeys_unique {entries : List (String × Option String)}
    {keys : List (String × MasterKey)} (read : readKeys entries = .ok keys)
    (unique : (entries.map Prod.fst).Nodup) : (keys.map Prod.fst).Nodup := by
  rw [(readKeys_versions read).1]
  exact unique

theorem readKeys_bounded {entries : List (String × Option String)}
    {keys : List (String × MasterKey)} (read : readKeys entries = .ok keys)
    (bounded : 1 ≤ entries.length ∧ entries.length ≤ maxKeyVersions) :
    1 ≤ keys.length ∧ keys.length ≤ maxKeyVersions := by
  have sameLength : keys.length = entries.length := by
    simpa using congrArg List.length (readKeys_versions read).1
  rw [sameLength]
  exact bounded

def CredentialKeyring.fromJson (serialized : Serialized) (activeKeyId : String) :
    Except KeyringError CredentialKeyring :=
  if isKeyVersion activeKeyId = false then
    .error (.keyringConfigurationError "invalid active credential key version")
  else
    match serialized with
    | .notJson => .error (.keyringConfigurationError "credential key ring must be a JSON object")
    | .notObject =>
        .error (.keyringConfigurationError "credential key ring must contain 1 to 16 versions")
    | .object entries =>
        if unique : (entries.map Prod.fst).Nodup then
          if bounded : 1 ≤ entries.length ∧ entries.length ≤ maxKeyVersions then
            match read : readKeys entries with
            | .error failure => .error failure
            | .ok keys =>
                if active : activeKeyId ∈ keys.map Prod.fst then
                  .ok ⟨keys, activeKeyId, readKeys_unique read unique,
                    readKeys_bounded read bounded, (readKeys_versions read).2, active⟩
                else
                  .error (.keyringConfigurationError
                    "active credential key version is unavailable")
          else
            .error (.keyringConfigurationError
              "credential key ring must contain 1 to 16 versions")
        else
          .error (.keyringConfigurationError "credential key ring contains duplicate versions")

namespace CredentialKeyring

def key? (keyring : CredentialKeyring) (version : String) : Option MasterKey :=
  keyring.keys.lookup version

theorem key?_active (keyring : CredentialKeyring) :
    (keyring.key? keyring.activeKeyId).isSome = true := by
  obtain ⟨entry, member, named⟩ := List.mem_map.mp keyring.active
  rw [key?, List.lookup_isSome_iff]
  exact ⟨entry, member, beq_iff_eq.mpr named.symm⟩

def activeKey (keyring : CredentialKeyring) : MasterKey :=
  (keyring.key? keyring.activeKeyId).get keyring.key?_active

theorem key?_activeKeyId (keyring : CredentialKeyring) :
    keyring.key? keyring.activeKeyId = some keyring.activeKey :=
  (Option.some_get keyring.key?_active).symm

theorem activeKeyId_ne_empty (keyring : CredentialKeyring) : keyring.activeKeyId ≠ "" :=
  isKeyVersion_ne_empty (keyring.versions _ keyring.active)

/-- A later ring keeps every version with its key; its active version may differ. -/
def Keeps (before after : CredentialKeyring) : Prop :=
  ∀ version key, before.key? version = some key → after.key? version = some key

/-- The later rings of a history. -/
abbrev Later : CredentialKeyring → CredentialKeyring → Prop := Relation.ReflTransGen Keeps

theorem Later.keeps {before after : CredentialKeyring} (later : Later before after) :
    Keeps before after := by
  induction later with
  | refl => exact fun _ _ found => found
  | tail _ step inductionHypothesis =>
      exact fun version key found => step version key (inductionHypothesis version key found)

/-! ## Encryption -/

variable (aead : Aead MasterKey GcmNonce)

def base64Text (bytes : List UInt8) : String := String.ofList (Base64.encode bytes)

/-- What `encrypt` returns for a plaintext that is not empty. -/
def sealSecret (keyring : CredentialKeyring) (nonce : GcmNonce)
    (plaintext associated : List UInt8) : EncryptedSecret where
  ciphertext := base64Text (aead.encrypt keyring.activeKey nonce plaintext associated)
  nonce := base64Text nonce
  keyId := keyring.activeKeyId

def encrypt (keyring : CredentialKeyring) (nonce : GcmNonce) (plaintext associated : List UInt8) :
    Except KeyringError EncryptedSecret := do
  require (plaintext ≠ []) (.valueError "credential plaintext must not be empty")
  return keyring.sealSecret aead nonce plaintext associated

/-- `none` is an error of base64, of the nonce length, or of the cipher. -/
def openWith (key : MasterKey) (encrypted : EncryptedSecret) (associated : List UInt8) :
    Option (List UInt8) := do
  let nonce ← Base64.decode encrypted.nonce.toList
  let ciphertext ← Base64.decode encrypted.ciphertext.toList
  if size : nonce.length = aesGcmNonceBytes then
    aead.decrypt key ⟨nonce, size⟩ ciphertext associated
  else none

def decrypt (keyring : CredentialKeyring) (encrypted : EncryptedSecret)
    (associated : List UInt8) : Except KeyringError (List UInt8) :=
  match keyring.key? encrypted.keyId with
  | none => .error (.keyVersionUnavailable "credential key version is unavailable")
  | some key =>
      match openWith aead key encrypted associated with
      | none => .error (.credentialDecryptionError
          "credential ciphertext could not be authenticated")
      | some plaintext => .ok plaintext

variable {aead}

theorem decode_base64Text (bytes : List UInt8) :
    Base64.decode (base64Text bytes).toList = some bytes := by
  rw [base64Text, String.toList_ofList, Base64.decode_encode]

theorem isBase64_base64Text (bytes : List UInt8) : isBase64 (base64Text bytes) = true := by
  rw [isBase64, base64Text, String.toList_ofList, List.all_eq_true]
  intro character member
  have characters : base64Alphabet = Base64.alphabet ++ ['='] := by decide
  rw [Integrations.Bifrost.base64Character, decide_eq_true_eq, characters, List.mem_append,
    List.mem_singleton]
  exact Base64.mem_encode member

section Ideal

variable (ideal : aead.Ideal) {before after : CredentialKeyring} {nonce : GcmNonce}
  {plaintext associated : List UInt8}
include ideal

/-- **A later ring decrypts what an earlier one encrypted.** -/
theorem decrypt_sealSecret (later : Later before after) :
    after.decrypt aead (before.sealSecret aead nonce plaintext associated) associated =
      .ok plaintext := by
  have kept : after.key? before.activeKeyId = some before.activeKey :=
    later.keeps _ _ before.key?_activeKeyId
  have opened : openWith aead before.activeKey (before.sealSecret aead nonce plaintext associated)
      associated = some plaintext := by
    simp only [openWith, sealSecret, decode_base64Text, Option.bind_eq_bind, Option.bind_some]
    rw [dif_pos nonce.property]
    exact ideal.decrypt_encrypt
  rw [decrypt, show (before.sealSecret aead nonce plaintext associated).keyId =
    before.activeKeyId from rfl, kept]
  simp only [opened]

/-- **Under other associated data no ring decrypts it**, whatever key version and
nonce are recorded beside it. -/
theorem decrypt_moved {otherAssociated : List UInt8} (differs : otherAssociated ≠ associated)
    {moved : EncryptedSecret}
    (same : moved.ciphertext = (before.sealSecret aead nonce plaintext associated).ciphertext) :
    ∃ failure, after.decrypt aead moved otherAssociated = .error failure := by
  have closed (key : MasterKey) : openWith aead key moved otherAssociated = none := by
    simp only [openWith, same, sealSecret, decode_base64Text, Option.bind_eq_bind,
      Option.bind_some]
    cases Base64.decode moved.nonce.toList with
    | none => rfl
    | some bytes =>
        rw [Option.bind_some]
        split
        · exact ideal.decrypt_moved differs
        · rfl
  unfold decrypt
  cases after.key? moved.keyId with
  | none => exact ⟨_, rfl⟩
  | some key =>
      simp only [closed]
      exact ⟨_, rfl⟩

end Ideal

end CredentialKeyring

/-! ## Associated data -/

def credentialAad (credentialId apiClientId keyId masterKeyId : String) :
    Except KeyringError String := do
  require (∀ value ∈ [credentialId, apiClientId, keyId, masterKeyId],
      value ≠ "" ∧ '\n' ∉ value.toList ∧ '\r' ∉ value.toList)
    (.valueError "credential AAD identifiers must be non-empty single-line values")
  return "\n".intercalate [credentialId, apiClientId, keyId, masterKeyId]

def utf8 (text : String) : List UInt8 := Utf8.encode text.toList

/-- `bytes.decode("utf-8", errors="strict")`. -/
def decodeUtf8 (bytes : List UInt8) : Option String := (Utf8.decode bytes).map String.ofList

theorem decodeUtf8_utf8 (text : String) : decodeUtf8 (utf8 text) = some text := by
  rw [decodeUtf8, utf8, Utf8.decode_eq_some_iff.mpr rfl, Option.map_some, String.ofList_toList]

theorem utf8_injective {left right : String} (same : utf8 left = utf8 right) : left = right :=
  String.toList_inj.mp (Utf8.encode_injective same)

theorem utf8_ne_nil {text : String} (nonempty : text ≠ "") : utf8 text ≠ [] := by
  intro empty
  rw [utf8, Utf8.encode_eq_nil_iff] at empty
  exact nonempty (String.toList_eq_nil_iff.mp empty)

/-- Single-line identifiers are told apart by the bytes of their lines. -/
theorem lines_injective {left right : List String} (leftSome : left ≠ []) (rightSome : right ≠ [])
    (leftLines : ∀ value ∈ left, '\n' ∉ value.toList)
    (rightLines : ∀ value ∈ right, '\n' ∉ value.toList)
    (same : utf8 ("\n".intercalate left) = utf8 ("\n".intercalate right)) : left = right := by
  have joined := congrArg String.toList (utf8_injective same)
  rw [String.toList_intercalate, String.toList_intercalate] at joined
  have split {values : List String} (lines : ∀ value ∈ values, '\n' ∉ value.toList) :
      ∀ part ∈ values.map String.toList, '\n' ∉ part :=
    List.forall_mem_map.mpr lines
  have parts := List.splitOn_intercalate '\n' (split leftLines) (by simpa using leftSome)
  rw [show ['\n'] = "\n".toList from rfl, joined,
    show "\n".toList = ['\n'] from rfl,
    List.splitOn_intercalate '\n' (split rightLines) (by simpa using rightSome)] at parts
  exact (List.map_injective_iff.mpr fun _ _ => String.toList_inj.mp) parts.symm

/-- The identifiers of some associated data. -/
structure Joins (identifiers : List String) (aad : String) : Prop where
  some_ : identifiers ≠ []
  lines : ∀ value ∈ identifiers, '\n' ∉ value.toList
  joined : aad = "\n".intercalate identifiers

theorem Joins.injective {left right : List String} {leftAad rightAad : String}
    (leftJoins : Joins left leftAad) (rightJoins : Joins right rightAad)
    (same : utf8 leftAad = utf8 rightAad) : left = right := by
  rw [leftJoins.joined, rightJoins.joined] at same
  exact lines_injective leftJoins.some_ rightJoins.some_ leftJoins.lines rightJoins.lines same

theorem joins_credentialAad {credentialId apiClientId keyId masterKeyId aad : String}
    (bound : credentialAad credentialId apiClientId keyId masterKeyId = .ok aad) :
    Joins [credentialId, apiClientId, keyId, masterKeyId] aad := by
  simp only [credentialAad, bind_ok_iff, require_ok_iff, pure, Except.pure,
    Except.ok.injEq] at bound
  obtain ⟨_, singleLine, rfl⟩ := bound
  exact ⟨List.cons_ne_nil _ _, fun value member => (singleLine value member).2.1, rfl⟩

theorem joins_bindingAad {bindingId apiClientId virtualKeyId masterKeyId aad : String}
    (bound : bindingAad bindingId apiClientId virtualKeyId masterKeyId = .ok aad) :
    Joins [bindingId, apiClientId, virtualKeyId, masterKeyId] aad := by
  simp only [bindingAad, bind_ok_iff, require_ok_iff, pure, Except.pure, Except.ok.injEq] at bound
  obtain ⟨_, singleLine, rfl⟩ := bound
  exact ⟨List.cons_ne_nil _ _, fun value member => (singleLine value member).2.1, rfl⟩

/-! ## Bindings -/

namespace CredentialKeyring

variable {aead : Aead MasterKey GcmNonce}

theorem decodes_sealSecret (ideal : aead.Ideal) {before after : CredentialKeyring}
    (later : Later before after) (nonce : GcmNonce) (plaintext aad : String) :
    ((after.decrypt aead (before.sealSecret aead nonce (utf8 plaintext) (utf8 aad))
      (utf8 aad)).toOption.bind decodeUtf8) = some plaintext := by
  rw [decrypt_sealSecret ideal later]
  exact decodeUtf8_utf8 plaintext

/-- The ring as bindings use it: texts in UTF-8, and numbered nonces. -/
def forBindings (ideal : aead.Ideal) (nonces : Nat → GcmNonce) (keyring : CredentialKeyring) :
    Integrations.Bifrost.CredentialKeyring where
  activeKeyId := keyring.activeKeyId
  aesGcm number plaintext aad :=
    keyring.sealSecret aead (nonces number) (utf8 plaintext) (utf8 aad)
  decrypt encrypted aad := (keyring.decrypt aead encrypted (utf8 aad)).toOption.bind decodeUtf8
  active_present := keyring.activeKeyId_ne_empty
  aesGcm_keyId _ _ _ := rfl
  aesGcm_base64 _ _ _ := ⟨isBase64_base64Text _, isBase64_base64Text _⟩
  decrypt_aesGcm _ _ _ := decodes_sealSecret ideal .refl _ _ _

end CredentialKeyring

end Zangpu.Security
