import Zangpu.Integrations.Bifrost.Client

/-!
The protected value of a virtual key.

Owns: the key ring as far as bindings use it, the stored envelope of an encrypted
value, `persist_created_binding` and `decrypt_binding_value`, and that the second
reads back what the first stored.

Does not own: the cipher. AES-GCM with base64 text is a field of the key ring,
with the law that decryption under the same associated data inverts encryption.
-/

set_option autoImplicit false

namespace Zangpu.Integrations.Bifrost

open Zangpu.Foundation
open Zangpu.Models

/-! ## The key ring -/

structure EncryptedSecret where
  ciphertext : String
  nonce : String
  keyId : String
  deriving DecidableEq, Repr

def base64Alphabet : List Char :=
  "ABCDEFGHIJKLMNOPQRSTUVWXYZabcdefghijklmnopqrstuvwxyz0123456789+/=".toList

def base64Character (character : Char) : Bool := decide (character ∈ base64Alphabet)

def isBase64 (text : String) : Bool := text.toList.all base64Character

/-- `CredentialKeyring`. `aesGcm` encrypts under the active version; its first
argument numbers the random nonces. -/
structure CredentialKeyring where
  activeKeyId : String
  aesGcm : Nat → String → String → EncryptedSecret
  decrypt : EncryptedSecret → String → Option String
  active_present : activeKeyId ≠ ""
  aesGcm_keyId : ∀ nonce plaintext aad, (aesGcm nonce plaintext aad).keyId = activeKeyId
  aesGcm_base64 : ∀ nonce plaintext aad,
    isBase64 (aesGcm nonce plaintext aad).ciphertext = true ∧
      isBase64 (aesGcm nonce plaintext aad).nonce = true
  decrypt_aesGcm : ∀ nonce plaintext aad,
    decrypt (aesGcm nonce plaintext aad) aad = some plaintext

def CredentialKeyring.encrypt (keyring : CredentialKeyring) (nonce : Nat)
    (plaintext aad : String) : Except ModelError EncryptedSecret := do
  require (plaintext ≠ "") (.valueError "credential plaintext must not be empty")
  return keyring.aesGcm nonce plaintext aad

/-! ## The envelope -/

/-- `json.dumps({"ciphertext": …, "nonce": …}, separators=(",", ":"), sort_keys=True)`. -/
def envelopeText (secret : EncryptedSecret) : String :=
  "\x7b\"ciphertext\":" ++ jsonString secret.ciphertext ++ ",\"nonce\":" ++
    jsonString secret.nonce ++ "\x7d"

/-- A text after its expected beginning. -/
def afterPrefix : List Char → List Char → Option (List Char)
  | [], text => some text
  | expected :: rest, character :: text =>
      if character = expected then afterPrefix rest text else none
  | _ :: _, [] => none

/-- The body of a JSON string without escapes, up to its closing quote. -/
def jsonStringBody : List Char → Option (List Char × List Char)
  | [] => none
  | '"' :: text => some ([], text)
  | character :: text =>
      if base64Character character then
        (jsonStringBody text).map fun (body, rest) => (character :: body, rest)
      else none

/-- The ciphertext and nonce of an envelope as `json.dumps` writes it. -/
def readEnvelope (text : String) : Option (String × String) := do
  let afterLabel ← afterPrefix "\x7b\"ciphertext\":\"".toList text.toList
  let (ciphertext, afterCiphertext) ← jsonStringBody afterLabel
  let afterNonceLabel ← afterPrefix ",\"nonce\":\"".toList afterCiphertext
  let (nonce, rest) ← jsonStringBody afterNonceLabel
  if rest = ['}'] then some (String.ofList ciphertext, String.ofList nonce) else none

theorem jsonCharacter_base64 :
    ∀ character ∈ base64Alphabet, jsonCharacter character = [character] := by
  have evaluated : base64Alphabet.all
      (fun character => jsonCharacter character == [character]) = true := by
    decide +kernel
  intro character member
  exact eq_of_beq (List.all_eq_true.mp evaluated character member)

theorem jsonString_base64 {text : String} (plain : isBase64 text = true) :
    jsonString text = "\"" ++ text ++ "\"" := by
  have unescaped : ∀ characters : List Char, characters.all base64Character = true →
      characters.flatMap jsonCharacter = characters := by
    intro characters
    induction characters with
    | nil => intro _; rfl
    | cons character rest inductionHypothesis =>
        intro all
        rw [List.all_cons, Bool.and_eq_true] at all
        rw [List.flatMap_cons, inductionHypothesis all.2,
          jsonCharacter_base64 character (of_decide_eq_true all.1), List.singleton_append]
  unfold jsonString
  rw [unescaped text.toList plain, String.ofList_toList]

theorem afterPrefix_append (expected text : List Char) :
    afterPrefix expected (expected ++ text) = some text := by
  induction expected with
  | nil => rfl
  | cons character rest inductionHypothesis =>
      rw [List.cons_append, afterPrefix, if_pos rfl, inductionHypothesis]

theorem jsonStringBody_base64 {body rest : List Char}
    (plain : body.all base64Character = true) :
    jsonStringBody (body ++ '"' :: rest) = some (body, rest) := by
  induction body with
  | nil => rfl
  | cons character body inductionHypothesis =>
      rw [List.all_cons, Bool.and_eq_true] at plain
      have unquoted : character ≠ '"' := by
        rintro rfl
        exact absurd plain.1 (by decide)
      rw [List.cons_append, jsonStringBody]
      · rw [if_pos plain.1, inductionHypothesis plain.2, Option.map_some]
      · exact unquoted

/-- The envelope reads back as the secret it was written from. -/
theorem readEnvelope_envelopeText {secret : EncryptedSecret}
    (ciphertextPlain : isBase64 secret.ciphertext = true)
    (noncePlain : isBase64 secret.nonce = true) :
    readEnvelope (envelopeText secret) = some (secret.ciphertext, secret.nonce) := by
  have written : (envelopeText secret).toList =
      "\x7b\"ciphertext\":\"".toList ++ (secret.ciphertext.toList ++ '"' ::
        (",\"nonce\":\"".toList ++ (secret.nonce.toList ++ '"' :: ['}']))) := by
    unfold envelopeText
    rw [jsonString_base64 ciphertextPlain, jsonString_base64 noncePlain]
    simp only [String.toList_append, List.append_assoc]
    rfl
  unfold readEnvelope
  rw [written, afterPrefix_append]
  simp only [Option.bind_eq_bind, Option.bind_some]
  rw [jsonStringBody_base64 ciphertextPlain]
  simp only [Option.bind_some]
  rw [afterPrefix_append]
  simp only [Option.bind_some]
  rw [jsonStringBody_base64 noncePlain]
  simp
/-! ## Bindings -/

/-- Truthiness of an optional text. -/
def isSet (text : Option String) : Bool := text.any fun value => value ≠ ""

def bindingRemoteFieldsComplete (binding : ApiClientBinding) : Bool :=
  isSet binding.zangpuServiceUserId && isSet binding.bifrostVirtualKeyId &&
    isSet binding.bifrostValueCiphertext && isSet binding.bifrostValueKeyVersion

def bindingAad (bindingId apiClientId virtualKeyId masterKeyId : String) :
    Except ModelError String := do
  require (∀ value ∈ [bindingId, apiClientId, virtualKeyId, masterKeyId],
      value ≠ "" ∧ '\n' ∉ value.toList ∧ '\r' ∉ value.toList)
    (.valueError "binding AAD identifiers must be non-empty single-line values")
  return "\n".intercalate [bindingId, apiClientId, virtualKeyId, masterKeyId]

variable (keyring : CredentialKeyring)

def persistCreatedBinding (nonce : Nat) (now : Int) (result : VirtualKeyCreationResult)
    (binding : ApiClientBinding) : Except ModelError ApiClientBinding := do
  let aad ← bindingAad binding.id binding.apiClientId result.state.id keyring.activeKeyId
  let encrypted ← keyring.encrypt nonce result.value aad
  let stored := { binding with
    bifrostVirtualKeyId := some result.state.id
    bifrostValueCiphertext := some (envelopeText encrypted)
    bifrostValueKeyVersion := some encrypted.keyId }
  return { stored with
    syncStatus :=
      if bindingRemoteFieldsComplete stored then
        if result.state.isActive then .active else .disabled
      else .pending
    lastSyncErrorCode := none
    updatedAt := now }

/-- `none` where the source raises. -/
def decryptBindingValue (binding : ApiClientBinding) : Option String := do
  let virtualKeyId ← binding.bifrostVirtualKeyId.filter (· ≠ "")
  let envelope ← binding.bifrostValueCiphertext.filter (· ≠ "")
  let keyVersion ← binding.bifrostValueKeyVersion.filter (· ≠ "")
  let (ciphertext, nonce) ← readEnvelope envelope
  match bindingAad binding.id binding.apiClientId virtualKeyId keyVersion with
  | .ok aad => keyring.decrypt ⟨ciphertext, nonce, keyVersion⟩ aad
  | .error _ => none

/-- The binding carries a key: its identifier, and a value that decrypts to it. -/
structure Carries (key : VirtualKeyCreationResult) (binding : ApiClientBinding) : Prop where
  virtualKeyId : binding.bifrostVirtualKeyId = some key.state.id
  keyVersion : binding.bifrostValueKeyVersion = some keyring.activeKeyId
  value : decryptBindingValue keyring binding = some key.value

variable {keyring}

theorem envelopeText_ne_empty (secret : EncryptedSecret) : envelopeText secret ≠ "" := by
  intro empty
  unfold envelopeText at empty
  exact absurd (String.append_eq_empty_iff.mp empty).2 (by decide)

/-- What `persist_created_binding` does when it returns. -/
theorem persistCreatedBinding_ok {nonce : Nat} {now : Int} {result : VirtualKeyCreationResult}
    {binding stored : ApiClientBinding}
    (persisted : persistCreatedBinding keyring nonce now result binding = .ok stored) :
    ∃ aad, bindingAad binding.id binding.apiClientId result.state.id keyring.activeKeyId =
        .ok aad ∧
      stored.bifrostVirtualKeyId = some result.state.id ∧
      stored.bifrostValueCiphertext =
        some (envelopeText (keyring.aesGcm nonce result.value aad)) ∧
      stored.bifrostValueKeyVersion = some keyring.activeKeyId ∧
      stored.id = binding.id ∧ stored.apiClientId = binding.apiClientId := by
  simp only [persistCreatedBinding, CredentialKeyring.encrypt, bind_ok_iff, require_ok_iff, pure,
    Except.pure, Except.ok.injEq] at persisted
  obtain ⟨aad, bound, secret, ⟨_, _, rfl⟩, rfl⟩ := persisted
  exact ⟨aad, bound, rfl, rfl, congrArg some (keyring.aesGcm_keyId _ _ _), rfl, rfl⟩

/-- A stored envelope is decrypted under the associated data of its own row. -/
theorem decryptBindingValue_stored {binding : ApiClientBinding} {virtualKeyId aad : String}
    {secret : EncryptedSecret}
    (bound : bindingAad binding.id binding.apiClientId virtualKeyId secret.keyId = .ok aad)
    (hasKey : binding.bifrostVirtualKeyId = some virtualKeyId)
    (ciphertext : binding.bifrostValueCiphertext = some (envelopeText secret))
    (keyVersion : binding.bifrostValueKeyVersion = some secret.keyId)
    (plain : isBase64 secret.ciphertext = true ∧ isBase64 secret.nonce = true) :
    decryptBindingValue keyring binding = keyring.decrypt secret aad := by
  have wellFormed := bound
  simp only [bindingAad, bind_ok_iff, require_ok_iff] at wellFormed
  obtain ⟨_, wellFormed, _⟩ := wellFormed
  have identified : virtualKeyId ≠ "" := (wellFormed virtualKeyId (by simp)).1
  have versioned : secret.keyId ≠ "" := (wellFormed secret.keyId (by simp)).1
  unfold decryptBindingValue
  rw [hasKey, ciphertext, keyVersion]
  simp only [Option.filter, identified, envelopeText_ne_empty, versioned, ne_eq,
    not_false_eq_true, decide_true, if_true, Option.bind_eq_bind, Option.bind_some]
  rw [readEnvelope_envelopeText plain.1 plain.2]
  simp only [Option.bind_some, bound]

/-- A binding with a stored envelope of a key carries the key. -/
theorem Carries.of_stored {key : VirtualKeyCreationResult} {binding : ApiClientBinding}
    {nonce : Nat} {aad : String}
    (bound : bindingAad binding.id binding.apiClientId key.state.id keyring.activeKeyId = .ok aad)
    (virtualKeyId : binding.bifrostVirtualKeyId = some key.state.id)
    (ciphertext : binding.bifrostValueCiphertext =
      some (envelopeText (keyring.aesGcm nonce key.value aad)))
    (keyVersion : binding.bifrostValueKeyVersion = some keyring.activeKeyId) :
    Carries keyring key binding := by
  refine ⟨virtualKeyId, keyVersion, ?_⟩
  rw [← keyring.aesGcm_keyId nonce key.value aad] at bound keyVersion
  rw [decryptBindingValue_stored bound virtualKeyId ciphertext keyVersion
    (keyring.aesGcm_base64 nonce key.value aad), keyring.decrypt_aesGcm]

/-- **What is stored reads back.** -/
theorem Carries.of_persist {nonce : Nat} {now : Int} {key : VirtualKeyCreationResult}
    {binding stored : ApiClientBinding}
    (persisted : persistCreatedBinding keyring nonce now key binding = .ok stored) :
    Carries keyring key stored := by
  obtain ⟨aad, bound, virtualKeyId, ciphertext, keyVersion, sameId, sameClient⟩ :=
    persistCreatedBinding_ok persisted
  rw [← sameId, ← sameClient] at bound
  exact .of_stored bound virtualKeyId ciphertext keyVersion

/-- The columns that hold a key. -/
@[ext]
structure KeyColumns where
  virtualKeyId : Option String
  ciphertext : Option String
  keyVersion : Option String
  deriving DecidableEq, Repr

def keyColumns (binding : ApiClientBinding) : KeyColumns :=
  ⟨binding.bifrostVirtualKeyId, binding.bifrostValueCiphertext, binding.bifrostValueKeyVersion⟩

/-- Whether a binding carries a key depends on the identity of the key and on the
columns that hold it. -/
theorem Carries.congr {key other : VirtualKeyCreationResult} {left right : ApiClientBinding}
    (carries : Carries keyring key left) (sameKey : identity other = identity key)
    (id : right.id = left.id) (apiClientId : right.apiClientId = left.apiClientId)
    (columns : keyColumns right = keyColumns left) : Carries keyring other right := by
  have virtualKeyId : right.bifrostVirtualKeyId = left.bifrostVirtualKeyId :=
    congrArg KeyColumns.virtualKeyId columns
  have ciphertext : right.bifrostValueCiphertext = left.bifrostValueCiphertext :=
    congrArg KeyColumns.ciphertext columns
  have keyVersion : right.bifrostValueKeyVersion = left.bifrostValueKeyVersion :=
    congrArg KeyColumns.keyVersion columns
  refine ⟨?_, keyVersion.trans carries.keyVersion, ?_⟩
  · rw [virtualKeyId, carries.virtualKeyId, show other.state.id = key.state.id from
      congrArg Identity.id sameKey]
  · rw [show other.value = key.value from congrArg Identity.value sameKey, ← carries.value]
    unfold decryptBindingValue
    rw [id, apiClientId, virtualKeyId, ciphertext, keyVersion]

/-! ## A key ring without a cipher -/

/-- A character in base64 text: its code point in unary, and an end mark. -/
def unaryCharacter (character : Char) : List Char :=
  List.replicate character.toNat 'A' ++ ['/']

def readUnary : Nat → List Char → List Char
  | _, [] => []
  | count, character :: rest =>
      if character = '/' then Char.ofNat count :: readUnary 0 rest
      else readUnary (count + 1) rest

theorem readUnary_replicate (count more : Nat) (rest : List Char) :
    readUnary count (List.replicate more 'A' ++ '/' :: rest) =
      Char.ofNat (count + more) :: readUnary 0 rest := by
  induction more generalizing count with
  | zero => rfl
  | succ more inductionHypothesis =>
      rw [List.replicate_succ, List.cons_append, readUnary, if_neg (by decide),
        inductionHypothesis, Nat.add_right_comm, Nat.add_assoc]

theorem readUnary_flatMap (characters : List Char) :
    readUnary 0 (characters.flatMap unaryCharacter) = characters := by
  induction characters with
  | nil => rfl
  | cons character rest inductionHypothesis =>
      rw [List.flatMap_cons, unaryCharacter, List.append_assoc, List.singleton_append,
        readUnary_replicate, inductionHypothesis, Nat.zero_add, Char.ofNat_toNat]

theorem unaryCharacter_base64 (character : Char) :
    (unaryCharacter character).all base64Character = true := by
  rw [unaryCharacter, List.all_append, Bool.and_eq_true]
  refine ⟨List.all_eq_true.mpr ?_, by decide⟩
  intro element member
  rw [(List.mem_replicate.mp member).2]
  decide

/-- The key ring of the sample runs. -/
def openKeyring : CredentialKeyring where
  activeKeyId := "v1"
  aesGcm _ plaintext _ := ⟨String.ofList (plaintext.toList.flatMap unaryCharacter), "", "v1"⟩
  decrypt secret _ := some (String.ofList (readUnary 0 secret.ciphertext.toList))
  active_present := by decide
  aesGcm_keyId _ _ _ := rfl
  aesGcm_base64 _ plaintext _ := by
    refine ⟨?_, rfl⟩
    rw [isBase64, String.toList_ofList, List.all_flatMap]
    exact List.all_eq_true.mpr fun character _ => unaryCharacter_base64 character
  decrypt_aesGcm _ plaintext _ := by
    rw [String.toList_ofList, readUnary_flatMap, String.ofList_toList]

end Zangpu.Integrations.Bifrost
