import Mathlib.Data.List.Basic
import Mathlib.Tactic.Common

/-!
Authenticated encryption with associated data.

Owns: the interface of such a cipher over byte lists, what makes it ideal, that an
ideal cipher opens what it encrypted and nothing under other associated data, and a
transparent cipher that is ideal.

Does not own: secrecy, and the AES-GCM construction.
-/

set_option autoImplicit false

namespace Zangpu.Foundation

universe u v

structure Aead (Key : Type u) (Nonce : Type v) where
  encrypt : Key → Nonce → List UInt8 → List UInt8 → List UInt8
  decrypt : Key → Nonce → List UInt8 → List UInt8 → Option (List UInt8)

namespace Aead

variable {Key : Type u} {Nonce : Type v}

/-- An ideal cipher decrypts exactly the encryptions, and no ciphertext belongs to
two keys, nonces or associated data. The last two arguments of `encrypt` are the
plaintext and the associated data. -/
structure Ideal (aead : Aead Key Nonce) : Prop where
  decrypt_eq_some_iff : ∀ {key nonce ciphertext associated plaintext},
    aead.decrypt key nonce ciphertext associated = some plaintext ↔
      ciphertext = aead.encrypt key nonce plaintext associated
  committing : ∀ {key otherKey nonce otherNonce plaintext otherPlaintext associated
      otherAssociated},
    aead.encrypt key nonce plaintext associated =
        aead.encrypt otherKey otherNonce otherPlaintext otherAssociated →
      key = otherKey ∧ nonce = otherNonce ∧ associated = otherAssociated

section Ideal

variable {aead : Aead Key Nonce} (ideal : aead.Ideal) {key otherKey : Key}
  {nonce otherNonce : Nonce} {plaintext associated otherAssociated : List UInt8}
include ideal

theorem Ideal.decrypt_encrypt :
    aead.decrypt key nonce (aead.encrypt key nonce plaintext associated) associated =
      some plaintext :=
  ideal.decrypt_eq_some_iff.mpr rfl

/-- Under other associated data nothing opens, whatever the key and the nonce. -/
theorem Ideal.decrypt_moved (differs : otherAssociated ≠ associated) :
    aead.decrypt otherKey otherNonce (aead.encrypt key nonce plaintext associated)
      otherAssociated = none := by
  rw [Option.eq_none_iff_forall_ne_some]
  intro opened decrypted
  have same := ideal.committing (ideal.decrypt_eq_some_iff.mp decrypted)
  exact differs same.2.2.symm

end Ideal

/-! ## A transparent cipher -/

/-- Bytes with a mark before each and an end mark. -/
def frame (bytes : List UInt8) : List UInt8 := bytes.flatMap (fun byte => [1, byte]) ++ [0]

/-- No frame starts another. -/
theorem frame_append_inj {left right leftRest rightRest : List UInt8}
    (same : frame left ++ leftRest = frame right ++ rightRest) :
    left = right ∧ leftRest = rightRest := by
  induction left generalizing right with
  | nil =>
      cases right with
      | nil => exact ⟨rfl, List.append_cancel_left same⟩
      | cons byte right => simp [frame] at same
  | cons byte left inductionHypothesis =>
      cases right with
      | nil => simp [frame] at same
      | cons other right =>
          simp only [frame, List.flatMap_cons, List.cons_append, List.nil_append,
            List.cons.injEq, true_and] at same
          obtain ⟨sameByte, sameRest⟩ := inductionHypothesis same.2
          exact ⟨congrArg₂ List.cons same.1 sameByte, sameRest⟩

/-- The cipher that writes its key, nonce and associated data before the plaintext. -/
def transparent (keyBytes : Key → List UInt8) (nonceBytes : Nonce → List UInt8) :
    Aead Key Nonce where
  encrypt key nonce plaintext associated :=
    frame (keyBytes key) ++ (frame (nonceBytes nonce) ++ (frame associated ++ plaintext))
  decrypt key nonce ciphertext associated :=
    ciphertext.dropPrefix?
      (frame (keyBytes key) ++ (frame (nonceBytes nonce) ++ frame associated))

theorem transparent_ideal {keyBytes : Key → List UInt8} {nonceBytes : Nonce → List UInt8}
    (keys : Function.Injective keyBytes) (nonces : Function.Injective nonceBytes) :
    (transparent keyBytes nonceBytes).Ideal where
  decrypt_eq_some_iff := by
    intro key nonce ciphertext associated plaintext
    simp only [transparent, List.dropPrefix?_eq_some_iff, beq_iff_eq]
    constructor
    · rintro ⟨before, split, rfl⟩
      rw [split, List.append_assoc, List.append_assoc]
    · intro split
      refine ⟨_, ?_, rfl⟩
      rw [split, List.append_assoc, List.append_assoc]
  committing := by
    intro key otherKey nonce otherNonce plaintext otherPlaintext associated otherAssociated same
    obtain ⟨sameKey, rest⟩ := frame_append_inj same
    obtain ⟨sameNonce, rest⟩ := frame_append_inj rest
    exact ⟨keys sameKey, nonces sameNonce, (frame_append_inj rest).1⟩

end Aead

end Zangpu.Foundation
