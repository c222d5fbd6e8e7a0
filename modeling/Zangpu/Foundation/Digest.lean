import Zangpu.Foundation.Uuid

/-!
Digests and their texts.

Owns: the hexadecimal text of some bytes, which determines them; and pairs of inputs
with one value.

Does not own: any hash function. A fixed-width function has collisions, so a statement
names the two inputs it would need.
-/

set_option autoImplicit false

namespace Zangpu.Foundation.Digest

universe u v

/-! ## Hexadecimal texts -/

/-- `bytes.hex()`. -/
def hex (bytes : List UInt8) : List Char := bytes.flatMap fun byte => Uuid.hexDigits 2 byte.toNat

theorem length_hex (bytes : List UInt8) : (hex bytes).length = 2 * bytes.length := by
  induction bytes with
  | nil => rfl
  | cons byte rest inductionHypothesis =>
      rw [hex, List.flatMap_cons, List.length_append, Uuid.length_hexDigits]
      rw [hex] at inductionHypothesis
      rw [inductionHypothesis, List.length_cons]
      omega

theorem lowerHex_hex (bytes : List UInt8) :
    ∀ character ∈ hex bytes, Uuid.isLowerHex character = true := by
  intro character member
  obtain ⟨byte, _, digit⟩ := List.mem_flatMap.mp member
  exact Uuid.lowerHex_hexDigits 2 byte.toNat character digit

theorem hexDigit_injective : ∀ left < 16, ∀ right < 16,
    Uuid.hexDigit left = Uuid.hexDigit right → left = right := by
  decide

/-- The two digits of a byte determine it. -/
theorem hexDigits_byte_injective {left right : UInt8}
    (same : Uuid.hexDigits 2 left.toNat = Uuid.hexDigits 2 right.toNat) : left = right := by
  simp only [Uuid.hexDigits, List.nil_append, List.cons_append, List.cons.injEq, and_true] at same
  obtain ⟨high, low⟩ := same
  have leftSmall := left.toNat_lt
  have rightSmall := right.toNat_lt
  have highSame := hexDigit_injective _ (Nat.mod_lt _ (by decide)) _ (Nat.mod_lt _ (by decide)) high
  have lowSame := hexDigit_injective _ (Nat.mod_lt _ (by decide)) _ (Nat.mod_lt _ (by decide)) low
  apply UInt8.toNat_inj.mp
  omega

theorem hex_injective {left right : List UInt8} (same : hex left = hex right) : left = right := by
  induction left generalizing right with
  | nil =>
      cases right with
      | nil => rfl
      | cons byte rest =>
          have lengths := congrArg List.length same
          rw [length_hex, length_hex, List.length_nil, List.length_cons] at lengths
          omega
  | cons byte rest inductionHypothesis =>
      cases right with
      | nil =>
          have lengths := congrArg List.length same
          rw [length_hex, length_hex, List.length_nil, List.length_cons] at lengths
          omega
      | cons other others =>
          rw [hex, hex, List.flatMap_cons, List.flatMap_cons] at same
          have sameLength : (Uuid.hexDigits 2 byte.toNat).length =
              (Uuid.hexDigits 2 other.toNat).length := by
            rw [Uuid.length_hexDigits, Uuid.length_hexDigits]
          obtain ⟨head, tail⟩ := List.append_inj same sameLength
          rw [hexDigits_byte_injective head, inductionHypothesis tail]

/-! ## Collisions -/

/-- Two inputs that a function does not tell apart. -/
structure Collides {α : Type u} {β : Type v} (hash : α → β) (left right : α) : Prop where
  apart : left ≠ right
  same : hash left = hash right

/-- One value has one input, or two that collide. -/
theorem eq_or_collides {α : Type u} {β : Type v} {hash : α → β} {left right : α}
    (same : hash left = hash right) : left = right ∨ Collides hash left right := by
  by_cases equal : left = right
  · exact Or.inl equal
  · exact Or.inr ⟨equal, same⟩

end Zangpu.Foundation.Digest
