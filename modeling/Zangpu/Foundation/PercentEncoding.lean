import Zangpu.Foundation.Utf8

/-!
Percent encoding over bytes.

Owns: hexadecimal digits, the escapes of a text in any alphabet, quoting with a set
of safe bytes, its injectivity, and the characters a quotation consists of.

Does not own: which bytes an application calls safe.
-/

set_option autoImplicit false

namespace Zangpu.Foundation.PercentEncoding

universe u

/-- The value of a hexadecimal digit of either case, given by its code. -/
def hexDigit? (code : Nat) : Option Nat :=
  if 48 ≤ code ∧ code ≤ 57 then some (code - 48)
  else if 65 ≤ code ∧ code ≤ 70 then some (code - 55)
  else if 97 ≤ code ∧ code ≤ 102 then some (code - 87)
  else none

/-- The byte that two hexadecimal digits spell. -/
def octet? (high low : Nat) : Option UInt8 :=
  match hexDigit? high, hexDigit? low with
  | some upper, some lower => some (UInt8.ofNat (16 * upper + lower))
  | _, _ => none

section Escapes

variable {α : Type u} (code : α → Nat)

/-- The byte of the escape that starts here, if one does. -/
def escape? : List α → Option UInt8
  | percent :: high :: low :: _ =>
      if code percent = 37 then octet? (code high) (code low) else none
  | _ => none

/-- A percent sign that two hexadecimal digits do not follow occurs. -/
def hasInvalidPercent : List α → Bool
  | [] => false
  | letter :: rest =>
      (code letter == 37 && (escape? code (letter :: rest)).isNone) || hasInvalidPercent rest

/-- A percent escape occurs. -/
def hasPercentEscape : List α → Bool
  | [] => false
  | letter :: rest => (escape? code (letter :: rest)).isSome || hasPercentEscape rest

end Escapes

/-- Every escape replaced by its byte; other percent signs stay. -/
def unquote : List UInt8 → List UInt8
  | percent :: high :: low :: rest =>
      match escape? UInt8.toNat (percent :: high :: low :: rest) with
      | some octet => octet :: unquote rest
      | none => percent :: unquote (high :: low :: rest)
  | short => short

/-! ## One text in two alphabets -/

/-- Two lists of codes spell the same text in different alphabets: ASCII codes are
the same, any other code of the first list is a block of other codes in the second. -/
inductive Spells : List Nat → List Nat → Prop
  | nil : Spells [] []
  | ascii {code : Nat} {first second : List Nat} (small : code < 128)
      (rest : Spells first second) : Spells (code :: first) (code :: second)
  | wide {code lead : Nat} {block first second : List Nat} (large : 128 ≤ code)
      (leadLarge : 128 ≤ lead) (blockLarge : ∀ other ∈ block, 128 ≤ other)
      (rest : Spells first second) : Spells (code :: first) (lead :: (block ++ second))

theorem Spells.append {first second firstRest secondRest : List Nat}
    (spells : Spells first second) (rest : Spells firstRest secondRest) :
    Spells (first ++ firstRest) (second ++ secondRest) := by
  induction spells with
  | nil => exact rest
  | ascii small _ inductionHypothesis => exact .ascii small inductionHypothesis
  | wide large leadLarge blockLarge _ inductionHypothesis =>
      rw [List.cons_append, List.cons_append, List.append_assoc]
      exact .wide large leadLarge blockLarge inductionHypothesis

theorem hexDigit?_large {code : Nat} (large : 128 ≤ code) : hexDigit? code = none := by
  rw [hexDigit?, if_neg (by omega), if_neg (by omega), if_neg (by omega)]

theorem octet?_large_left {high low : Nat} (large : 128 ≤ high) : octet? high low = none := by
  rw [octet?, hexDigit?_large large]

theorem octet?_large_right {high low : Nat} (large : 128 ≤ low) : octet? high low = none := by
  rw [octet?, hexDigit?_large large]
  cases hexDigit? high <;> rfl

theorem octet?_small {high low : Nat} {octet : UInt8} (read : octet? high low = some octet) :
    high < 128 ∧ low < 128 := by
  constructor
  · by_contra large
    rw [octet?_large_left (Nat.not_lt.mp large)] at read
    cases read
  · by_contra large
    rw [octet?_large_right (Nat.not_lt.mp large)] at read
    cases read

/-- The byte that the first two codes spell. -/
def digits? : List Nat → Option UInt8
  | high :: low :: _ => octet? high low
  | _ => none

theorem Spells.digits? {first second : List Nat} (spells : Spells first second) :
    digits? first = digits? second := by
  cases spells with
  | nil => rfl
  | wide large leadLarge blockLarge rest =>
      have none_ : ∀ code rest, 128 ≤ code → PercentEncoding.digits? (code :: rest) = none := by
        intro code rest large
        cases rest with
        | nil => rfl
        | cons next rest => exact octet?_large_left large
      rw [none_ _ _ large, none_ _ _ leadLarge]
  | ascii small rest =>
      cases rest with
      | nil => rfl
      | ascii smallNext rest => rfl
      | wide large leadLarge blockLarge rest =>
          show octet? _ _ = octet? _ _
          rw [octet?_large_right large, octet?_large_right leadLarge]

section Alphabets

variable {α : Type u} (code : α → Nat)

theorem escape?_map (letters : List α) :
    escape? code letters = escape? (fun value => value) (letters.map code) := by
  match letters with
  | [] | [_] | [_, _] => rfl
  | _ :: _ :: _ :: _ => rfl

theorem escape?_cons (sign : Nat) (rest : List Nat) :
    escape? (fun value => value) (sign :: rest) = if sign = 37 then digits? rest else none := by
  match rest with
  | [] | [_] => simp [escape?, digits?]
  | _ :: _ :: _ => rfl

theorem Spells.escape? {first second : List Nat} (spells : Spells first second) :
    escape? (fun value => value) first = PercentEncoding.escape? (fun value => value) second := by
  cases spells with
  | nil => rfl
  | ascii small rest => rw [escape?_cons, escape?_cons, rest.digits?]
  | wide large leadLarge blockLarge rest =>
      rw [escape?_cons, escape?_cons, if_neg (by omega), if_neg (by omega)]

theorem hasInvalidPercent_map (letters : List α) :
    hasInvalidPercent code letters = hasInvalidPercent (fun value => value) (letters.map code) := by
  induction letters with
  | nil => rfl
  | cons letter rest inductionHypothesis =>
      rw [hasInvalidPercent, List.map_cons, hasInvalidPercent, inductionHypothesis, escape?_map]
      rfl

theorem hasPercentEscape_map (letters : List α) :
    hasPercentEscape code letters = hasPercentEscape (fun value => value) (letters.map code) := by
  induction letters with
  | nil => rfl
  | cons letter rest inductionHypothesis =>
      rw [hasPercentEscape, List.map_cons, hasPercentEscape, inductionHypothesis, escape?_map]
      rfl

theorem hasInvalidPercent_block {block : List Nat} (large : ∀ other ∈ block, 128 ≤ other)
    (rest : List Nat) : hasInvalidPercent (fun value => value) (block ++ rest) =
      hasInvalidPercent (fun value => value) rest := by
  induction block with
  | nil => rfl
  | cons other block inductionHypothesis =>
      rw [List.forall_mem_cons] at large
      have different : (other == 37) = false := beq_eq_false_iff_ne.mpr (by omega)
      rw [List.cons_append, hasInvalidPercent, inductionHypothesis large.2, different]
      rfl

theorem hasPercentEscape_block {block : List Nat} (large : ∀ other ∈ block, 128 ≤ other)
    (rest : List Nat) : hasPercentEscape (fun value => value) (block ++ rest) =
      hasPercentEscape (fun value => value) rest := by
  induction block with
  | nil => rfl
  | cons other block inductionHypothesis =>
      rw [List.forall_mem_cons] at large
      rw [List.cons_append, hasPercentEscape, inductionHypothesis large.2, escape?_cons,
        if_neg (by omega)]
      rfl

theorem Spells.hasInvalidPercent {first second : List Nat} (spells : Spells first second) :
    hasInvalidPercent (fun value => value) first =
      PercentEncoding.hasInvalidPercent (fun value => value) second := by
  induction spells with
  | nil => rfl
  | ascii small rest inductionHypothesis =>
      rw [PercentEncoding.hasInvalidPercent, PercentEncoding.hasInvalidPercent,
        inductionHypothesis, (Spells.ascii small rest).escape?]
  | wide large leadLarge blockLarge rest inductionHypothesis =>
      rw [← List.cons_append,
        hasInvalidPercent_block (List.forall_mem_cons.mpr ⟨leadLarge, blockLarge⟩),
        ← inductionHypothesis]
      exact hasInvalidPercent_block (List.forall_mem_singleton.mpr large) _

theorem Spells.hasPercentEscape {first second : List Nat} (spells : Spells first second) :
    hasPercentEscape (fun value => value) first =
      PercentEncoding.hasPercentEscape (fun value => value) second := by
  induction spells with
  | nil => rfl
  | ascii small rest inductionHypothesis =>
      rw [PercentEncoding.hasPercentEscape, PercentEncoding.hasPercentEscape,
        inductionHypothesis, (Spells.ascii small rest).escape?]
  | wide large leadLarge blockLarge rest inductionHypothesis =>
      rw [← List.cons_append,
        hasPercentEscape_block (List.forall_mem_cons.mpr ⟨leadLarge, blockLarge⟩),
        ← inductionHypothesis]
      exact hasPercentEscape_block (List.forall_mem_singleton.mpr large) _

/-- An escape is a percent sign and two ASCII digits. -/
theorem escape?_some {letters : List α} {octet : UInt8} (read : escape? code letters = some octet) :
    ∃ percent high low rest, letters = percent :: high :: low :: rest ∧ code percent = 37 ∧
      code high < 128 ∧ code low < 128 := by
  match letters with
  | [] | [_] | [_, _] => cases read
  | percent :: high :: low :: rest =>
      rw [PercentEncoding.escape?] at read
      split at read
      · next sign =>
          obtain ⟨highSmall, lowSmall⟩ := octet?_small read
          exact ⟨percent, high, low, rest, rfl, sign, highSmall, lowSmall⟩
      · cases read

end Alphabets

/-! ## Unquoting a text -/

theorem spells_utf8 (characters : List Char) :
    Spells (characters.map Char.toNat) ((Utf8.encode characters).map UInt8.toNat) := by
  induction characters with
  | nil => exact .nil
  | cons character rest inductionHypothesis =>
      rw [Utf8.encode_cons, List.map_cons, List.map_append]
      by_cases small : character.toNat < 128
      · have value : (UInt8.ofNat character.toNat).toNat = character.toNat :=
          UInt8.toNat_ofNat_of_lt' (Nat.lt_trans small (by decide))
        rw [Utf8.encodeChar_ascii small, List.map_singleton, value]
        exact .ascii small inductionHypothesis
      · have large := Utf8.encodeChar_large (Nat.not_lt.mp small)
        obtain ⟨lead, continuation, shape, _⟩ := Utf8.encodeChar_shaped character
        rw [shape, List.forall_mem_cons] at large
        rw [shape, List.map_cons, List.cons_append]
        refine .wide (Nat.not_lt.mp small) large.1 ?_ inductionHypothesis
        intro code member
        obtain ⟨byte, present, rfl⟩ := List.mem_map.mp member
        exact large.2 byte present

theorem unquote_raw {byte : UInt8} (raw : byte.toNat ≠ 37) (rest : List UInt8) :
    unquote (byte :: rest) = byte :: unquote rest := by
  match rest with
  | [] | [_] => rfl
  | _ :: _ :: _ => rw [unquote, escape?, if_neg raw]

theorem unquote_block {block : List UInt8} (raw : ∀ byte ∈ block, byte.toNat ≠ 37)
    (rest : List UInt8) : unquote (block ++ rest) = block ++ unquote rest := by
  induction block with
  | nil => rfl
  | cons byte block inductionHypothesis =>
      rw [List.forall_mem_cons] at raw
      rw [List.cons_append, unquote_raw raw.1, inductionHypothesis raw.2, List.cons_append]

/-- A character that is no percent sign is read as it is. -/
theorem unquote_character {character : Char} (raw : character.toNat ≠ 37) (rest : List Char) :
    unquote (Utf8.encode (character :: rest)) =
      String.utf8EncodeChar character ++ unquote (Utf8.encode rest) := by
  rw [Utf8.encode_cons]
  apply unquote_block
  by_cases small : character.toNat < 128
  · rw [Utf8.encodeChar_ascii small, List.forall_mem_singleton,
      UInt8.toNat_ofNat_of_lt' (Nat.lt_trans small (by decide))]
    exact raw
  · intro byte member
    have large := Utf8.encodeChar_large (Nat.not_lt.mp small) byte member
    omega

/-- An escape is read as its byte. -/
theorem unquote_escape {characters : List Char} {octet : UInt8}
    (read : escape? Char.toNat characters = some octet) :
    ∃ percent high low rest, characters = percent :: high :: low :: rest ∧
      percent.toNat = 37 ∧ high.toNat < 128 ∧ low.toNat < 128 ∧
      unquote (Utf8.encode characters) = octet :: unquote (Utf8.encode rest) := by
  obtain ⟨percent, high, low, rest, rfl, sign, highSmall, lowSmall⟩ := escape?_some _ read
  refine ⟨percent, high, low, rest, rfl, sign, highSmall, lowSmall, ?_⟩
  rw [escape?_map, (spells_utf8 _).escape?, ← escape?_map] at read
  rw [Utf8.encode_cons, Utf8.encode_cons, Utf8.encode_cons, Utf8.encodeChar_ascii highSmall,
    Utf8.encodeChar_ascii lowSmall, Utf8.encodeChar_ascii (by omega)] at read ⊢
  simp only [List.cons_append, List.nil_append] at read ⊢
  rw [unquote, read]

theorem hasInvalidPercent_tail {α : Type u} {code : α → Nat} {letter : α} {rest : List α}
    (valid : hasInvalidPercent code (letter :: rest) = false) :
    hasInvalidPercent code rest = false := by
  rw [hasInvalidPercent, Bool.or_eq_false_iff] at valid
  exact valid.2

/-- Where every percent sign starts an escape, the first one does. -/
theorem escape?_of_valid {α : Type u} {code : α → Nat} {letter : α} {rest : List α}
    (valid : hasInvalidPercent code (letter :: rest) = false) (sign : code letter = 37) :
    ∃ octet, escape? code (letter :: rest) = some octet := by
  rw [hasInvalidPercent, Bool.or_eq_false_iff, sign] at valid
  simp only [beq_self_eq_true, Bool.true_and, Option.isNone_eq_false_iff] at valid
  exact Option.isSome_iff_exists.mp valid.1

/-! ## Quoting -/

def upperHexDigit (digit : Nat) : Char :=
  Char.ofNat (if digit < 10 then 48 + digit else 55 + digit)

/-- A safe byte as its character, any other as an upper-case escape. -/
def quoteByte (safe : UInt8 → Bool) (byte : UInt8) : List Char :=
  if safe byte then [Char.ofNat byte.toNat]
  else ['%', upperHexDigit (byte.toNat / 16), upperHexDigit (byte.toNat % 16)]

def quote (safe : UInt8 → Bool) (bytes : List UInt8) : List Char :=
  bytes.flatMap (quoteByte safe)

theorem upperHexDigit_injective :
    ∀ left < 16, ∀ right < 16, upperHexDigit left = upperHexDigit right → left = right := by
  decide

theorem toNat_ofByte (byte : UInt8) : (Char.ofNat byte.toNat).toNat = byte.toNat :=
  Utf8.toNat_ofNat (Or.inl (Nat.lt_trans byte.toNat_lt (by decide)))

theorem ofByte_injective {left right : UInt8}
    (same : Char.ofNat left.toNat = Char.ofNat right.toNat) : left = right := by
  have values := congrArg Char.toNat same
  rw [toNat_ofByte, toNat_ofByte] at values
  exact UInt8.toNat_inj.mp values

theorem ofByte_eq_percent {byte : UInt8} (same : Char.ofNat byte.toNat = '%') : byte = 37 :=
  @ofByte_injective byte 37 same

section Quote

variable {safe : UInt8 → Bool}

/-- No quoted byte starts another, as long as the percent sign is not safe. -/
theorem quoteByte_append_inj (percent : safe 37 = false) {left right : UInt8}
    {leftRest rightRest : List Char}
    (same : quoteByte safe left ++ leftRest = quoteByte safe right ++ rightRest) :
    left = right ∧ leftRest = rightRest := by
  have leftHigh := left.toNat_lt
  have rightHigh := right.toNat_lt
  have unsafe_ : ∀ byte : UInt8, safe byte = true → Char.ofNat byte.toNat ≠ '%' := by
    intro byte isSafe sign
    rw [ofByte_eq_percent sign, percent] at isSafe
    cases isSafe
  unfold quoteByte at same
  by_cases leftSafe : safe left = true <;> by_cases rightSafe : safe right = true
  · rw [if_pos leftSafe, if_pos rightSafe] at same
    simp only [List.cons_append, List.nil_append, List.cons.injEq] at same
    exact ⟨ofByte_injective same.1, same.2⟩
  · rw [if_pos leftSafe, if_neg rightSafe] at same
    simp only [List.cons_append, List.nil_append, List.cons.injEq] at same
    exact absurd same.1 (unsafe_ left leftSafe)
  · rw [if_neg leftSafe, if_pos rightSafe] at same
    simp only [List.cons_append, List.nil_append, List.cons.injEq] at same
    exact absurd same.1.symm (unsafe_ right rightSafe)
  · rw [if_neg leftSafe, if_neg rightSafe] at same
    simp only [List.cons_append, List.nil_append, List.cons.injEq, true_and] at same
    obtain ⟨sameHigh, sameLow, sameRest⟩ := same
    have high := upperHexDigit_injective _ (by omega) _ (by omega) sameHigh
    have low := upperHexDigit_injective _ (by omega) _ (by omega) sameLow
    exact ⟨UInt8.toNat_inj.mp (by omega), sameRest⟩

theorem quoteByte_ne_nil (byte : UInt8) : quoteByte safe byte ≠ [] := by
  unfold quoteByte
  split <;> exact List.cons_ne_nil _ _

theorem quote_cons (byte : UInt8) (rest : List UInt8) :
    quote safe (byte :: rest) = quoteByte safe byte ++ quote safe rest := rfl

theorem quote_eq_nil_iff {bytes : List UInt8} : quote safe bytes = [] ↔ bytes = [] := by
  cases bytes with
  | nil => exact iff_of_true rfl rfl
  | cons byte rest =>
      rw [quote_cons, List.append_eq_nil_iff]
      exact iff_of_false (fun both => quoteByte_ne_nil byte both.1) (List.cons_ne_nil _ _)

theorem quote_injective (percent : safe 37 = false) {left right : List UInt8}
    (same : quote safe left = quote safe right) : left = right := by
  induction left generalizing right with
  | nil => exact (quote_eq_nil_iff.mp same.symm).symm
  | cons byte rest inductionHypothesis =>
      cases right with
      | nil => exact quote_eq_nil_iff.mp same
      | cons other others =>
          obtain ⟨sameByte, sameRest⟩ := quoteByte_append_inj percent same
          rw [sameByte, inductionHypothesis sameRest]

/-- The characters of a quotation. -/
def quoteAlphabet (safe : UInt8 → Bool) (character : Char) : Prop :=
  character = '%' ∨ character ∈ "0123456789ABCDEF".toList ∨
    ∃ byte, safe byte = true ∧ character = Char.ofNat byte.toNat

theorem upperHexDigit_mem : ∀ digit < 16, upperHexDigit digit ∈ "0123456789ABCDEF".toList := by
  decide

theorem mem_quote {bytes : List UInt8} {character : Char} (member : character ∈ quote safe bytes) :
    quoteAlphabet safe character := by
  obtain ⟨byte, _, quoted⟩ := List.mem_flatMap.mp member
  have small := byte.toNat_lt
  unfold quoteByte at quoted
  split at quoted
  · next isSafe => exact Or.inr (Or.inr ⟨byte, isSafe, List.mem_singleton.mp quoted⟩)
  · simp only [List.mem_cons, List.not_mem_nil, or_false] at quoted
    rcases quoted with sign | high | low
    · exact Or.inl sign
    · exact Or.inr (Or.inl (high ▸ upperHexDigit_mem _ (by omega)))
    · exact Or.inr (Or.inl (low ▸ upperHexDigit_mem _ (by omega)))

end Quote

end Zangpu.Foundation.PercentEncoding
