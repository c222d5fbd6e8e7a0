import Mathlib.Data.List.Basic
import Mathlib.Data.UInt

/-!
Code points and UTF-16.

Owns: texts of code points, surrogates included; their reading as characters; the
code units of a text; and the reading of any sequence of code units as code points,
where a pair is one character and a lone surrogate stays.

Does not own: byte encodings.
-/

set_option autoImplicit false

namespace Zangpu.Foundation

/-- A surrogate code unit. -/
structure Surrogate where
  unit : UInt16
  surrogate : 0xd800 ≤ unit.toNat ∧ unit.toNat < 0xe000
  deriving DecidableEq

/-- A code point: a character, or a surrogate. -/
inductive CodePoint where
  | scalar (character : Char)
  | lone (surrogate : Surrogate)
  deriving DecidableEq

/-- A text that may hold lone surrogates. -/
abbrev Text := List CodePoint

namespace CodePoint

def code : CodePoint → Nat
  | .scalar character => character.toNat
  | .lone surrogate => surrogate.unit.toNat

def scalar? : CodePoint → Option Char
  | .scalar character => some character
  | .lone _ => none

/-- A code point named by an ASCII character. -/
theorem eq_scalar_iff {point : CodePoint} {character : Char} :
    point.scalar? = some character ↔ point = .scalar character := by
  cases point <;> simp [scalar?]

end CodePoint

/-- The text of some characters. -/
def Text.ofChars (characters : List Char) : Text := characters.map .scalar

/-- The characters of a text without surrogates. -/
def Text.chars? (text : Text) : Option (List Char) := text.mapM CodePoint.scalar?

theorem Text.ofChars_injective {left right : List Char}
    (same : Text.ofChars left = Text.ofChars right) : left = right := by
  apply List.map_injective_iff.mpr _ same
  intro character other equal
  exact CodePoint.scalar.inj equal

theorem Text.chars?_eq_some_iff {text : Text} {characters : List Char} :
    text.chars? = some characters ↔ text = Text.ofChars characters := by
  induction text generalizing characters with
  | nil => cases characters <;> simp [Text.chars?, Text.ofChars]
  | cons point rest inductionHypothesis =>
      simp only [Text.chars?, List.mapM_cons, Option.bind_eq_bind, Option.bind_eq_some_iff,
        CodePoint.eq_scalar_iff, Option.pure_def, Option.some.injEq] at inductionHypothesis ⊢
      constructor
      · rintro ⟨character, rfl, others, read, rfl⟩
        rw [inductionHypothesis.mp read]
        rfl
      · intro same
        cases characters with
        | nil => cases same
        | cons character others =>
            injection same with sameHead sameRest
            exact ⟨character, sameHead, others, inductionHypothesis.mpr sameRest, rfl⟩

/-! ## Code units -/

namespace Utf16

def isHigh (unit : UInt16) : Prop := 0xd800 ≤ unit.toNat ∧ unit.toNat < 0xdc00

def isLow (unit : UInt16) : Prop := 0xdc00 ≤ unit.toNat ∧ unit.toNat < 0xe000

instance (unit : UInt16) : Decidable (isHigh unit) := inferInstanceAs (Decidable (_ ∧ _))

instance (unit : UInt16) : Decidable (isLow unit) := inferInstanceAs (Decidable (_ ∧ _))

def encodeChar (character : Char) : List UInt16 :=
  if character.toNat < 0x10000 then [UInt16.ofNat character.toNat]
  else [UInt16.ofNat ((character.toNat - 0x10000) / 0x400 + 0xd800),
    UInt16.ofNat ((character.toNat - 0x10000) % 0x400 + 0xdc00)]

def encode (characters : List Char) : List UInt16 := characters.flatMap encodeChar

/-- The character of a surrogate pair. -/
def ofPair (high low : UInt16) : Char :=
  Char.ofNat (0x10000 + (high.toNat - 0xd800) * 0x400 + (low.toNat - 0xdc00))

/-- The code point of a unit that is not half of a pair. -/
def ofUnit (unit : UInt16) : CodePoint :=
  if surrogate : 0xd800 ≤ unit.toNat ∧ unit.toNat < 0xe000 then .lone ⟨unit, surrogate⟩
  else .scalar (Char.ofNat unit.toNat)

/-- The code points of any sequence of units. -/
def decode : List UInt16 → Text
  | [] => []
  | [unit] => [ofUnit unit]
  | high :: low :: rest =>
      if isHigh high ∧ isLow low then .scalar (ofPair high low) :: decode rest
      else ofUnit high :: decode (low :: rest)

/-- The units of a code point. -/
def encodePoint : CodePoint → List UInt16
  | .scalar character => encodeChar character
  | .lone surrogate => [surrogate.unit]

/-! ## One character -/

theorem char_bounds (character : Char) :
    character.toNat < 0xd800 ∨ 0xe000 ≤ character.toNat ∧ character.toNat < 0x110000 := by
  rcases character.valid with low | high
  · exact Or.inl low
  · exact Or.inr ⟨by have := high.1; show _ ≤ character.val.toNat; omega, high.2⟩

theorem toNat_ofNat {value : Nat} (small : value < 0x10000) :
    (UInt16.ofNat value).toNat = value := UInt16.toNat_ofNat_of_lt' small

theorem charToNat_ofNat {value : Nat} (valid : value.isValidChar) :
    (Char.ofNat value).toNat = value := by
  rw [Char.ofNat, dif_pos valid]
  rfl

/-- A character below the surrogates is one unit. -/
theorem encodeChar_basic {character : Char} (basic : character.toNat < 0x10000) :
    encodeChar character = [UInt16.ofNat character.toNat] := if_pos basic

theorem encodeChar_pair {character : Char} (high : ¬character.toNat < 0x10000) :
    ∃ first second, encodeChar character = [first, second] ∧ isHigh first ∧ isLow second ∧
      ofPair first second = character := by
  have bounds := char_bounds character
  have first := @toNat_ofNat ((character.toNat - 0x10000) / 0x400 + 0xd800) (by omega)
  have second := @toNat_ofNat ((character.toNat - 0x10000) % 0x400 + 0xdc00) (by omega)
  refine ⟨_, _, if_neg high, ?_, ?_, ?_⟩
  · rw [isHigh, first]
    omega
  · rw [isLow, second]
    omega
  · rw [ofPair, first, second]
    have value : 0x10000 + ((character.toNat - 0x10000) / 0x400 + 0xd800 - 0xd800) * 0x400 +
        ((character.toNat - 0x10000) % 0x400 + 0xdc00 - 0xdc00) = character.toNat := by omega
    rw [value, Char.ofNat_toNat]

theorem ofPair_valid {high low : UInt16} (isHigh_ : isHigh high) (isLow_ : isLow low) :
    (0x10000 + (high.toNat - 0xd800) * 0x400 + (low.toNat - 0xdc00)).isValidChar := by
  obtain ⟨_, _⟩ := isHigh_
  obtain ⟨_, _⟩ := isLow_
  exact Or.inr ⟨by omega, by omega⟩

theorem ofNat_eq {value : Nat} {unit : UInt16} (same : value = unit.toNat) :
    UInt16.ofNat value = unit := by
  rw [same, UInt16.ofNat_toNat]

theorem encodeChar_ofPair {high low : UInt16} (isHigh_ : isHigh high) (isLow_ : isLow low) :
    encodeChar (ofPair high low) = [high, low] := by
  have value := charToNat_ofNat (ofPair_valid isHigh_ isLow_)
  obtain ⟨_, _⟩ := isHigh_
  obtain ⟨_, _⟩ := isLow_
  rw [encodeChar, ofPair, value, if_neg (by omega), @ofNat_eq _ high (by omega),
    @ofNat_eq _ low (by omega)]

theorem encodePoint_ofUnit (unit : UInt16) : encodePoint (ofUnit unit) = [unit] := by
  unfold ofUnit
  split
  · rfl
  · next other =>
      have small := unit.toNat_lt
      have valid : unit.toNat.isValidChar := by
        by_cases low : unit.toNat < 0xd800
        · exact Or.inl low
        · exact Or.inr ⟨by omega, by omega⟩
      rw [encodePoint, encodeChar_basic (by rw [charToNat_ofNat valid]; exact small),
        charToNat_ofNat valid, UInt16.ofNat_toNat]

theorem encodeChar_ne_nil (character : Char) : encodeChar character ≠ [] := by
  unfold encodeChar
  split <;> exact List.cons_ne_nil _ _

/-! ## Texts -/

/-- Nothing is lost in reading units as code points. -/
theorem flatMap_decode (units : List UInt16) : (decode units).flatMap encodePoint = units := by
  fun_induction decode units with
  | case1 => rfl
  | case2 unit => rw [List.flatMap_singleton, encodePoint_ofUnit]
  | case3 high low rest pair inductionHypothesis =>
      rw [List.flatMap_cons, inductionHypothesis, encodePoint, encodeChar_ofPair pair.1 pair.2]
      rfl
  | case4 high low rest pair inductionHypothesis =>
      rw [List.flatMap_cons, inductionHypothesis, encodePoint_ofUnit]
      rfl

@[simp] theorem encode_nil : encode [] = [] := rfl

@[simp] theorem encode_cons (character : Char) (rest : List Char) :
    encode (character :: rest) = encodeChar character ++ encode rest := rfl

theorem encode_append (left right : List Char) :
    encode (left ++ right) = encode left ++ encode right := List.flatMap_append

theorem decode_cons {unit : UInt16} (notHigh : ¬isHigh unit) (rest : List UInt16) :
    decode (unit :: rest) = ofUnit unit :: decode rest := by
  cases rest with
  | nil => rfl
  | cons next rest => rw [decode, if_neg fun pair => notHigh pair.1]

theorem decode_cons_of_notLow (unit : UInt16) {next : UInt16} (notLow : ¬isLow next)
    (rest : List UInt16) :
    decode (unit :: next :: rest) = ofUnit unit :: decode (next :: rest) := by
  rw [decode, if_neg fun pair => notLow pair.2]

theorem ofUnit_basic {character : Char} (basic : character.toNat < 0x10000) :
    ofUnit (UInt16.ofNat character.toNat) = .scalar character := by
  have bounds := char_bounds character
  have value := toNat_ofNat basic
  rw [ofUnit, dif_neg (by omega), value, Char.ofNat_toNat]

theorem decode_encodeChar_append (character : Char) (rest : List UInt16) :
    decode (encodeChar character ++ rest) = .scalar character :: decode rest := by
  have bounds := char_bounds character
  by_cases basic : character.toNat < 0x10000
  · have notHigh : ¬isHigh (UInt16.ofNat character.toNat) := by
      rw [isHigh, toNat_ofNat basic]
      omega
    rw [encodeChar_basic basic, List.singleton_append, decode_cons notHigh, ofUnit_basic basic]
  · obtain ⟨first, second, shape, high, low, pair⟩ := encodeChar_pair basic
    rw [shape, List.cons_append, List.singleton_append, decode, if_pos ⟨high, low⟩, pair]

theorem decode_encode (characters : List Char) :
    decode (encode characters) = Text.ofChars characters := by
  induction characters with
  | nil => rfl
  | cons character rest inductionHypothesis =>
      rw [encode_cons, decode_encodeChar_append, inductionHypothesis]
      rfl

/-- No encoded character starts another. -/
theorem encodeChar_append_inj {left right : Char} {leftRest rightRest : List UInt16}
    (same : encodeChar left ++ leftRest = encodeChar right ++ rightRest) :
    left = right ∧ leftRest = rightRest := by
  have points := congrArg decode same
  rw [decode_encodeChar_append, decode_encodeChar_append, List.cons.injEq,
    CodePoint.scalar.injEq] at points
  obtain ⟨rfl, _⟩ := points
  exact ⟨rfl, List.append_cancel_left same⟩

theorem encode_injective {left right : List Char} (same : encode left = encode right) :
    left = right := by
  have texts := congrArg decode same
  rw [decode_encode, decode_encode] at texts
  exact Text.ofChars_injective texts

/-- Reading goes on behind a unit that is no surrogate. -/
theorem decode_append_cons {unit : UInt16} (notHigh : ¬isHigh unit) (notLow : ¬isLow unit)
    (left right : List UInt16) :
    decode (left ++ unit :: right) = decode left ++ ofUnit unit :: decode right := by
  induction left using decode.induct with
  | case1 => exact decode_cons notHigh right
  | case2 last =>
      rw [List.singleton_append, decode_cons_of_notLow last notLow, decode_cons notHigh]
      rfl
  | case3 high low rest pair inductionHypothesis =>
      rw [List.cons_append, List.cons_append, decode, if_pos pair, inductionHypothesis, decode,
        if_pos pair]
      rfl
  | case4 high low rest pair inductionHypothesis =>
      rw [List.cons_append] at inductionHypothesis
      rw [List.cons_append, List.cons_append, decode, if_neg pair, inductionHypothesis, decode,
        if_neg pair]
      rfl

/-- Without lone surrogates, the units are those of the characters. -/
theorem eq_encode_of_chars {units : List UInt16} {characters : List Char}
    (read : (decode units).chars? = some characters) : units = encode characters := by
  rw [← flatMap_decode units, Text.chars?_eq_some_iff.mp read, Text.ofChars, List.flatMap_map]
  rfl

end Utf16

end Zangpu.Foundation
