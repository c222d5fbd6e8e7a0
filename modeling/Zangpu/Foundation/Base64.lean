import Mathlib.Data.List.Basic
import Mathlib.Data.List.GetD
import Mathlib.Data.List.Nodup
import Mathlib.Tactic.Common

/-!
Base64.

Owns: the alphabet, `b64encode`, and `b64decode` with validation as the scanner of
`binascii` reads it; that the encoding decodes to its bytes; and the characters of
an encoding.

Does not own: the URL-safe alphabet and decoding without validation.
-/

set_option autoImplicit false

namespace Zangpu.Foundation.Base64

/-! ## Digits -/

def alphabet : List Char :=
  "ABCDEFGHIJKLMNOPQRSTUVWXYZabcdefghijklmnopqrstuvwxyz0123456789+/".toList

/-- The character of a value below 64. -/
def digit (value : Nat) : Char := alphabet.getD value 'A'

def value? (character : Char) : Option Nat := alphabet.findIdx? (· = character)

theorem alphabet_eq : alphabet =
    ['A', 'B', 'C', 'D', 'E', 'F', 'G', 'H', 'I', 'J', 'K', 'L', 'M', 'N', 'O', 'P', 'Q', 'R',
      'S', 'T', 'U', 'V', 'W', 'X', 'Y', 'Z', 'a', 'b', 'c', 'd', 'e', 'f', 'g', 'h', 'i', 'j',
      'k', 'l', 'm', 'n', 'o', 'p', 'q', 'r', 's', 't', 'u', 'v', 'w', 'x', 'y', 'z', '0', '1',
      '2', '3', '4', '5', '6', '7', '8', '9', '+', '/'] :=
  String.toList_ofList

/-- The code points of the alphabet. -/
theorem alphabet_codes : alphabet.map Char.toNat =
    List.range' 65 26 ++ List.range' 97 26 ++ List.range' 48 10 ++ [43, 47] := by
  rw [alphabet_eq]
  rfl

theorem alphabet_length : alphabet.length = 64 := by
  rw [alphabet_eq]
  rfl

theorem alphabet_nodup : alphabet.Nodup := by
  apply List.Nodup.of_map Char.toNat
  rw [alphabet_codes]
  decide

theorem digit_eq {value : Nat} (small : value < alphabet.length) : digit value = alphabet[value] :=
  List.getD_eq_getElem alphabet 'A' small

theorem digit_mem {value : Nat} (small : value < 64) : digit value ∈ alphabet := by
  rw [← alphabet_length] at small
  rw [digit_eq small]
  exact List.getElem_mem small

theorem value?_digit {value : Nat} (small : value < 64) : value? (digit value) = some value := by
  rw [← alphabet_length] at small
  rw [digit_eq small, value?, List.findIdx?_eq_some_iff_getElem]
  refine ⟨small, decide_eq_true rfl, fun earlier before same => ?_⟩
  have equal := (List.Nodup.getElem_inj_iff alphabet_nodup).mp (of_decide_eq_true same)
  omega

theorem digit_ne_pad {value : Nat} (small : value < 64) : digit value ≠ '=' := by
  intro same
  have coded := List.mem_map_of_mem (f := Char.toNat) (digit_mem small)
  rw [same, alphabet_codes] at coded
  exact absurd coded (by decide)

/-! ## Encoding -/

def encode : List UInt8 → List Char
  | [] => []
  | [first] => [digit (first.toNat / 4), digit (first.toNat % 4 * 16), '=', '=']
  | [first, second] =>
      [digit (first.toNat / 4), digit (first.toNat % 4 * 16 + second.toNat / 16),
        digit (second.toNat % 16 * 4), '=']
  | first :: second :: third :: rest =>
      digit (first.toNat / 4) :: digit (first.toNat % 4 * 16 + second.toNat / 16) ::
        digit (second.toNat % 16 * 4 + third.toNat / 64) :: digit (third.toNat % 64) ::
          encode rest

/-! ## Decoding -/

/-- The scanner after some characters: the position in the group of four, the bits
left over, the padding characters counted, and whether padding has begun. -/
def scan (quad left pads : Nat) (padded : Bool) : List Char → Option (List UInt8)
  | [] => if quad = 0 then some [] else none
  | character :: rest =>
      if character = '=' then
        if 2 ≤ quad then
          if 4 ≤ quad + (pads + 1) then
            if rest = [] then some [] else none
          else scan quad left (pads + 1) true rest
        else scan quad left pads true rest
      else
        match value? character with
        | none => none
        | some value =>
            if padded then none
            else if quad = 0 then scan 1 value 0 false rest
            else if quad = 1 then
              (scan 2 (value % 16) 0 false rest).map (UInt8.ofNat (left * 4 + value / 16) :: ·)
            else if quad = 2 then
              (scan 3 (value % 4) 0 false rest).map (UInt8.ofNat (left * 16 + value / 4) :: ·)
            else (scan 0 0 0 false rest).map (UInt8.ofNat (left * 64 + value) :: ·)

/-- `b64decode(text, validate=True)`; a text may not begin with padding. -/
def decode (text : List Char) : Option (List UInt8) :=
  if text.head? = some '=' then none else scan 0 0 0 false text

/-! ## Round trip -/

section Steps

variable {left value : Nat} {rest : List Char} (small : value < 64)
include small

theorem scan_first : scan 0 left 0 false (digit value :: rest) = scan 1 value 0 false rest := by
  rw [scan, if_neg (digit_ne_pad small), value?_digit small]
  rfl

theorem scan_second : scan 1 left 0 false (digit value :: rest) =
    (scan 2 (value % 16) 0 false rest).map (UInt8.ofNat (left * 4 + value / 16) :: ·) := by
  rw [scan, if_neg (digit_ne_pad small), value?_digit small]
  rfl

theorem scan_third : scan 2 left 0 false (digit value :: rest) =
    (scan 3 (value % 4) 0 false rest).map (UInt8.ofNat (left * 16 + value / 4) :: ·) := by
  rw [scan, if_neg (digit_ne_pad small), value?_digit small]
  rfl

theorem scan_fourth : scan 3 left 0 false (digit value :: rest) =
    (scan 0 0 0 false rest).map (UInt8.ofNat (left * 64 + value) :: ·) := by
  rw [scan, if_neg (digit_ne_pad small), value?_digit small]
  rfl

end Steps

theorem ofNat_eq {byte : UInt8} {value : Nat} (same : value = byte.toNat) :
    UInt8.ofNat value = byte := by
  rw [same, UInt8.ofNat_toNat]

/-- The scanner reads an encoding back, group by group. -/
theorem scan_encode (bytes : List UInt8) : scan 0 0 0 false (encode bytes) = some bytes := by
  induction bytes using encode.induct with
  | case1 => rfl
  | case2 first =>
      have bound := first.toNat_lt
      rw [encode, scan_first (by omega), scan_second (by omega)]
      have end_ : scan 2 (first.toNat % 4 * 16 % 16) 0 false ['=', '='] = some [] := rfl
      rw [end_, Option.map_some, @ofNat_eq first _ (by omega)]
  | case3 first second =>
      have bound := first.toNat_lt
      have nextBound := second.toNat_lt
      rw [encode, scan_first (by omega), scan_second (by omega), scan_third (by omega)]
      have end_ : scan 3 (second.toNat % 16 * 4 % 4) 0 false ['='] = some [] := rfl
      rw [end_, Option.map_some, Option.map_some, @ofNat_eq first _ (by omega),
        @ofNat_eq second _ (by omega)]
  | case4 first second third rest inductionHypothesis =>
      have bound := first.toNat_lt
      have nextBound := second.toNat_lt
      have lastBound := third.toNat_lt
      rw [encode, scan_first (by omega), scan_second (by omega), scan_third (by omega),
        scan_fourth (by omega), inductionHypothesis, Option.map_some, Option.map_some,
        Option.map_some, @ofNat_eq first _ (by omega), @ofNat_eq second _ (by omega),
        @ofNat_eq third _ (by omega)]

theorem head?_encode (bytes : List UInt8) : (encode bytes).head? ≠ some '=' := by
  cases bytes using encode.induct with
  | case1 => simp [encode]
  | case2 first =>
      have bound := first.toNat_lt
      simpa [encode] using digit_ne_pad (show first.toNat / 4 < 64 by omega)
  | case3 first second =>
      have bound := first.toNat_lt
      simpa [encode] using digit_ne_pad (show first.toNat / 4 < 64 by omega)
  | case4 first second third rest =>
      have bound := first.toNat_lt
      simpa [encode] using digit_ne_pad (show first.toNat / 4 < 64 by omega)

/-- **Decoding inverts encoding.** -/
theorem decode_encode (bytes : List UInt8) : decode (encode bytes) = some bytes := by
  unfold decode
  rw [if_neg (head?_encode bytes), scan_encode]

/-- An encoding consists of characters of the alphabet and of padding. -/
theorem mem_encode {bytes : List UInt8} {character : Char} (member : character ∈ encode bytes) :
    character ∈ alphabet ∨ character = '=' := by
  induction bytes using encode.induct with
  | case1 => cases member
  | case2 first =>
      have bound := first.toNat_lt
      simp only [encode, List.mem_cons, List.not_mem_nil, or_false] at member
      rcases member with rfl | rfl | rfl | rfl
      · exact .inl (digit_mem (by omega))
      · exact .inl (digit_mem (by omega))
      · exact .inr rfl
      · exact .inr rfl
  | case3 first second =>
      have bound := first.toNat_lt
      have nextBound := second.toNat_lt
      simp only [encode, List.mem_cons, List.not_mem_nil, or_false] at member
      rcases member with rfl | rfl | rfl | rfl
      · exact .inl (digit_mem (by omega))
      · exact .inl (digit_mem (by omega))
      · exact .inl (digit_mem (by omega))
      · exact .inr rfl
  | case4 first second third rest inductionHypothesis =>
      have bound := first.toNat_lt
      have nextBound := second.toNat_lt
      have lastBound := third.toNat_lt
      simp only [encode, List.mem_cons] at member
      rcases member with rfl | rfl | rfl | rfl | later
      · exact .inl (digit_mem (by omega))
      · exact .inl (digit_mem (by omega))
      · exact .inl (digit_mem (by omega))
      · exact .inl (digit_mem (by omega))
      · exact inductionHypothesis later

end Zangpu.Foundation.Base64
