import Mathlib.Data.List.Basic

/-!
UTF-8 over byte lists.

Owns: the encoding of a text, the character a byte string starts with, strict
decoding as the exact inverse of encoding, and the shape of one encoded
character: a lead byte that counts the continuation bytes behind it.

Does not own: the bit arithmetic of one character, which the core library proves.
-/

set_option autoImplicit false

namespace Zangpu.Foundation.Utf8

def encode (text : List Char) : List UInt8 := text.flatMap String.utf8EncodeChar

/-- The character a byte string starts with. -/
def first? (bytes : List UInt8) : Option Char := bytes.toByteArray.utf8DecodeChar? 0

/-- Strict decoding of at most `fuel` characters. -/
def decodeFrom : Nat → List UInt8 → Option (List Char)
  | _, [] => some []
  | 0, _ :: _ => none
  | fuel + 1, byte :: rest =>
      match first? (byte :: rest) with
      | none => none
      | some character =>
          (decodeFrom fuel ((byte :: rest).drop character.utf8Size)).map (character :: ·)

def decode (bytes : List UInt8) : Option (List Char) := decodeFrom bytes.length bytes

/-! ## One character -/

theorem toNat_ofNat {code : Nat} (valid : code.isValidChar) : (Char.ofNat code).toNat = code := by
  rw [Char.ofNat, dif_pos valid]
  rfl

theorem length_encodeChar (character : Char) :
    (String.utf8EncodeChar character).length = character.utf8Size :=
  String.length_utf8EncodeChar character

theorem encodeChar_ne_nil (character : Char) : String.utf8EncodeChar character ≠ [] := by
  rw [ne_eq, ← List.length_eq_zero_iff, length_encodeChar]
  exact Nat.ne_of_gt character.utf8Size_pos

theorem first?_append (character : Char) (rest : List UInt8) :
    first? (String.utf8EncodeChar character ++ rest) = some character := by
  rw [first?, List.toByteArray_append]
  exact ByteArray.utf8DecodeChar?_utf8EncodeChar_append

theorem first?_eq_some_iff {bytes : List UInt8} {character : Char} :
    first? bytes = some character ↔ ∃ rest, bytes = String.utf8EncodeChar character ++ rest := by
  constructor
  · intro found
    obtain ⟨rest, split⟩ := ByteArray.exists_of_utf8DecodeChar?_eq_some found
    refine ⟨rest.data.toList, ?_⟩
    have same : rest = rest.data.toList.toByteArray := by
      ext1
      simp
    rw [same, ← List.toByteArray_append, List.toByteArray_inj] at split
    exact split
  · rintro ⟨rest, rfl⟩
    exact first?_append character rest

/-- No encoded character starts another. -/
theorem encodeChar_append_inj {left right : Char} {leftRest rightRest : List UInt8}
    (same : String.utf8EncodeChar left ++ leftRest = String.utf8EncodeChar right ++ rightRest) :
    left = right ∧ leftRest = rightRest := by
  have starts := first?_append left leftRest
  rw [same, first?_append] at starts
  have equal : right = left := Option.some.inj starts
  subst equal
  exact ⟨rfl, List.append_cancel_left same⟩

/-- The number of leading one bits of a byte, counted up to five. -/
def leadingOnes (byte : UInt8) : Nat :=
  if byte.toNat < 0x80 then 0
  else if byte.toNat < 0xc0 then 1
  else if byte.toNat < 0xe0 then 2
  else if byte.toNat < 0xf0 then 3
  else if byte.toNat < 0xf8 then 4
  else 5

/-- A continuation byte starts with one one bit. -/
theorem leadingOnes_continuation {value : Nat} :
    leadingOnes (UInt8.ofNat (value % 64 + 128)) = 1 := by
  have small : value % 64 < 64 := Nat.mod_lt _ (by decide)
  have same : (UInt8.ofNat (value % 64 + 128)).toNat = value % 64 + 128 :=
    UInt8.toNat_ofNat_of_lt' (by show _ < 256; omega)
  rw [leadingOnes, same, if_neg (by omega), if_pos (by omega)]

/-- An encoded character is a lead byte and the continuation bytes that its
leading one bits announce. -/
structure Shaped (lead : UInt8) (continuation : List UInt8) : Prop where
  leads : leadingOnes lead ≠ 1
  bounded : leadingOnes lead ≤ 4
  announced : continuation.length = leadingOnes lead - 1
  continues : ∀ byte ∈ continuation, leadingOnes byte = 1

theorem shaped_of {lead : UInt8} {continuation : List UInt8} {ones : Nat}
    (counted : leadingOnes lead = ones) (leads : ones ≠ 1) (bounded : ones ≤ 4)
    (announced : continuation.length = ones - 1)
    (continues : ∀ byte ∈ continuation, leadingOnes byte = 1) : Shaped lead continuation := by
  subst counted
  exact ⟨leads, bounded, announced, continues⟩

theorem leadingOnes_ofNat {value : Nat} (small : value < 256) :
    leadingOnes (UInt8.ofNat value) =
      if value < 0x80 then 0 else if value < 0xc0 then 1 else if value < 0xe0 then 2
      else if value < 0xf0 then 3 else if value < 0xf8 then 4 else 5 := by
  rw [leadingOnes, UInt8.toNat_ofNat_of_lt' small]

theorem encodeChar_shaped (character : Char) :
    ∃ lead continuation, String.utf8EncodeChar character = lead :: continuation ∧
      Shaped lead continuation := by
  have valid : character.val.toNat < 0x110000 := by
    rcases character.valid with low | high
    · omega
    · omega
  unfold String.utf8EncodeChar
  generalize character.val.toNat = point at valid
  simp only
  split
  · have counted := @leadingOnes_ofNat point (by omega)
    rw [if_pos (by omega)] at counted
    exact ⟨_, _, rfl, shaped_of counted (by decide) (by decide) rfl (List.forall_mem_nil _)⟩
  · split
    · have counted := @leadingOnes_ofNat (point / 64 % 32 + 192) (by omega)
      rw [if_neg (by omega), if_neg (by omega), if_pos (by omega)] at counted
      refine ⟨_, _, rfl, shaped_of counted (by decide) (by decide) rfl ?_⟩
      exact List.forall_mem_singleton.mpr leadingOnes_continuation
    · split
      · have counted := @leadingOnes_ofNat (point / 4096 % 16 + 224) (by omega)
        rw [if_neg (by omega), if_neg (by omega), if_neg (by omega), if_pos (by omega)] at counted
        refine ⟨_, _, rfl, shaped_of counted (by decide) (by decide) rfl ?_⟩
        rw [List.forall_mem_cons, List.forall_mem_singleton]
        exact ⟨leadingOnes_continuation, leadingOnes_continuation⟩
      · have counted := @leadingOnes_ofNat (point / 262144 % 8 + 240) (by omega)
        rw [if_neg (by omega), if_neg (by omega), if_neg (by omega), if_neg (by omega),
          if_pos (by omega)] at counted
        refine ⟨_, _, rfl, shaped_of counted (by decide) (by decide) rfl ?_⟩
        rw [List.forall_mem_cons, List.forall_mem_cons, List.forall_mem_singleton]
        exact ⟨leadingOnes_continuation, leadingOnes_continuation, leadingOnes_continuation⟩

/-- An ASCII character is its own byte. -/
theorem encodeChar_ascii {character : Char} (small : character.toNat < 128) :
    String.utf8EncodeChar character = [UInt8.ofNat character.toNat] := by
  have bound : character.val.toNat ≤ 127 := Nat.le_of_lt_succ small
  rw [String.utf8EncodeChar]
  exact if_pos bound

theorem large_of_continuation {byte : UInt8} (continues : leadingOnes byte = 1) :
    128 ≤ byte.toNat := by
  by_contra small
  rw [leadingOnes, if_pos (by omega)] at continues
  cases continues

/-- Every byte of another character is beyond ASCII. -/
theorem encodeChar_large {character : Char} (large : 128 ≤ character.toNat) :
    ∀ byte ∈ String.utf8EncodeChar character, 128 ≤ byte.toNat := by
  obtain ⟨lead, continuation, shape, shaped⟩ := encodeChar_shaped character
  rw [shape, List.forall_mem_cons]
  refine ⟨?_, fun byte member => large_of_continuation (shaped.continues byte member)⟩
  by_contra small
  have ones : leadingOnes lead = 0 := if_pos (by omega)
  have none := shaped.announced
  rw [ones, List.length_eq_zero_iff] at none
  have valid : lead.toNat.isValidChar := Or.inl (by omega)
  have single := @encodeChar_ascii (Char.ofNat lead.toNat) (by rw [toNat_ofNat valid]; omega)
  rw [toNat_ofNat valid, UInt8.ofNat_toNat, ← none, ← shape] at single
  have same := @encodeChar_append_inj (Char.ofNat lead.toNat) character [] []
    (by rw [single])
  rw [← same.1, toNat_ofNat valid] at large
  omega

/-! ## Texts -/

@[simp] theorem encode_nil : encode [] = [] := rfl

@[simp] theorem encode_cons (character : Char) (text : List Char) :
    encode (character :: text) = String.utf8EncodeChar character ++ encode text := rfl

theorem encode_append (left right : List Char) :
    encode (left ++ right) = encode left ++ encode right := List.flatMap_append

theorem encode_eq_nil_iff {text : List Char} : encode text = [] ↔ text = [] := by
  cases text with
  | nil => exact iff_of_true rfl rfl
  | cons character rest =>
      rw [encode_cons, List.append_eq_nil_iff]
      exact iff_of_false (fun both => encodeChar_ne_nil character both.1) (List.cons_ne_nil _ _)

theorem encode_injective {left right : List Char} (same : encode left = encode right) :
    left = right := by
  induction left generalizing right with
  | nil => exact (encode_eq_nil_iff.mp same.symm).symm
  | cons character rest inductionHypothesis =>
      cases right with
      | nil => exact encode_eq_nil_iff.mp same
      | cons other others =>
          obtain ⟨sameHead, sameRest⟩ := encodeChar_append_inj same
          rw [sameHead, inductionHypothesis sameRest]

theorem decodeFrom_encode (text : List Char) (fuel : Nat)
    (enough : (encode text).length ≤ fuel) : decodeFrom fuel (encode text) = some text := by
  induction text generalizing fuel with
  | nil => cases fuel <;> rfl
  | cons character rest inductionHypothesis =>
      obtain ⟨lead, continuation, shape, _⟩ := encodeChar_shaped character
      have found := first?_append character (encode rest)
      have size := length_encodeChar character
      have left : ((String.utf8EncodeChar character ++ encode rest).drop character.utf8Size) =
          encode rest := by rw [← size, List.drop_left]
      rw [encode_cons, List.length_append, size] at enough
      rw [encode_cons, shape, List.cons_append] at *
      have positive := character.utf8Size_pos
      cases fuel with
      | zero => omega
      | succ fuel =>
          rw [decodeFrom, found]
          simp only
          rw [left, inductionHypothesis fuel (by omega)]
          rfl

theorem encode_of_decodeFrom {fuel : Nat} {bytes : List UInt8} {text : List Char}
    (decoded : decodeFrom fuel bytes = some text) : bytes = encode text := by
  induction fuel generalizing bytes text with
  | zero =>
      cases bytes with
      | nil =>
          cases decoded
          rfl
      | cons => cases decoded
  | succ fuel inductionHypothesis =>
      cases bytes with
      | nil =>
          cases decoded
          rfl
      | cons byte rest =>
          rw [decodeFrom] at decoded
          cases found : first? (byte :: rest) with
          | none => simp [found] at decoded
          | some character =>
              rw [found] at decoded
              simp only [Option.map_eq_some_iff] at decoded
              obtain ⟨others, decodedRest, rfl⟩ := decoded
              obtain ⟨tail, split⟩ := first?_eq_some_iff.mp found
              rw [split, ← length_encodeChar, List.drop_left] at decodedRest
              rw [split, inductionHypothesis decodedRest, encode_cons]

/-- Strict decoding inverts encoding, and accepts nothing else. -/
theorem decode_eq_some_iff {bytes : List UInt8} {text : List Char} :
    decode bytes = some text ↔ bytes = encode text := by
  constructor
  · exact encode_of_decodeFrom
  · rintro rfl
    exact decodeFrom_encode text _ (Nat.le_refl _)

/-! ## Truncated characters -/

/-- The second byte of a character of three or four bytes. -/
def isSecond (lead second : UInt8) : Bool :=
  if lead.toNat = 0xe0 then 0xa0 ≤ second.toNat && second.toNat ≤ 0xbf
  else if lead.toNat = 0xed then 0x80 ≤ second.toNat && second.toNat ≤ 0x9f
  else if lead.toNat = 0xf0 then 0x90 ≤ second.toNat && second.toNat ≤ 0xbf
  else if lead.toNat = 0xf4 then 0x80 ≤ second.toNat && second.toNat ≤ 0x8f
  else 0x80 ≤ second.toNat && second.toNat ≤ 0xbf

/-- Bytes that a character starts with, and does not end with. -/
def isTruncated : List UInt8 → Bool
  | [lead] => 0xc2 ≤ lead.toNat && lead.toNat ≤ 0xf4
  | [lead, second] => 0xe0 ≤ lead.toNat && lead.toNat ≤ 0xf4 && isSecond lead second
  | [lead, second, third] =>
      0xf0 ≤ lead.toNat && lead.toNat ≤ 0xf4 && isSecond lead second &&
        (0x80 ≤ third.toNat && third.toNat ≤ 0xbf)
  | _ => false

theorem leadingOnes_least {byte : UInt8} :
    (0xc0 ≤ byte.toNat → 2 ≤ leadingOnes byte) ∧ (0xe0 ≤ byte.toNat → 3 ≤ leadingOnes byte) ∧
      (0xf0 ≤ byte.toNat → 4 ≤ leadingOnes byte) := by
  unfold leadingOnes
  refine ⟨?_, ?_, ?_⟩
  · intro least
    rw [if_neg (by omega), if_neg (by omega)]
    split <;> [decide; split <;> [decide; split <;> decide]]
  · intro least
    rw [if_neg (by omega), if_neg (by omega), if_neg (by omega)]
    split <;> [decide; split <;> decide]
  · intro least
    rw [if_neg (by omega), if_neg (by omega), if_neg (by omega), if_neg (by omega)]
    split <;> decide

/-- A truncated character is no character yet. -/
theorem first?_of_isTruncated {bytes : List UInt8} (truncated : isTruncated bytes = true) :
    first? bytes = none := by
  rw [Option.eq_none_iff_forall_ne_some]
  intro character found
  obtain ⟨rest, split⟩ := first?_eq_some_iff.mp found
  obtain ⟨lead, continuation, shape, shaped⟩ := encodeChar_shaped character
  rw [shape, List.cons_append] at split
  have size := congrArg List.length split
  rw [List.length_cons, List.length_append, shaped.announced] at size
  obtain ⟨two, three, four⟩ := @leadingOnes_least lead
  subst split
  -- The bytes are fewer than the lead byte announces.
  generalize continuation ++ rest = tail at truncated size
  match tail with
  | [] =>
      simp only [isTruncated, Bool.and_eq_true, decide_eq_true_eq] at truncated
      have ones := two (by omega)
      rw [List.length_singleton] at size
      omega
  | [second] =>
      simp only [isTruncated, Bool.and_eq_true, decide_eq_true_eq] at truncated
      have ones := three (by omega)
      simp only [List.length_cons, List.length_nil] at size
      omega
  | [second, third] =>
      simp only [isTruncated, Bool.and_eq_true, decide_eq_true_eq] at truncated
      have ones := four (by omega)
      simp only [List.length_cons, List.length_nil] at size
      omega
  | _ :: _ :: _ :: _ => cases truncated

theorem isTruncated_ne_nil {bytes : List UInt8} (truncated : isTruncated bytes = true) :
    bytes ≠ [] := by
  rintro rfl
  cases truncated

/-- A truncated character is cut anywhere into a truncated one. -/
theorem isTruncated_take {bytes more : List UInt8} (some_ : bytes ≠ [])
    (truncated : isTruncated (bytes ++ more) = true) : isTruncated bytes = true := by
  match bytes, more with
  | [], _ => exact absurd rfl some_
  | [_], [] | [_, _], [] | [_, _, _], [] => exact truncated
  | [lead], [second] =>
      simp only [List.cons_append, List.nil_append, isTruncated, Bool.and_eq_true,
        decide_eq_true_eq] at truncated ⊢
      omega
  | [lead], [second, third] =>
      simp only [List.cons_append, List.nil_append, isTruncated, Bool.and_eq_true,
        decide_eq_true_eq] at truncated ⊢
      omega
  | [lead, second], [third] =>
      simp only [List.cons_append, List.nil_append, isTruncated, Bool.and_eq_true,
        decide_eq_true_eq] at truncated ⊢
      exact ⟨⟨by omega, by omega⟩, truncated.1.2⟩
  | [_], _ :: _ :: _ :: _ | [_, _], _ :: _ :: _ | [_, _, _], _ :: _ => cases truncated
  | _ :: _ :: _ :: _ :: _, _ => cases truncated

/-- All but the last byte of a character is truncated. -/
theorem isTruncated_dropLast {character : Char} {first : UInt8} {more : List UInt8}
    (shape : String.utf8EncodeChar character = first :: more) (long : more ≠ []) :
    isTruncated (first :: more).dropLast = true := by
  have bounds : character.val.toNat < 0xd800 ∨
      0xdfff < character.val.toNat ∧ character.val.toNat < 0x110000 := character.valid
  unfold String.utf8EncodeChar at shape
  generalize character.val.toNat = point at shape bounds
  have value : ∀ code, code < 256 → (UInt8.ofNat code).toNat = code := fun code small =>
    UInt8.toNat_ofNat_of_lt' small
  simp only at shape
  split at shape
  · cases shape
    exact absurd rfl long
  · split at shape
    · cases shape
      have lead := value (point / 64 % 32 + 192) (by omega)
      simp only [List.dropLast_cons_cons, List.dropLast_singleton, isTruncated, Bool.and_eq_true,
        decide_eq_true_eq]
      omega
    · split at shape
      · cases shape
        have lead := value (point / 4096 % 16 + 224) (by omega)
        have second := value (point / 64 % 64 + 128) (by omega)
        simp only [List.dropLast_cons_cons, List.dropLast_singleton, isTruncated, isSecond,
          Bool.and_eq_true, decide_eq_true_eq, lead, second]
        refine ⟨by omega, ?_⟩
        repeat' split
        all_goals simp only [Bool.and_eq_true, decide_eq_true_eq]; omega
      · cases shape
        have lead := value (point / 262144 % 8 + 240) (by omega)
        have second := value (point / 4096 % 64 + 128) (by omega)
        have third := value (point / 64 % 64 + 128) (by omega)
        simp only [List.dropLast_cons_cons, List.dropLast_singleton, isTruncated, isSecond,
          Bool.and_eq_true, decide_eq_true_eq, lead, second, third]
        refine ⟨⟨by omega, ?_⟩, by omega⟩
        repeat' split
        all_goals simp only [Bool.and_eq_true, decide_eq_true_eq]; omega

/-- A character is cut anywhere into a truncated one. -/
theorem isTruncated_encodeChar {character : Char} {bytes more : List UInt8} (some_ : bytes ≠ [])
    (cut : more ≠ []) (split : String.utf8EncodeChar character = bytes ++ more) :
    isTruncated bytes = true := by
  obtain ⟨front, last, rfl⟩ := List.eq_nil_or_concat more |>.resolve_left cut
  rw [List.concat_eq_append, ← List.append_assoc] at split
  cases whole : bytes ++ front with
  | nil => exact absurd (List.append_eq_nil_iff.mp whole).1 some_
  | cons first more =>
      rw [whole, List.cons_append] at split
      have truncated := isTruncated_dropLast split (List.append_ne_nil_of_right_ne_nil _
        (List.cons_ne_nil _ _))
      rw [← List.cons_append, List.dropLast_concat, ← whole] at truncated
      exact isTruncated_take some_ truncated

/-! ## Decoding in pieces -/

/-- Strict decoding of a piece: its characters, and a truncated one at its end. -/
def decodePieceFrom : Nat → List UInt8 → Option (List Char × List UInt8)
  | _, [] => some ([], [])
  | 0, _ :: _ => none
  | fuel + 1, byte :: rest =>
      match first? (byte :: rest) with
      | some character =>
          (decodePieceFrom fuel ((byte :: rest).drop character.utf8Size)).map fun read =>
            (character :: read.1, read.2)
      | none => if isTruncated (byte :: rest) then some ([], byte :: rest) else none

def decodePiece (bytes : List UInt8) : Option (List Char × List UInt8) :=
  decodePieceFrom bytes.length bytes

/-- Nothing, or a truncated character. -/
def Pending (bytes : List UInt8) : Prop := bytes = [] ∨ isTruncated bytes = true

theorem decodePieceFrom_encode {text : List Char} {pending : List UInt8} (cut : Pending pending)
    {fuel : Nat} (enough : (encode text ++ pending).length ≤ fuel) :
    decodePieceFrom fuel (encode text ++ pending) = some (text, pending) := by
  induction text generalizing fuel with
  | nil =>
      rw [encode_nil, List.nil_append] at enough ⊢
      cases cut with
      | inl none =>
          subst none
          cases fuel <;> rfl
      | inr truncated =>
          cases pending with
          | nil => cases truncated
          | cons byte rest =>
              cases fuel with
              | zero => cases enough
              | succ fuel => rw [decodePieceFrom, first?_of_isTruncated truncated, if_pos truncated]
  | cons character rest inductionHypothesis =>
      have found := first?_append character (encode rest ++ pending)
      have size := length_encodeChar character
      have left : (String.utf8EncodeChar character ++ (encode rest ++ pending)).drop
          character.utf8Size = encode rest ++ pending := by rw [← size, List.drop_left]
      rw [encode_cons, List.append_assoc] at enough ⊢
      rw [List.length_append, size] at enough
      obtain ⟨lead, continuation, shape, _⟩ := encodeChar_shaped character
      rw [shape, List.cons_append] at found left ⊢
      have positive := character.utf8Size_pos
      cases fuel with
      | zero => omega
      | succ fuel =>
          rw [decodePieceFrom, found]
          simp only
          rw [left, inductionHypothesis (by omega)]
          rfl

theorem decodePiece_encode {text : List Char} {pending : List UInt8} (cut : Pending pending) :
    decodePiece (encode text ++ pending) = some (text, pending) :=
  decodePieceFrom_encode cut (Nat.le_refl _)

/-- However encoded text is cut, the front is text and a truncated character, which
the back completes. -/
theorem exists_cut {text : List Char} {front back pending : List UInt8} (cut : Pending pending)
    (whole : front ++ back = encode text ++ pending) :
    ∃ read rest middle, front = encode read ++ middle ∧ Pending middle ∧ text = read ++ rest ∧
      middle ++ back = encode rest ++ pending := by
  induction text generalizing front with
  | nil =>
      rw [encode_nil, List.nil_append] at whole
      refine ⟨[], [], front, rfl, ?_, rfl, whole⟩
      by_cases some_ : front = []
      · exact Or.inl some_
      · rcases cut with none | truncated
        · rw [none, List.append_eq_nil_iff] at whole
          exact Or.inl whole.1
        · exact Or.inr (isTruncated_take some_ (whole ▸ truncated))
  | cons character rest inductionHypothesis =>
      rw [encode_cons, List.append_assoc] at whole
      rcases List.append_eq_append_iff.mp whole with ⟨tail, inside, behind⟩ | ⟨tail, inside, behind⟩
      · by_cases none : tail = []
        · subst none
          rw [List.append_nil] at inside
          refine ⟨[character], rest, [], ?_, Or.inl rfl, rfl, ?_⟩
          · rw [encode_cons, encode_nil, List.append_nil, List.append_nil, inside]
          · exact behind
        · refine ⟨[], character :: rest, front, rfl, ?_, rfl, ?_⟩
          · by_cases some_ : front = []
            · exact Or.inl some_
            · exact Or.inr (isTruncated_encodeChar some_ none inside)
          · rw [whole, encode_cons, List.append_assoc]
      · obtain ⟨read, later, middle, front_, pendingMiddle, split, completes⟩ :=
          inductionHypothesis behind.symm
        refine ⟨character :: read, later, middle, ?_, pendingMiddle, ?_, completes⟩
        · rw [inside, front_, encode_cons, List.append_assoc]
        · rw [split, List.cons_append]

/-! ## Decoding with replacement -/

def replacement : Char := Char.ofNat 0xfffd

/-- How many bytes one replacement character stands for: a truncated character, or
one byte. -/
def illFormed (bytes : List UInt8) : Nat :=
  if isTruncated (bytes.take 3) then (bytes.take 3).length
  else if isTruncated (bytes.take 2) then (bytes.take 2).length
  else 1

def replaceFrom : Nat → List UInt8 → List Char
  | _, [] => []
  | 0, _ :: _ => []
  | fuel + 1, byte :: rest =>
      match first? (byte :: rest) with
      | some character => character :: replaceFrom fuel ((byte :: rest).drop character.utf8Size)
      | none => replacement :: replaceFrom fuel ((byte :: rest).drop (illFormed (byte :: rest)))

def decodeReplacing (bytes : List UInt8) : List Char := replaceFrom bytes.length bytes

theorem illFormed_pos (byte : UInt8) (rest : List UInt8) : 0 < illFormed (byte :: rest) := by
  unfold illFormed
  split
  · exact Nat.succ_pos _
  · split
    · exact Nat.succ_pos _
    · decide

theorem replaceFrom_enough {fuel other : Nat} {bytes : List UInt8} (enough : bytes.length ≤ fuel)
    (otherEnough : bytes.length ≤ other) : replaceFrom fuel bytes = replaceFrom other bytes := by
  induction fuel generalizing other bytes with
  | zero =>
      rw [List.length_eq_zero_iff.mp (Nat.le_zero.mp enough)]
      cases other <;> rfl
  | succ fuel inductionHypothesis =>
      cases bytes with
      | nil => cases other <;> rfl
      | cons byte rest =>
          cases other with
          | zero => cases otherEnough
          | succ other =>
              have shorter : ∀ count, 0 < count →
                  ((byte :: rest).drop count).length ≤ rest.length := by
                intro count positive
                rw [List.length_drop, List.length_cons]
                omega
              rw [List.length_cons] at enough otherEnough
              rw [replaceFrom, replaceFrom]
              split
              · next character found =>
                  have fewer := shorter _ character.utf8Size_pos
                  rw [@inductionHypothesis other _ (by omega) (by omega)]
              · have fewer := shorter _ (illFormed_pos byte rest)
                rw [@inductionHypothesis other _ (by omega) (by omega)]

/-- Well-formed text in front is decoded as it is. -/
theorem decodeReplacing_append (text : List Char) (rest : List UInt8) :
    decodeReplacing (encode text ++ rest) = text ++ decodeReplacing rest := by
  induction text with
  | nil => rfl
  | cons character others inductionHypothesis =>
      have found := first?_append character (encode others ++ rest)
      have size := length_encodeChar character
      have left : (String.utf8EncodeChar character ++ (encode others ++ rest)).drop
          character.utf8Size = encode others ++ rest := by rw [← size, List.drop_left]
      rw [encode_cons, List.append_assoc]
      obtain ⟨lead, continuation, shape, _⟩ := encodeChar_shaped character
      rw [shape, List.cons_append] at found left ⊢
      rw [decodeReplacing, List.length_cons, replaceFrom, found]
      simp only
      rw [left, List.cons_append, ← inductionHypothesis, decodeReplacing]
      congr 1
      apply replaceFrom_enough _ (Nat.le_refl _)
      rw [@List.length_append _ continuation]
      exact Nat.le_add_left _ _

theorem decodeReplacing_encode (text : List Char) : decodeReplacing (encode text) = text := by
  have whole := decodeReplacing_append text []
  rw [List.append_nil] at whole
  rw [whole]
  exact List.append_nil text

example : decode [0xc3, 0xa9, 0x25] = some ['é', '%'] := by decide

end Zangpu.Foundation.Utf8
