import Mathlib.Algebra.GroupWithZero.Nat
import Mathlib.Algebra.Ring.Int.Defs
import Mathlib.Data.List.Induction
import Mathlib.Data.List.TakeWhile
import Mathlib.Tactic.Common

/-!
The texts of universally unique identifiers.

Owns: the parser and the printer of `uuid.UUID`, with the integer literals and the
decimal digits it rests on; and the texts that are printed as they were parsed.

Does not own: the versions and the fields of an identifier.
-/

set_option autoImplicit false

namespace Zangpu.Foundation.Uuid

/-! ## Integer literals -/

/-- The zeros of the decimal digits of Unicode 15 outside ASCII; each begins a run of
ten. -/
def decimalZeros : List Nat :=
  [0x660, 0x6F0, 0x7C0, 0x966, 0x9E6, 0xA66, 0xAE6, 0xB66, 0xBE6, 0xC66, 0xCE6, 0xD66, 0xDE6,
    0xE50, 0xED0, 0xF20, 0x1040, 0x1090, 0x17E0, 0x1810, 0x1946, 0x19D0, 0x1A80, 0x1A90, 0x1B50,
    0x1BB0, 0x1C40, 0x1C50, 0xA620, 0xA8D0, 0xA900, 0xA9D0, 0xA9F0, 0xAA50, 0xABF0, 0xFF10,
    0x104A0, 0x10D30, 0x11066, 0x110F0, 0x11136, 0x111D0, 0x112F0, 0x11450, 0x114D0, 0x11650,
    0x116C0, 0x11730, 0x118E0, 0x11950, 0x11C50, 0x11D50, 0x11DA0, 0x11F50, 0x16A60, 0x16AC0,
    0x16B50, 0x1D7CE, 0x1D7D8, 0x1D7E2, 0x1D7EC, 0x1D7F6, 0x1E140, 0x1E2F0, 0x1E4F0, 0x1E950,
    0x1FBF0]

/-- The white space of Unicode outside ASCII. -/
def isWideSpace (code : Nat) : Bool :=
  code = 133 || code = 160 || code = 5760 || (8192 ≤ code && code ≤ 8202) || code = 8232 ||
    code = 8233 || code = 8239 || code = 8287 || code = 12288

/-- The ASCII character that stands for a character in a literal; `?` for one that
can stand in none. -/
def toAscii (character : Char) : Char :=
  let code := character.toNat
  if code < 127 then character
  else if isWideSpace code then ' '
  else
    match decimalZeros.find? fun start => start ≤ code && code < start + 10 with
    | some start => Char.ofNat ('0'.toNat + (code - start))
    | none => '?'

def isSpace (character : Char) : Bool :=
  character = ' ' || (9 ≤ character.toNat && character.toNat ≤ 13)

/-- The value of a hexadecimal digit of either case. -/
def digitValue? (character : Char) : Option Nat :=
  if '0' ≤ character ∧ character ≤ '9' then some (character.toNat - '0'.toNat)
  else if 'a' ≤ character ∧ character ≤ 'f' then some (character.toNat - 'a'.toNat + 10)
  else if 'A' ≤ character ∧ character ≤ 'F' then some (character.toNat - 'A'.toNat + 10)
  else none

/-- Digits with single underscores between them. -/
def wellPlaced : List Char → Bool
  | [] => false
  | [last] => last ≠ '_'
  | '_' :: _ => false
  | _ :: '_' :: rest => wellPlaced rest
  | _ :: rest => wellPlaced rest

def literalValue (digits : List Char) : Nat :=
  digits.foldl (fun value digit => value * 16 + (digitValue? digit).getD 0) 0

/-- The sign of a literal and what follows it. -/
def splitSign : List Char → Int × List Char
  | '+' :: rest => (1, rest)
  | '-' :: rest => (-1, rest)
  | text => (1, text)

/-- What follows the base prefix of a literal; one underscore may follow the prefix. -/
def dropBase : List Char → List Char
  | '0' :: 'x' :: '_' :: rest | '0' :: 'X' :: '_' :: rest => rest
  | '0' :: 'x' :: rest | '0' :: 'X' :: rest => rest
  | text => text

/-- The characters of the digits of a literal. -/
def isDigitOrUnderscore (character : Char) : Bool :=
  (digitValue? character).isSome || character = '_'

/-- `int(text, 16)`. -/
def int16 (text : List Char) : Option Int :=
  let (sign, unsigned) := splitSign ((text.map toAscii).dropWhile isSpace)
  let body := dropBase unsigned
  let digits := body.takeWhile isDigitOrUnderscore
  let rest := body.dropWhile isDigitOrUnderscore
  if wellPlaced digits && rest.all isSpace then
    some (sign * literalValue (digits.filter (· ≠ '_')))
  else none

/-! ## Parser and printer -/

/-- `text.replace(needle, "")`; `skip` characters are still to be dropped. -/
def removeFrom (needle : List Char) : Nat → List Char → List Char
  | _, [] => []
  | skip + 1, _ :: rest => removeFrom needle skip rest
  | 0, first :: rest =>
      if needle.isPrefixOf (first :: rest) then removeFrom needle (needle.length - 1) rest
      else first :: removeFrom needle 0 rest

def remove (needle : String) (text : List Char) : List Char := removeFrom needle.toList 0 text

def isBrace (character : Char) : Bool := character = '\x7b' || character = '\x7d'

/-- `text.strip` of the two braces. -/
def stripBraces (text : List Char) : List Char :=
  ((text.dropWhile isBrace).reverse.dropWhile isBrace).reverse

/-- The hexadecimal part of a text. -/
def hexOf (text : List Char) : List Char :=
  (stripBraces (remove "uuid:" (remove "urn:" text))).filter (· ≠ '-')

/-- `UUID(text)`, `none` when it raises. -/
def parse (text : String) : Option Nat := do
  let hex := hexOf text.toList
  if hex.length ≠ 32 then none
  else do
    let value ← int16 hex
    if 0 ≤ value ∧ value < 2 ^ 128 then some value.toNat else none

def hexDigit (value : Nat) : Char :=
  Char.ofNat (if value < 10 then '0'.toNat + value else 'a'.toNat + (value - 10))

/-- The lower-case hexadecimal digits of a number, padded to a width. -/
def hexDigits : Nat → Nat → List Char
  | 0, _ => []
  | width + 1, value => hexDigits width (value / 16) ++ [hexDigit (value % 16)]

/-- Digits in groups of 8, 4, 4, 4 and the rest. -/
def hyphenate (digits : List Char) : List Char :=
  digits.take 8 ++ '-' :: (digits.drop 8).take 4 ++ '-' :: (digits.drop 12).take 4 ++
    '-' :: (digits.drop 16).take 4 ++ '-' :: digits.drop 20

/-- `str(uuid)`. -/
def str (value : Nat) : String := String.ofList (hyphenate (hexDigits 32 value))

/-! ## Canonical texts -/

def isLowerHex (character : Char) : Bool :=
  ('0' ≤ character && character ≤ '9') || ('a' ≤ character && character ≤ 'f')

/-- 32 lower-case hexadecimal digits in groups of 8, 4, 4, 4 and 12. -/
def isCanonical (text : String) : Bool :=
  let digits := text.toList.filter (· ≠ '-')
  digits.length = 32 && digits.all isLowerHex && text.toList = hyphenate digits

/-! ## Hexadecimal digits -/

/-- What holds of the lower-case hexadecimal digits below 128 holds of all. -/
theorem forall_lowerHex {holds : Char → Prop}
    (checked : ∀ code < 128, isLowerHex (Char.ofNat code) = true → holds (Char.ofNat code))
    (character : Char) (digit : isLowerHex character = true) : holds character := by
  have ascii : character.toNat < 128 := by
    simp only [isLowerHex, Bool.or_eq_true, Bool.and_eq_true, decide_eq_true_eq, Char.le_def,
      UInt32.le_iff_toNat_le] at digit
    have nine : ('9' : Char).val.toNat = 57 := rfl
    have letter : ('f' : Char).val.toNat = 102 := rfl
    show character.val.toNat < 128
    omega
  rw [← Char.ofNat_toNat character] at digit ⊢
  exact checked _ ascii digit

/-- A lower-case hexadecimal digit as a part of a literal. -/
structure Digit (character : Char) : Prop where
  printed : hexDigit ((digitValue? character).getD 0) = character
  small : (digitValue? character).getD 0 < 16
  kept : toAscii character = character
  solid : isSpace character = false
  digit : isDigitOrUnderscore character = true
  plain : character ≠ '_' ∧ character ≠ '-' ∧ character ≠ '+' ∧ character ≠ ':' ∧
    character ≠ 'x' ∧ character ≠ 'X'
  unbraced : isBrace character = false

instance (character : Char) : Decidable (Digit character) :=
  decidable_of_iff (hexDigit ((digitValue? character).getD 0) = character ∧
    (digitValue? character).getD 0 < 16 ∧ toAscii character = character ∧
    isSpace character = false ∧ isDigitOrUnderscore character = true ∧
    (character ≠ '_' ∧ character ≠ '-' ∧ character ≠ '+' ∧ character ≠ ':' ∧
      character ≠ 'x' ∧ character ≠ 'X') ∧ isBrace character = false)
    ⟨fun ⟨printed, small, kept, solid, digit, plain, unbraced⟩ =>
      ⟨printed, small, kept, solid, digit, plain, unbraced⟩,
    fun digit => ⟨digit.printed, digit.small, digit.kept, digit.solid, digit.digit, digit.plain,
      digit.unbraced⟩⟩

theorem digit_of_lowerHex : ∀ character, isLowerHex character = true → Digit character :=
  forall_lowerHex (by decide)

theorem lowerHex_hexDigit {value : Nat} (small : value < 16) :
    isLowerHex (hexDigit value) = true := by
  have checked : ∀ value < 16, isLowerHex (hexDigit value) = true := by decide
  exact checked value small

@[simp] theorem length_hexDigits (width value : Nat) : (hexDigits width value).length = width := by
  induction width generalizing value with
  | zero => rfl
  | succ width inductionHypothesis => simp [hexDigits, inductionHypothesis]

theorem lowerHex_hexDigits (width value : Nat) :
    ∀ character ∈ hexDigits width value, isLowerHex character = true := by
  induction width generalizing value with
  | zero => simp [hexDigits]
  | succ width inductionHypothesis =>
      intro character member
      rcases List.mem_append.mp member with early | last
      · exact inductionHypothesis _ character early
      · rw [List.mem_singleton.mp last]
        exact lowerHex_hexDigit (Nat.mod_lt _ (by decide))

theorem literalValue_append (digits : List Char) (digit : Char) :
    literalValue (digits ++ [digit]) =
      literalValue digits * 16 + (digitValue? digit).getD 0 := by
  simp [literalValue]

/-- Digits are printed back from their value. -/
theorem hexDigits_literalValue (digits : List Char)
    (lower : ∀ character ∈ digits, isLowerHex character = true) :
    hexDigits digits.length (literalValue digits) = digits ∧
      literalValue digits < 2 ^ (4 * digits.length) := by
  induction digits using List.reverseRecOn with
  | nil => exact ⟨rfl, Nat.one_pos⟩
  | append_singleton digits digit inductionHypothesis =>
      have last := digit_of_lowerHex digit (lower digit (by simp))
      obtain ⟨printed, bounded⟩ := inductionHypothesis fun character member =>
        lower character (List.mem_append_left _ member)
      rw [List.length_append, List.length_singleton, literalValue_append]
      have small := last.small
      constructor
      · rw [hexDigits, show (literalValue digits * 16 + (digitValue? digit).getD 0) / 16 =
          literalValue digits by omega, show (literalValue digits * 16 +
          (digitValue? digit).getD 0) % 16 = (digitValue? digit).getD 0 by omega, printed,
          last.printed]
      · rw [Nat.mul_add, Nat.pow_add]
        omega

/-! ## Canonical texts -/

theorem groups_append (digits : List Char) :
    digits.take 8 ++ ((digits.drop 8).take 4 ++ ((digits.drop 12).take 4 ++
      ((digits.drop 16).take 4 ++ digits.drop 20))) = digits := by
  have join : ∀ count, (digits.drop count).take 4 ++ digits.drop (count + 4) = digits.drop count :=
    fun count => by rw [← List.drop_drop, List.take_append_drop]
  rw [join 16, join 12, join 8, List.take_append_drop]

/-- Taking the hyphens out again leaves the digits. -/
theorem filter_hyphenate {digits : List Char} (plain : ∀ character ∈ digits, character ≠ '-') :
    (hyphenate digits).filter (· ≠ '-') = digits := by
  have whole : ∀ part : List Char, (∀ character ∈ part, character ∈ digits) →
      part.filter (· ≠ '-') = part := fun part inside =>
    List.filter_eq_self.mpr fun character member => by simp [plain character (inside character member)]
  have dropped : ∀ count, ∀ character ∈ digits.drop count, character ∈ digits :=
    fun count character member => List.mem_of_mem_drop member
  have group : ∀ count, ∀ character ∈ (digits.drop count).take 4, character ∈ digits :=
    fun count character member => dropped count character (List.mem_of_mem_take member)
  have hyphen : ∀ rest : List Char, ('-' :: rest).filter (· ≠ '-') = rest.filter (· ≠ '-') :=
    fun rest => List.filter_cons_of_neg (by simp)
  unfold hyphenate
  rw [List.append_assoc, List.append_assoc, List.append_assoc, List.filter_append,
    List.filter_append, List.filter_append, List.filter_append, hyphen, hyphen, hyphen, hyphen,
    whole _ fun character member => List.mem_of_mem_take member, whole _ (group 8),
    whole _ (group 12), whole _ (group 16), whole _ (dropped 20), groups_append]

theorem mem_hyphenate {digits : List Char} {character : Char}
    (member : character ∈ hyphenate digits) : character = '-' ∨ character ∈ digits := by
  simp only [hyphenate, List.mem_append, List.mem_cons] at member
  rcases member with (((early | hyphen | early) | hyphen | early) | hyphen | early) | hyphen | late
  all_goals first
    | exact Or.inl hyphen
    | exact Or.inr (List.mem_of_mem_take early)
    | exact Or.inr (List.mem_of_mem_drop (List.mem_of_mem_take early))
    | exact Or.inr (List.mem_of_mem_drop late)

theorem isCanonical_iff {text : String} :
    isCanonical text = true ↔ ∃ digits : List Char, digits.length = 32 ∧
      (∀ character ∈ digits, isLowerHex character = true) ∧ text.toList = hyphenate digits := by
  simp only [isCanonical, Bool.and_eq_true, decide_eq_true_eq, List.all_eq_true]
  constructor
  · rintro ⟨⟨length, lower⟩, same⟩
    exact ⟨_, length, lower, same⟩
  · rintro ⟨digits, length, lower, same⟩
    have plain : ∀ character ∈ digits, character ≠ '-' := fun character member =>
      (digit_of_lowerHex character (lower character member)).plain.2.1
    rw [same, filter_hyphenate plain]
    exact ⟨⟨length, lower⟩, rfl⟩

/-- Every printed identifier is canonical. -/
theorem isCanonical_str (value : Nat) : isCanonical (str value) = true :=
  isCanonical_iff.mpr ⟨hexDigits 32 value, length_hexDigits _ _, lowerHex_hexDigits _ _,
    String.toList_ofList⟩

/-! ## Parsing canonical texts -/

/-- A text without colons holds no scheme to remove. -/
theorem remove_of_plain {needle : String} (colon : ':' ∈ needle.toList) {text : List Char}
    (plain : ':' ∉ text) : remove needle text = text := by
  unfold remove
  induction text with
  | nil => rfl
  | cons first rest inductionHypothesis =>
      unfold removeFrom
      rw [if_neg, inductionHypothesis fun member => plain (List.mem_cons_of_mem _ member)]
      intro isPrefix
      exact plain ((List.isPrefixOf_iff_prefix.mp isPrefix).subset colon)

theorem dropWhile_of_all {holds : Char → Bool} {text : List Char}
    (all : ∀ character ∈ text, holds character = false) : text.dropWhile holds = text := by
  cases text with
  | nil => rfl
  | cons first rest => exact List.dropWhile_cons_of_neg (by simp [all first (by simp)])

theorem wellPlaced_of_plain {digits : List Char} (nonempty : digits ≠ [])
    (plain : ∀ character ∈ digits, character ≠ '_') : wellPlaced digits = true := by
  fun_induction wellPlaced digits with
  | case1 => exact absurd rfl nonempty
  | case2 last => simpa using plain last (by simp)
  | case3 => exact absurd rfl (plain '_' (by simp))
  | case4 first rest => exact absurd rfl (plain '_' (by simp))
  | case5 first rest more _ _ inductionHypothesis =>
      apply inductionHypothesis
      · rintro rfl
        exact more rfl
      · exact fun character member => plain character (List.mem_cons_of_mem _ member)

section Digits

variable {digits : List Char} (digit : ∀ character ∈ digits, Digit character)

include digit

theorem splitSign_of_digits : splitSign digits = (1, digits) := by
  unfold splitSign
  split
  · exact absurd rfl (digit '+' (by simp)).plain.2.2.1
  · exact absurd rfl (digit '-' (by simp)).plain.2.1
  · rfl

theorem dropBase_of_digits : dropBase digits = digits := by
  unfold dropBase
  split
  · exact absurd rfl (digit 'x' (by simp)).plain.2.2.2.2.1
  · exact absurd rfl (digit 'X' (by simp)).plain.2.2.2.2.2
  · exact absurd rfl (digit 'x' (by simp)).plain.2.2.2.2.1
  · exact absurd rfl (digit 'X' (by simp)).plain.2.2.2.2.2
  · rfl

/-- Lower-case digits are read as their value. -/
theorem int16_of_digits (nonempty : digits ≠ []) :
    int16 digits = some (literalValue digits : Int) := by
  have ascii : digits.map toAscii = digits := by
    conv_rhs => rw [← List.map_id digits]
    exact List.map_congr_left fun character member => (digit character member).kept
  have solid : digits.dropWhile isSpace = digits :=
    dropWhile_of_all fun character member => (digit character member).solid
  have taken : digits.takeWhile isDigitOrUnderscore = digits :=
    List.takeWhile_eq_self_iff.mpr fun character member => (digit character member).digit
  have rest : digits.dropWhile isDigitOrUnderscore = [] :=
    List.dropWhile_eq_nil_iff.mpr fun character member => (digit character member).digit
  have whole : digits.filter (· ≠ '_') = digits :=
    List.filter_eq_self.mpr fun character member => by simp [(digit character member).plain.1]
  have placed : wellPlaced digits = true :=
    wellPlaced_of_plain nonempty fun character member => (digit character member).plain.1
  unfold int16
  rw [ascii, solid, splitSign_of_digits digit]
  dsimp only
  rw [dropBase_of_digits digit, taken, rest, placed, whole, Int.one_mul]
  rfl

end Digits

/-- The hexadecimal part of hyphenated digits are the digits. -/
theorem hexOf_hyphenate {digits : List Char}
    (digit : ∀ character ∈ digits, Digit character) : hexOf (hyphenate digits) = digits := by
  have inside : ∀ character ∈ hyphenate digits, character ≠ ':' ∧ isBrace character = false := by
    intro character member
    rcases mem_hyphenate member with rfl | old
    · decide
    · exact ⟨(digit character old).plain.2.2.2.1, (digit character old).unbraced⟩
  have colonless : ':' ∉ hyphenate digits := fun member => (inside ':' member).1 rfl
  have stripped : stripBraces (hyphenate digits) = hyphenate digits := by
    unfold stripBraces
    rw [dropWhile_of_all fun character member => (inside character member).2,
      dropWhile_of_all fun character member => (inside character (List.mem_reverse.mp member)).2,
      List.reverse_reverse]
  unfold hexOf
  rw [remove_of_plain (by decide) colonless, remove_of_plain (by decide) colonless, stripped,
    filter_hyphenate fun character member => (digit character member).plain.2.1]

/-- A canonical text is parsed, and printed as it was. -/
theorem parse_canonical {text : String} (canonical : isCanonical text = true) :
    ∃ value, parse text = some value ∧ str value = text := by
  obtain ⟨digits, length, lower, same⟩ := isCanonical_iff.mp canonical
  have digit : ∀ character ∈ digits, Digit character := fun character member =>
    digit_of_lowerHex character (lower character member)
  have nonempty : digits ≠ [] := by
    rintro rfl
    cases length
  obtain ⟨printed, bounded⟩ := hexDigits_literalValue digits lower
  rw [length] at printed bounded
  refine ⟨literalValue digits, ?_, ?_⟩
  · have small : (0 : Int) ≤ literalValue digits ∧ (literalValue digits : Int) < 2 ^ 128 := by
      rw [show 4 * 32 = 128 from rfl] at bounded
      exact ⟨Int.natCast_nonneg _, by exact_mod_cast bounded⟩
    unfold parse
    rw [same, hexOf_hyphenate digit]
    dsimp only
    rw [if_neg (by simp [length]), int16_of_digits digit nonempty, Option.bind_eq_bind,
      Option.bind_some, if_pos small, Int.toNat_natCast]
  · unfold str
    rw [printed, ← same, String.ofList_toList]

/-- A text is printed as it was parsed exactly when it is canonical. -/
theorem str_parse_iff {text : String} {value : Nat} (parsed : parse text = some value) :
    str value = text ↔ isCanonical text = true := by
  constructor
  · intro same
    rw [← same]
    exact isCanonical_str value
  · intro canonical
    obtain ⟨other, accepted, printed⟩ := parse_canonical canonical
    rw [parsed, Option.some.injEq] at accepted
    rw [accepted]
    exact printed

end Zangpu.Foundation.Uuid
