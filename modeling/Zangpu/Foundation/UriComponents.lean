import Zangpu.Foundation.Utf16
import Zangpu.Foundation.PercentEncoding

/-!
`decodeURIComponent` and `encodeURIComponent`.

Owns: the two functions of ECMAScript over code units, and what they are on the
units of a text of characters: percent decoding of its UTF-8 bytes, and quoting.

Does not own: the replacements that callers make in the result.
-/

set_option autoImplicit false

namespace Zangpu.Foundation.UriComponents

open PercentEncoding

/-- The escaped octets that must follow a lead octet, and the units behind them. -/
def continuationOctets : Nat → List UInt16 → Option (List UInt8 × List UInt16)
  | 0, units => some ([], units)
  | count + 1, units =>
      match escape? UInt16.toNat units with
      | none => none
      | some octet =>
          (continuationOctets count (units.drop 3)).map fun read => (octet :: read.1, read.2)

/-- The escaped character at the front: a lead octet, as many further octets as it
announces, and together the UTF-8 encoding of one code point. -/
def sequence? (units : List UInt16) : Option (Char × List UInt16) :=
  match escape? UInt16.toNat units with
  | none => none
  | some octet =>
      if Utf8.leadingOnes octet = 1 ∨ 4 < Utf8.leadingOnes octet then none
      else
        match continuationOctets (Utf8.leadingOnes octet - 1) (units.drop 3) with
        | none => none
        | some (octets, rest) =>
            match Utf8.decode (octet :: octets) with
            | some [character] => some (character, rest)
            | _ => none

/-- The loop of `decodeURIComponent`, at most `fuel` times. -/
def decodeFrom : Nat → List UInt16 → Option (List UInt16)
  | _, [] => some []
  | 0, _ :: _ => none
  | fuel + 1, unit :: rest =>
      if unit.toNat = 37 then
        match sequence? (unit :: rest) with
        | none => none
        | some (character, behind) =>
            (decodeFrom fuel behind).map (Utf16.encodeChar character ++ ·)
      else (decodeFrom fuel rest).map (unit :: ·)

def decodeUriComponent (units : List UInt16) : Option (List UInt16) :=
  decodeFrom units.length units

/-- Letters, digits and `-_.!~*'()`. -/
def isUriUnescaped (character : Char) : Bool :=
  character.isAlphanum || "-_.!~*'()".toList.contains character

/-- An octet as an escape. -/
def escapeOctet (octet : UInt8) : List Char := quoteByte (fun _ => false) octet

/-- One code point of `encodeURIComponent`. A lone surrogate is refused. -/
def encodeUriPoint : CodePoint → Option (List UInt16)
  | .lone _ => none
  | .scalar character =>
      some (if isUriUnescaped character then Utf16.encodeChar character
        else Utf16.encode ((String.utf8EncodeChar character).flatMap escapeOctet))

def encodeUriComponent (units : List UInt16) : Option (List UInt16) :=
  ((Utf16.decode units).mapM encodeUriPoint).map List.flatten

/-! ## Reading units and reading characters -/

theorem spells_utf16 (characters : List Char) :
    Spells (characters.map Char.toNat) ((Utf16.encode characters).map UInt16.toNat) := by
  induction characters with
  | nil => exact .nil
  | cons character rest inductionHypothesis =>
      have bounds := Utf16.char_bounds character
      rw [Utf16.encode_cons, List.map_cons, List.map_append]
      by_cases basic : character.toNat < 0x10000
      · rw [Utf16.encodeChar_basic basic, List.map_singleton, Utf16.toNat_ofNat basic]
        by_cases small : character.toNat < 128
        · exact .ascii small inductionHypothesis
        · exact .wide (Nat.not_lt.mp small) (Nat.not_lt.mp small) (List.forall_mem_nil _)
            inductionHypothesis
      · obtain ⟨first, second, shape, high, low, _⟩ := Utf16.encodeChar_pair basic
        rw [shape, List.map_cons, List.map_singleton]
        refine .wide (by omega) (Nat.le_trans (by decide) high.1) ?_ inductionHypothesis
        exact List.forall_mem_singleton.mpr (Nat.le_trans (by decide) low.1)

theorem escape?_utf16 (characters : List Char) :
    escape? UInt16.toNat (Utf16.encode characters) = escape? Char.toNat characters := by
  rw [escape?_map, escape?_map Char.toNat, (spells_utf16 characters).escape?]

/-- Behind an escape, the units of the characters behind it. -/
theorem drop_escape {percent high low : Char} {rest : List Char} (sign : percent.toNat = 37)
    (highSmall : high.toNat < 128) (lowSmall : low.toNat < 128) :
    (Utf16.encode (percent :: high :: low :: rest)).drop 3 = Utf16.encode rest := by
  rw [Utf16.encode_cons, Utf16.encode_cons, Utf16.encode_cons,
    Utf16.encodeChar_basic (by omega), Utf16.encodeChar_basic (by omega),
    Utf16.encodeChar_basic (by omega)]
  rfl

/-- The characters hold no malformed escape. -/
def Valid (characters : List Char) : Prop := hasInvalidPercent Char.toNat characters = false

/-- The bytes that a text spells with its escapes. -/
def spelled (characters : List Char) : List UInt8 := unquote (Utf8.encode characters)

theorem Valid.tail {character : Char} {rest : List Char} (valid : Valid (character :: rest)) :
    Valid rest := hasInvalidPercent_tail valid

/-- An escape of a text: three characters, one byte. -/
theorem escape_spells {characters : List Char} {octet : UInt8}
    (read : escape? UInt16.toNat (Utf16.encode characters) = some octet)
    (valid : Valid characters) :
    ∃ rest, (Utf16.encode characters).drop 3 = Utf16.encode rest ∧ Valid rest ∧
      spelled characters = octet :: spelled rest ∧ rest.length < characters.length := by
  rw [escape?_utf16] at read
  obtain ⟨percent, high, low, rest, rfl, sign, highSmall, lowSmall, spells⟩ := unquote_escape read
  refine ⟨rest, drop_escape sign highSmall lowSmall, valid.tail.tail.tail, spells, ?_⟩
  simp only [List.length_cons]
  omega

/-- What continuation octets are read, the text spells. -/
theorem continuationOctets_sound {count : Nat} {characters : List Char} {octets : List UInt8}
    {behind : List UInt16} (valid : Valid characters)
    (read : continuationOctets count (Utf16.encode characters) = some (octets, behind)) :
    ∃ rest, behind = Utf16.encode rest ∧ Valid rest ∧
      spelled characters = octets ++ spelled rest ∧ rest.length ≤ characters.length := by
  induction count generalizing characters octets behind with
  | zero =>
      cases read
      exact ⟨characters, rfl, valid, rfl, Nat.le_refl _⟩
  | succ count inductionHypothesis =>
      rw [continuationOctets] at read
      split at read
      · cases read
      · next octet escape =>
          obtain ⟨later, dropped, laterValid, spells, shorter⟩ := escape_spells escape valid
          rw [dropped, Option.map_eq_some_iff] at read
          obtain ⟨⟨others, after⟩, laterRead, same⟩ := read
          simp only [Prod.mk.injEq] at same
          obtain ⟨rfl, rfl⟩ := same
          obtain ⟨rest, behind, restValid, restSpells, notLonger⟩ :=
            inductionHypothesis laterValid laterRead
          refine ⟨rest, behind, restValid, ?_, by omega⟩
          rw [spells, restSpells, List.cons_append]

/-- What continuation bytes a text spells, are read as escapes: a raw character
starts with a lead byte. -/
theorem continuationOctets_complete {continuation tail : List UInt8} {characters : List Char}
    (valid : Valid characters) (continues : ∀ byte ∈ continuation, Utf8.leadingOnes byte = 1)
    (spells : spelled characters = continuation ++ tail) :
    ∃ rest, continuationOctets continuation.length (Utf16.encode characters) =
        some (continuation, Utf16.encode rest) ∧ Valid rest ∧ spelled rest = tail := by
  induction continuation generalizing characters with
  | nil => exact ⟨characters, rfl, valid, spells⟩
  | cons byte more inductionHypothesis =>
      rw [List.forall_mem_cons] at continues
      cases characters with
      | nil => cases spells
      | cons character others =>
          by_cases sign : character.toNat = 37
          · obtain ⟨octet, escape⟩ := escape?_of_valid valid sign
            rw [← escape?_utf16] at escape
            obtain ⟨later, dropped, laterValid, laterSpells, _⟩ := escape_spells escape valid
            rw [laterSpells, List.cons_append, List.cons.injEq] at spells
            obtain ⟨rest, read, restValid, restSpells⟩ :=
              inductionHypothesis laterValid continues.2 spells.2
            refine ⟨rest, ?_, restValid, restSpells⟩
            rw [List.length_cons, continuationOctets, escape]
            simp only
            rw [dropped, read, spells.1]
            rfl
          · exfalso
            obtain ⟨lead, block, shape, shaped⟩ := Utf8.encodeChar_shaped character
            rw [spelled, unquote_character sign, shape, List.cons_append, List.cons_append,
              List.cons.injEq] at spells
            apply shaped.leads
            rw [spells.1]
            exact continues.1

theorem sequence?_sound {characters : List Char} {character : Char} {behind : List UInt16}
    (valid : Valid characters)
    (read : sequence? (Utf16.encode characters) = some (character, behind)) :
    ∃ rest, behind = Utf16.encode rest ∧ Valid rest ∧
      spelled characters = String.utf8EncodeChar character ++ spelled rest ∧
      rest.length < characters.length := by
  rw [sequence?] at read
  split at read
  · cases read
  · next octet escape =>
      obtain ⟨later, dropped, laterValid, spells, shorter⟩ := escape_spells escape valid
      rw [dropped] at read
      split at read
      · cases read
      · split at read
        · cases read
        · next octets after continuation =>
            split at read
            · next other decoded =>
                cases read
                obtain ⟨rest, same, restValid, restSpells, notLonger⟩ :=
                  continuationOctets_sound laterValid continuation
                refine ⟨rest, same, restValid, ?_, by omega⟩
                have bytes := Utf8.decode_eq_some_iff.mp decoded
                rw [Utf8.encode_cons, Utf8.encode_nil, List.append_nil] at bytes
                rw [spells, restSpells, ← List.cons_append, bytes]
            · cases read

theorem sequence?_complete {first : Char} {characters : List Char} {character : Char}
    {tail : List UInt8} (valid : Valid (first :: characters)) (sign : first.toNat = 37)
    (spells : spelled (first :: characters) = String.utf8EncodeChar character ++ tail) :
    ∃ rest, sequence? (Utf16.encode (first :: characters)) =
        some (character, Utf16.encode rest) ∧ Valid rest ∧ spelled rest = tail := by
  obtain ⟨octet, escape⟩ := escape?_of_valid valid sign
  rw [← escape?_utf16] at escape
  obtain ⟨later, dropped, laterValid, laterSpells, _⟩ := escape_spells escape valid
  obtain ⟨lead, continuation, shape, shaped⟩ := Utf8.encodeChar_shaped character
  rw [laterSpells, shape, List.cons_append, List.cons.injEq] at spells
  obtain ⟨rfl, spells⟩ := spells
  obtain ⟨rest, read, restValid, restSpells⟩ :=
    continuationOctets_complete laterValid shaped.continues spells
  refine ⟨rest, ?_, restValid, restSpells⟩
  have bytes : octet :: continuation = Utf8.encode [character] := by
    rw [Utf8.encode_cons, shape, Utf8.encode_nil, List.append_nil]
  have bounded := shaped.bounded
  rw [sequence?, escape]
  simp only
  rw [if_neg (by have := shaped.leads; omega), dropped, ← shaped.announced, read]
  simp only
  rw [Utf8.decode_eq_some_iff.mpr bytes]

/-! ## Decoding -/

theorem continuationOctets_notLonger {count : Nat} {units : List UInt16} {octets : List UInt8}
    {behind : List UInt16} (read : continuationOctets count units = some (octets, behind)) :
    behind.length ≤ units.length := by
  induction count generalizing units octets with
  | zero =>
      cases read
      exact Nat.le_refl _
  | succ count inductionHypothesis =>
      rw [continuationOctets] at read
      split at read
      · cases read
      · rw [Option.map_eq_some_iff] at read
        obtain ⟨⟨others, after⟩, laterRead, same⟩ := read
        simp only [Prod.mk.injEq] at same
        obtain ⟨_, rfl⟩ := same
        have later := inductionHypothesis laterRead
        rw [List.length_drop] at later
        omega

theorem sequence?_shorter {units : List UInt16} {character : Char} {behind : List UInt16}
    (read : sequence? units = some (character, behind)) : behind.length < units.length := by
  rw [sequence?] at read
  split at read
  · cases read
  · next octet escape =>
      obtain ⟨percent, high, low, rest, rfl, _⟩ := escape?_some _ escape
      split at read
      · cases read
      · split at read
        · cases read
        · next octets after continuation =>
            split at read
            · cases read
              have notLonger := continuationOctets_notLonger continuation
              simp only [List.drop_succ_cons, List.drop_zero, List.length_cons] at notLonger ⊢
              omega
            · cases read

theorem decodeFrom_enough {fuel other : Nat} {units : List UInt16}
    (enough : units.length ≤ fuel) (otherEnough : units.length ≤ other) :
    decodeFrom fuel units = decodeFrom other units := by
  induction fuel generalizing other units with
  | zero =>
      rw [List.length_eq_zero_iff.mp (Nat.le_zero.mp enough)]
      cases other <;> rfl
  | succ fuel inductionHypothesis =>
      cases units with
      | nil => cases other <;> rfl
      | cons unit rest =>
          cases other with
          | zero => cases otherEnough
          | succ other =>
              rw [List.length_cons] at enough otherEnough
              rw [decodeFrom, decodeFrom]
              split
              · split
                · rfl
                · next character behind read =>
                    have shorter := sequence?_shorter read
                    rw [List.length_cons] at shorter
                    rw [@inductionHypothesis other behind (by omega) (by omega)]
              · rw [@inductionHypothesis other rest (by omega) (by omega)]

theorem decode_raw {unit : UInt16} (raw : unit.toNat ≠ 37) (rest : List UInt16) :
    decodeUriComponent (unit :: rest) = (decodeUriComponent rest).map (unit :: ·) := by
  rw [decodeUriComponent, List.length_cons, decodeFrom, if_neg raw]
  rfl

theorem decode_block {block : List UInt16} (raw : ∀ unit ∈ block, unit.toNat ≠ 37)
    (rest : List UInt16) :
    decodeUriComponent (block ++ rest) = (decodeUriComponent rest).map (block ++ ·) := by
  induction block with
  | nil => simp
  | cons unit block inductionHypothesis =>
      rw [List.forall_mem_cons] at raw
      rw [List.cons_append, decode_raw raw.1, inductionHypothesis raw.2, Option.map_map]
      rfl

theorem decode_sequence {unit : UInt16} {rest behind : List UInt16} {character : Char}
    (sign : unit.toNat = 37) (read : sequence? (unit :: rest) = some (character, behind)) :
    decodeUriComponent (unit :: rest) =
      (decodeUriComponent behind).map (Utf16.encodeChar character ++ ·) := by
  have shorter := sequence?_shorter read
  rw [List.length_cons] at shorter
  rw [decodeUriComponent, List.length_cons, decodeFrom, if_pos sign, read]
  simp only
  rw [@decodeFrom_enough rest.length behind.length behind (by omega) (Nat.le_refl _)]
  rfl

theorem decode_refused {unit : UInt16} {rest : List UInt16} (sign : unit.toNat = 37)
    (read : sequence? (unit :: rest) = none) : decodeUriComponent (unit :: rest) = none := by
  rw [decodeUriComponent, List.length_cons, decodeFrom, if_pos sign, read]

/-- The units of a character are percent signs only for the percent sign. -/
theorem encodeChar_raw {character : Char} (raw : character.toNat ≠ 37) :
    ∀ unit ∈ Utf16.encodeChar character, unit.toNat ≠ 37 := by
  by_cases basic : character.toNat < 0x10000
  · rw [Utf16.encodeChar_basic basic, List.forall_mem_singleton, Utf16.toNat_ofNat basic]
    exact raw
  · obtain ⟨first, second, shape, high, low, _⟩ := Utf16.encodeChar_pair basic
    obtain ⟨highLeast, _⟩ := high
    obtain ⟨lowLeast, _⟩ := low
    rw [shape, List.forall_mem_cons, List.forall_mem_singleton]
    exact ⟨by omega, by omega⟩

/-- The percent sign is one unit. -/
theorem encodeChar_percent {character : Char} (sign : character.toNat = 37) :
    Utf16.encodeChar character = [37] := by
  rw [Utf16.encodeChar_basic (by omega), sign]
  rfl

theorem decode_character {character : Char} (raw : character.toNat ≠ 37) (rest : List Char) :
    decodeUriComponent (Utf16.encode (character :: rest)) =
      (decodeUriComponent (Utf16.encode rest)).map (Utf16.encodeChar character ++ ·) := by
  rw [Utf16.encode_cons, decode_block (encodeChar_raw raw)]

/-- Decoding reads off what a text spells. -/
theorem decodeUriComponent_sound {characters : List Char} {decoded : List UInt16}
    (valid : Valid characters)
    (read : decodeUriComponent (Utf16.encode characters) = some decoded) :
    ∃ text, decoded = Utf16.encode text ∧ spelled characters = Utf8.encode text := by
  induction size : characters.length using Nat.strong_induction_on
    generalizing characters decoded with
  | h size inductionHypothesis =>
      subst size
      cases characters with
      | nil =>
          cases read
          exact ⟨[], rfl, rfl⟩
      | cons character rest =>
          by_cases sign : character.toNat = 37
          · rw [Utf16.encode_cons, encodeChar_percent sign, List.singleton_append] at read
            have whole : 37 :: Utf16.encode rest = Utf16.encode (character :: rest) := by
              rw [Utf16.encode_cons, encodeChar_percent sign, List.singleton_append]
            cases escape : sequence? (37 :: Utf16.encode rest) with
            | none =>
                rw [decode_refused rfl escape] at read
                cases read
            | some found =>
                obtain ⟨first, behind⟩ := found
                rw [decode_sequence rfl escape, Option.map_eq_some_iff] at read
                obtain ⟨others, laterRead, rfl⟩ := read
                rw [whole] at escape
                obtain ⟨later, rfl, laterValid, spells, shorter⟩ := sequence?_sound valid escape
                obtain ⟨text, rfl, laterSpells⟩ :=
                  inductionHypothesis later.length shorter laterValid laterRead rfl
                refine ⟨first :: text, rfl, ?_⟩
                rw [spells, laterSpells, Utf8.encode_cons]
          · rw [decode_character sign, Option.map_eq_some_iff] at read
            obtain ⟨others, laterRead, rfl⟩ := read
            obtain ⟨text, rfl, laterSpells⟩ :=
              inductionHypothesis rest.length (Nat.lt_succ_self _) valid.tail laterRead rfl
            refine ⟨character :: text, rfl, ?_⟩
            rw [spelled, unquote_character sign, Utf8.encode_cons, ← laterSpells]
            rfl

/-- A text that spells nothing is empty. -/
theorem spelled_eq_nil {characters : List Char} (valid : Valid characters)
    (spells : spelled characters = []) : characters = [] := by
  cases characters with
  | nil => rfl
  | cons character rest =>
      by_cases sign : character.toNat = 37
      · obtain ⟨octet, escape⟩ := escape?_of_valid valid sign
        rw [← escape?_utf16] at escape
        obtain ⟨later, _, _, laterSpells, _⟩ := escape_spells escape valid
        rw [laterSpells] at spells
        cases spells
      · rw [spelled, unquote_character sign, List.append_eq_nil_iff] at spells
        exact absurd spells.1 (Utf8.encodeChar_ne_nil character)

/-- What a text spells, decoding reads off. The induction is on the text spelled. -/
theorem decodeUriComponent_complete {text characters : List Char} (valid : Valid characters)
    (spells : spelled characters = Utf8.encode text) :
    decodeUriComponent (Utf16.encode characters) = some (Utf16.encode text) := by
  induction text generalizing characters with
  | nil =>
      rw [spelled_eq_nil valid spells]
      rfl
  | cons first text inductionHypothesis =>
      rw [Utf8.encode_cons] at spells
      cases characters with
      | nil => exact absurd (List.append_eq_nil_iff.mp spells.symm).1 (Utf8.encodeChar_ne_nil first)
      | cons character others =>
          by_cases sign : character.toNat = 37
          · obtain ⟨rest, read, restValid, restSpells⟩ := sequence?_complete valid sign spells
            rw [Utf16.encode_cons, encodeChar_percent sign, List.singleton_append] at read ⊢
            rw [decode_sequence rfl read, inductionHypothesis restValid restSpells]
            rfl
          · rw [spelled, unquote_character sign] at spells
            obtain ⟨rfl, restSpells⟩ := Utf8.encodeChar_append_inj spells
            rw [decode_character sign, inductionHypothesis valid.tail restSpells]
            rfl

/-- On the units of characters without malformed escapes, `decodeURIComponent` is
percent decoding of the UTF-8 bytes. -/
theorem decodeUriComponent_encode {characters : List Char} (valid : Valid characters) :
    decodeUriComponent (Utf16.encode characters) =
      (Utf8.decode (spelled characters)).map Utf16.encode := by
  cases read : decodeUriComponent (Utf16.encode characters) with
  | some decoded =>
      obtain ⟨text, rfl, spells⟩ := decodeUriComponent_sound valid read
      rw [Utf8.decode_eq_some_iff.mpr spells]
      rfl
  | none =>
      cases decoded : Utf8.decode (spelled characters) with
      | none => rfl
      | some text =>
          rw [decodeUriComponent_complete valid (Utf8.decode_eq_some_iff.mp decoded)] at read
          cases read

/-! ## Lone surrogates -/

/-- Units that some characters have. -/
def Paired (units : List UInt16) : Prop := ∃ characters, units = Utf16.encode characters

theorem Paired.character {units : List UInt16} (paired : Paired units) (character : Char) :
    Paired (Utf16.encodeChar character ++ units) := by
  obtain ⟨characters, rfl⟩ := paired
  exact ⟨character :: characters, rfl⟩

/-- An ASCII unit is a character of its own. -/
theorem Paired.ascii {units : List UInt16} (paired : Paired units) {unit : UInt16}
    (small : unit.toNat < 128) : Paired (unit :: units) := by
  have valid : unit.toNat.isValidChar := Or.inl (by omega)
  have single : Utf16.encodeChar (Char.ofNat unit.toNat) = [unit] := by
    rw [Utf16.encodeChar_basic (by rw [Utf16.charToNat_ofNat valid]; omega),
      Utf16.charToNat_ofNat valid, UInt16.ofNat_toNat]
  have whole := paired.character (Char.ofNat unit.toNat)
  rwa [single] at whole

/-- In front of an escape, three ASCII units. -/
theorem Paired.escape {units : List UInt16} {octet : UInt8}
    (read : escape? UInt16.toNat units = some octet) (paired : Paired (units.drop 3)) :
    Paired units := by
  obtain ⟨percent, high, low, rest, rfl, sign, highSmall, lowSmall⟩ := escape?_some _ read
  exact ((Paired.ascii paired lowSmall).ascii highSmall).ascii (by omega)

theorem Paired.continuation {count : Nat} {units : List UInt16} {octets : List UInt8}
    {behind : List UInt16} (paired : Paired behind)
    (read : continuationOctets count units = some (octets, behind)) : Paired units := by
  induction count generalizing units octets with
  | zero =>
      cases read
      exact paired
  | succ count inductionHypothesis =>
      rw [continuationOctets] at read
      split at read
      · cases read
      · next octet escape =>
          rw [Option.map_eq_some_iff] at read
          obtain ⟨⟨others, after⟩, laterRead, same⟩ := read
          simp only [Prod.mk.injEq] at same
          obtain ⟨_, rfl⟩ := same
          exact Paired.escape escape (inductionHypothesis laterRead)

theorem Paired.sequence {units behind : List UInt16} {character : Char} (paired : Paired behind)
    (read : sequence? units = some (character, behind)) : Paired units := by
  rw [sequence?] at read
  split at read
  · cases read
  · next octet escape =>
      split at read
      · cases read
      · split at read
        · cases read
        · next octets after continuation =>
            split at read
            · cases read
              exact Paired.escape escape (paired.continuation continuation)
            · cases read

/-- A low surrogate at the front of the result was there before decoding. -/
theorem decode_low {units rest : List UInt16} {low : UInt16} (isLow : Utf16.isLow low)
    (read : decodeUriComponent units = some (low :: rest)) :
    ∃ behind, units = low :: behind ∧ decodeUriComponent behind = some rest := by
  cases units with
  | nil => cases read
  | cons unit behind =>
      by_cases sign : unit.toNat = 37
      · exfalso
        cases escape : sequence? (unit :: behind) with
        | none =>
            rw [decode_refused sign escape] at read
            cases read
        | some found =>
            obtain ⟨character, later⟩ := found
            rw [decode_sequence sign escape, Option.map_eq_some_iff] at read
            obtain ⟨others, _, same⟩ := read
            have points := congrArg Utf16.decode same
            have notHigh : ¬Utf16.isHigh low := fun high => by
              obtain ⟨_, high⟩ := high
              obtain ⟨low, _⟩ := isLow
              omega
            rw [Utf16.decode_encodeChar_append, Utf16.decode_cons notHigh, List.cons.injEq] at points
            have surrogate := points.1
            rw [Utf16.ofUnit, dif_pos ⟨Nat.le_trans (by decide) isLow.1, isLow.2⟩] at surrogate
            cases surrogate
      · rw [decode_raw sign, Option.map_eq_some_iff] at read
        obtain ⟨others, laterRead, same⟩ := read
        rw [List.cons.injEq] at same
        obtain ⟨rfl, rfl⟩ := same
        exact ⟨behind, rfl, laterRead⟩

/-- Decoding never mends a lone surrogate. -/
theorem paired_of_decode {units : List UInt16} {text : List Char}
    (read : decodeUriComponent units = some (Utf16.encode text)) : Paired units := by
  induction size : units.length using Nat.strong_induction_on generalizing units text with
  | h size inductionHypothesis =>
      subst size
      cases units with
      | nil => exact ⟨[], rfl⟩
      | cons unit rest =>
          by_cases sign : unit.toNat = 37
          · cases escape : sequence? (unit :: rest) with
            | none =>
                rw [decode_refused sign escape] at read
                cases read
            | some found =>
                obtain ⟨character, behind⟩ := found
                rw [decode_sequence sign escape, Option.map_eq_some_iff] at read
                obtain ⟨others, laterRead, same⟩ := read
                cases text with
                | nil =>
                    exact absurd (List.append_eq_nil_iff.mp same).1
                      (Utf16.encodeChar_ne_nil character)
                | cons first text =>
                    obtain ⟨_, rfl⟩ := Utf16.encodeChar_append_inj same
                    exact (inductionHypothesis behind.length (sequence?_shorter escape) laterRead
                      rfl).sequence escape
          · rw [decode_raw sign, Option.map_eq_some_iff] at read
            obtain ⟨others, laterRead, same⟩ := read
            cases text with
            | nil => cases same
            | cons first text =>
                rw [Utf16.encode_cons] at same
                by_cases basic : first.toNat < 0x10000
                · rw [Utf16.encodeChar_basic basic, List.singleton_append, List.cons.injEq] at same
                  obtain ⟨rfl, rfl⟩ := same
                  have paired := inductionHypothesis rest.length (Nat.lt_succ_self _) laterRead rfl
                  have whole := paired.character first
                  rwa [Utf16.encodeChar_basic basic] at whole
                · obtain ⟨high, low, shape, _, isLow, _⟩ := Utf16.encodeChar_pair basic
                  rw [shape, List.cons_append, List.singleton_append, List.cons.injEq] at same
                  obtain ⟨rfl, rfl⟩ := same
                  obtain ⟨behind, rfl, behindRead⟩ := decode_low isLow laterRead
                  have paired := inductionHypothesis behind.length
                    (Nat.lt_succ_of_lt (Nat.lt_succ_self _)) behindRead rfl
                  have whole := paired.character first
                  rwa [shape] at whole

/-! ## Encoding -/

/-- The bytes that `encodeURIComponent` leaves alone. -/
def isUriSafe (byte : UInt8) : Bool := isUriUnescaped (Char.ofNat byte.toNat)

theorem small_of_isAlphanum {character : Char} (alphanumeric : character.isAlphanum = true) :
    character.toNat < 128 := by
  have small : ∀ {most : UInt32}, most.toNat < 128 → character.val ≤ most →
      character.toNat < 128 := fun ascii below =>
    Nat.lt_of_le_of_lt (UInt32.le_iff_toNat_le.mp below) ascii
  rcases Bool.or_eq_true_iff.mp alphanumeric with alpha | digit
  · rcases Bool.or_eq_true_iff.mp alpha with upper | lower
    · exact small (by decide) (of_decide_eq_true upper).2
    · exact small (by decide) (of_decide_eq_true (Bool.and_eq_true_iff.mp lower).2)
  · exact small (by decide) (of_decide_eq_true (Bool.and_eq_true_iff.mp digit).2)

theorem small_of_isUriUnescaped {character : Char} (unescaped : isUriUnescaped character = true) :
    character.toNat < 128 := by
  rw [isUriUnescaped, Bool.or_eq_true] at unescaped
  rcases unescaped with alphanumeric | listed
  · exact small_of_isAlphanum alphanumeric
  · rw [List.contains_iff_mem] at listed
    have small : "-_.!~*'()".toList.all (·.toNat < 128) = true := by decide
    exact of_decide_eq_true (List.all_eq_true.mp small character listed)

/-- A character of `encodeURIComponent` is a quotation of its bytes. -/
theorem encodeUriPoint_scalar (character : Char) :
    encodeUriPoint (.scalar character) =
      some (Utf16.encode (quote isUriSafe (String.utf8EncodeChar character))) := by
  rw [encodeUriPoint, Option.some.injEq]
  by_cases small : character.toNat < 128
  · have value : (UInt8.ofNat character.toNat).toNat = character.toNat :=
      UInt8.toNat_ofNat_of_lt' (Nat.lt_trans small (by decide))
    rw [Utf8.encodeChar_ascii small, quote, List.flatMap_singleton, List.flatMap_singleton,
      quoteByte, isUriSafe, value, Char.ofNat_toNat]
    split
    · rw [Utf16.encode_cons, Utf16.encode_nil, List.append_nil]
    · rw [escapeOctet, quoteByte, value]
      rfl
  · have escaped : ¬isUriUnescaped character = true := fun unescaped =>
      small (small_of_isUriUnescaped unescaped)
    have large := Utf8.encodeChar_large (Nat.not_lt.mp small)
    rw [if_neg escaped, quote]
    congr 1
    apply List.flatMap_congr
    intro byte member
    have unsafe_ : ¬isUriSafe byte = true := by
      intro safe
      have bound := small_of_isUriUnescaped safe
      rw [toNat_ofByte] at bound
      have := large byte member
      omega
    rw [escapeOctet, quoteByte, quoteByte, if_neg unsafe_]
    rfl

theorem quote_append (safe : UInt8 → Bool) (left right : List UInt8) :
    quote safe (left ++ right) = quote safe left ++ quote safe right := List.flatMap_append

theorem encodeUriPoints (characters : List Char) :
    ((Text.ofChars characters).mapM encodeUriPoint).map List.flatten =
      some (Utf16.encode (quote isUriSafe (Utf8.encode characters))) := by
  induction characters with
  | nil => rfl
  | cons character rest inductionHypothesis =>
      obtain ⟨parts, mapped, joined⟩ := Option.map_eq_some_iff.mp inductionHypothesis
      rw [Text.ofChars, List.map_cons, List.mapM_cons, encodeUriPoint_scalar]
      simp only [Option.bind_eq_bind, Option.bind_some]
      rw [← Text.ofChars, mapped, Option.bind_some, Option.pure_def, Option.map_some,
        List.flatten_cons, joined, Utf8.encode_cons, quote_append, Utf16.encode_append]

/-- On the units of characters, `encodeURIComponent` is a quotation of the UTF-8
bytes. -/
theorem encodeUriComponent_encode (characters : List Char) :
    encodeUriComponent (Utf16.encode characters) =
      some (Utf16.encode (quote isUriSafe (Utf8.encode characters))) := by
  rw [encodeUriComponent, Utf16.decode_encode, encodeUriPoints]

theorem chars_of_encodeUriPoints {text : Text} {encoded : List (List UInt16)}
    (mapped : text.mapM encodeUriPoint = some encoded) :
    ∃ characters, text = Text.ofChars characters := by
  induction text generalizing encoded with
  | nil => exact ⟨[], rfl⟩
  | cons point rest inductionHypothesis =>
      rw [List.mapM_cons, Option.bind_eq_bind, Option.bind_eq_some_iff] at mapped
      obtain ⟨first, firstMapped, others⟩ := mapped
      rw [Option.bind_eq_bind, Option.bind_eq_some_iff] at others
      obtain ⟨later, laterMapped, _⟩ := others
      obtain ⟨characters, rfl⟩ := inductionHypothesis laterMapped
      cases point with
      | lone surrogate => cases firstMapped
      | scalar character => exact ⟨character :: characters, rfl⟩

/-- `encodeURIComponent` accepts only units of characters. -/
theorem paired_of_encode {units encoded : List UInt16}
    (read : encodeUriComponent units = some encoded) : Paired units := by
  obtain ⟨parts, mapped, _⟩ := Option.map_eq_some_iff.mp read
  obtain ⟨characters, same⟩ := chars_of_encodeUriPoints mapped
  refine ⟨characters, ?_⟩
  apply Utf16.eq_encode_of_chars
  exact Text.chars?_eq_some_iff.mpr same

end Zangpu.Foundation.UriComponents
