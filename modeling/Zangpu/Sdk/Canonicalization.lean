import Mathlib.Data.List.TakeWhile
import Zangpu.Security.Canonical.Meaning
import Zangpu.Sdk.Python.Signing
import Zangpu.Sdk.JavaScript.Signing

/-!
Canonicalization on both sides.

Owns: the agreement of the clients' canonical path and query with the server's, for
every sequence of code units.

Does not own: the two sides themselves.
-/

set_option autoImplicit false

namespace Zangpu.Sdk

open Zangpu.Foundation
open Zangpu.Foundation.PercentEncoding
open Zangpu.Foundation.UriComponents
open Zangpu.Security.Canonical

universe u v w

/-! ## Code units and code points -/

section Units

variable {character : Char}

/-- The code of an ASCII character is no surrogate. -/
theorem toNat_unit (small : character.toNat < 128) :
    (JavaScript.unit character).toNat = character.toNat :=
  Utf16.toNat_ofNat (Nat.lt_trans small (by decide))

theorem ofUnit_unit (small : character.toNat < 128) :
    Utf16.ofUnit (JavaScript.unit character) = letter character :=
  Utf16.ofUnit_basic (Nat.lt_trans small (by decide))

theorem encodeChar_small (small : character.toNat < 128) :
    Utf16.encodeChar character = [JavaScript.unit character] :=
  Utf16.encodeChar_basic (Nat.lt_trans small (by decide))

theorem decode_append_unit (small : character.toNat < 128) (left right : List UInt16) :
    Utf16.decode (left ++ JavaScript.unit character :: right) =
      Utf16.decode left ++ letter character :: Utf16.decode right := by
  have code := toNat_unit small
  rw [Utf16.decode_append_cons, ofUnit_unit small]
  · rw [Utf16.isHigh, code]
    omega
  · rw [Utf16.isLow, code]
    omega

theorem mem_decode_iff (small : character.toNat < 128) {units : List UInt16} :
    letter character ∈ Utf16.decode units ↔ JavaScript.unit character ∈ units := by
  constructor
  · intro member
    have inside : JavaScript.unit character ∈ (Utf16.decode units).flatMap Utf16.encodePoint := by
      refine List.mem_flatMap.mpr ⟨letter character, member, ?_⟩
      rw [letter, Utf16.encodePoint, encodeChar_small small]
      exact List.mem_singleton_self _
    rwa [Utf16.flatMap_decode] at inside
  · intro member
    obtain ⟨left, right, rfl, _⟩ := List.eq_append_cons_of_mem member
    rw [decode_append_unit small]
    exact List.mem_append_right _ List.mem_cons_self

theorem decode_eq_nil_iff {units : List UInt16} : Utf16.decode units = [] ↔ units = [] := by
  constructor
  · intro empty
    rw [← Utf16.flatMap_decode units, empty]
    rfl
  · rintro rfl
    rfl

/-- Both sides cut a text at the same places. -/
theorem decode_splitOn (small : character.toNat < 128) (units : List UInt16) :
    (Utf16.decode units).splitOn (letter character) =
      (units.splitOn (JavaScript.unit character)).map Utf16.decode := by
  induction size : units.length using Nat.strong_induction_on generalizing units with
  | h size inductionHypothesis =>
      subst size
      by_cases member : JavaScript.unit character ∈ units
      · obtain ⟨left, right, rfl, absent⟩ := List.eq_append_cons_of_mem member
        have absentPoint := mt (mem_decode_iff small).mp absent
        have shorter : right.length < (left ++ JavaScript.unit character :: right).length := by
          rw [List.length_append, List.length_cons]
          omega
        rw [decode_append_unit small, List.splitOn_append_cons_self_of_not_mem absentPoint,
          List.splitOn_append_cons_self_of_not_mem absent, List.map_cons,
          inductionHypothesis right.length shorter right rfl]
      · rw [List.splitOn_eq_singleton (mt (mem_decode_iff small).mp member),
          List.splitOn_eq_singleton member]
        rfl

theorem head?_decode (small : character.toNat < 128) (units : List UInt16) :
    (Utf16.decode units).head? = some (letter character) ↔
      units.head? = some (JavaScript.unit character) := by
  constructor
  · intro starts
    obtain ⟨rest, shape⟩ := List.head?_eq_some_iff.mp starts
    have whole := Utf16.flatMap_decode units
    rw [shape, List.flatMap_cons, letter, Utf16.encodePoint, encodeChar_small small,
      List.singleton_append] at whole
    rw [← whole]
    rfl
  · intro starts
    obtain ⟨rest, rfl⟩ := List.head?_eq_some_iff.mp starts
    have whole := decode_append_unit small [] rest
    rw [List.nil_append] at whole
    rw [whole]
    rfl

end Units

/-- Cutting at the first separator, where there is one and where there is none. -/
theorem cut_of_mem {α : Type u} [DecidableEq α] {separator : α} {left right : List α}
    (absent : separator ∉ left) :
    (left ++ separator :: right).takeWhile (· ≠ separator) = left ∧
      ((left ++ separator :: right).dropWhile (· ≠ separator)).drop 1 = right := by
  induction left with
  | nil => simp
  | cons head tail inductionHypothesis =>
      rw [List.mem_cons, not_or] at absent
      obtain ⟨taken, dropped⟩ := inductionHypothesis absent.2
      have different : head ≠ separator := fun same => absent.1 same.symm
      rw [List.cons_append, List.takeWhile_cons_of_pos (by simpa using different), taken,
        List.dropWhile_cons_of_pos (by simpa using different)]
      exact ⟨rfl, dropped⟩

theorem cut_of_not_mem {α : Type u} [DecidableEq α] {separator : α} {text : List α}
    (absent : separator ∉ text) :
    text.takeWhile (· ≠ separator) = text ∧ (text.dropWhile (· ≠ separator)).drop 1 = [] := by
  have all : ∀ letter ∈ text, decide (letter ≠ separator) = true := by
    intro letter member
    exact decide_eq_true fun same => absent (same ▸ member)
  rw [List.dropWhile_eq_nil_iff.mpr all]
  exact ⟨List.takeWhile_eq_self_iff.mpr all, rfl⟩

theorem equals_small : '='.toNat < 128 := by decide

/-- Both sides split a pair at the same place. -/
theorem partition_decode (rawPair : List UInt16) :
    partition (Utf16.decode rawPair) =
      (Utf16.decode (JavaScript.cut rawPair).1, Utf16.decode (JavaScript.cut rawPair).2) := by
  unfold partition JavaScript.cut
  by_cases member : JavaScript.unit '=' ∈ rawPair
  · obtain ⟨left, right, rfl, absent⟩ := List.eq_append_cons_of_mem member
    obtain ⟨taken, dropped⟩ := @cut_of_mem _ _ _ left right absent
    obtain ⟨takenPoint, droppedPoint⟩ := @cut_of_mem _ _ _ (Utf16.decode left)
      (Utf16.decode right) (mt (mem_decode_iff equals_small).mp absent)
    rw [decode_append_unit equals_small, taken, dropped, takenPoint, droppedPoint]
  · obtain ⟨taken, dropped⟩ := cut_of_not_mem member
    obtain ⟨takenPoint, droppedPoint⟩ := cut_of_not_mem
      (mt (mem_decode_iff equals_small).mp member)
    rw [taken, dropped, takenPoint, droppedPoint]
    rfl

/-! ## Components -/

theorem spells_points (text : Text) :
    Spells (text.map CodePoint.code) ((text.flatMap Utf16.encodePoint).map UInt16.toNat) := by
  induction text with
  | nil => exact .nil
  | cons point rest inductionHypothesis =>
      rw [List.flatMap_cons, List.map_cons, List.map_append]
      cases point with
      | lone surrogate =>
          have least := surrogate.surrogate.1
          exact .wide (Nat.le_trans (by decide) least) (Nat.le_trans (by decide) least)
            (List.forall_mem_nil _) inductionHypothesis
      | scalar character =>
          have one := spells_utf16 [character]
          rw [Utf16.encode_cons, Utf16.encode_nil, List.append_nil] at one
          exact one.append inductionHypothesis

theorem hasInvalidPercent_decode (units : List UInt16) :
    hasInvalidPercent CodePoint.code (Utf16.decode units) =
      hasInvalidPercent UInt16.toNat units := by
  have spells := spells_points (Utf16.decode units)
  rw [Utf16.flatMap_decode] at spells
  rw [hasInvalidPercent_map, hasInvalidPercent_map UInt16.toNat, spells.hasInvalidPercent]

/-- What holds of every code beyond ASCII holds of both spellings or of neither. -/
theorem forall_spells {first second : List Nat} (spells : Spells first second)
    {property : Nat → Prop} (large : ∀ code, 128 ≤ code → property code) :
    (∀ code ∈ second, property code) ↔ ∀ code ∈ first, property code := by
  induction spells with
  | nil => exact Iff.rfl
  | ascii small rest inductionHypothesis =>
      rw [List.forall_mem_cons, List.forall_mem_cons, inductionHypothesis]
  | wide large_ leadLarge blockLarge rest inductionHypothesis =>
      rw [List.forall_mem_cons, List.forall_mem_cons, List.forall_mem_append, inductionHypothesis]
      have block := fun other member => large other (blockLarge other member)
      exact ⟨fun all => ⟨large _ large_, all.2.2⟩, fun all => ⟨large _ leadLarge, block, all.2⟩⟩

theorem controls_encode (decoded : List Char) :
    (Utf16.encode decoded).any JavaScript.isControl = false ↔
      decoded.any isControl = false := by
  have codes := @forall_spells _ _ (spells_utf16 decoded)
    (fun code => (decide (code < 32) || decide (code = 127)) = false)
    (fun code large => by
      rw [Bool.or_eq_false_iff, decide_eq_false_iff_not, decide_eq_false_iff_not]
      omega)
  rw [List.forall_mem_map, List.forall_mem_map] at codes
  simp only [List.any_eq_false, Bool.not_eq_true]
  exact codes

theorem backslash_encode (decoded : List Char) :
    JavaScript.unit '\\' ∉ Utf16.encode decoded ↔ '\\' ∉ decoded := by
  have texts := @mem_decode_iff '\\' (by decide) (Utf16.encode decoded)
  rw [Utf16.decode_encode, Text.ofChars, letter,
    List.mem_map_of_injective fun _ _ same => CodePoint.scalar.inj same] at texts
  exact not_congr texts.symm

theorem unquoteText_ofChars (characters : List Char) :
    unquoteText (Text.ofChars characters) = Utf8.decode (spelled characters) := by
  rw [unquoteText, Text.chars?_eq_some_iff.mpr rfl]
  rfl

section Components

variable {ε : Type u} {refuse : String → ε}

/-- On the units of characters both sides decode alike. -/
theorem decodeComponent_encode {characters : List Char} {rejectDoubleEncoding : Bool}
    {decoded : List UInt16} :
    JavaScript.decodeComponent (Utf16.encode characters) rejectDoubleEncoding = .ok decoded ↔
      ∃ text, decodeComponent refuse (Text.ofChars characters) rejectDoubleEncoding = .ok text ∧
        decoded = Utf16.encode text := by
  have invalid := hasInvalidPercent_decode (Utf16.encode characters)
  rw [Utf16.decode_encode] at invalid
  simp only [JavaScript.decodeComponent, decodeComponent, bind_ok_iff, require_ok_iff,
    exists_const, invalid, unquoteText_ofChars]
  by_cases valid : hasInvalidPercent UInt16.toNat (Utf16.encode characters) = false
  · have validChars : Valid characters := by
      rw [Valid, hasInvalidPercent_map, (spells_utf16 characters).hasInvalidPercent,
        ← hasInvalidPercent_map]
      exact valid
    rw [decodeUriComponent_encode validChars]
    cases read : Utf8.decode (spelled characters) with
    | none =>
        constructor
        · rintro ⟨_, impossible⟩
          cases impossible
        · rintro ⟨_, ⟨_, impossible⟩, _⟩
          cases impossible
    | some text =>
        have escapes : hasPercentEscape UInt16.toNat (Utf16.encode text) =
            hasPercentEscape Char.toNat text := by
          rw [hasPercentEscape_map, hasPercentEscape_map Char.toNat,
            (spells_utf16 text).hasPercentEscape]
        simp only [Option.map_some, bind_ok_iff, require_ok_iff, exists_const, controls_encode,
          escapes, pure, Except.pure, Except.ok.injEq]
        constructor
        · rintro ⟨_, controls, double, rfl⟩
          exact ⟨text, ⟨valid, controls, double, rfl⟩, rfl⟩
        · rintro ⟨_, ⟨_, controls, double, rfl⟩, rfl⟩
          exact ⟨valid, controls, double, rfl⟩
  · constructor
    · rintro ⟨isValid, _⟩
      exact absurd isValid valid
    · rintro ⟨_, ⟨isValid, _⟩, _⟩
      exact absurd isValid valid

theorem replaceReserved_byte : ∀ code < 256,
    (Utf16.encode (quoteByte isUriSafe (UInt8.ofNat code))).flatMap JavaScript.replaceReserved =
      Utf16.encode (quoteByte isUnreserved (UInt8.ofNat code)) := by
  decide +kernel

theorem replaceReserved_quote (bytes : List UInt8) :
    (Utf16.encode (quote isUriSafe bytes)).flatMap JavaScript.replaceReserved =
      Utf16.encode (quote isUnreserved bytes) := by
  induction bytes with
  | nil => rfl
  | cons byte rest inductionHypothesis =>
      have one := replaceReserved_byte byte.toNat byte.toNat_lt
      rw [UInt8.ofNat_toNat] at one
      rw [quote_cons, quote_cons, Utf16.encode_append, Utf16.encode_append, List.flatMap_append,
        inductionHypothesis, one]

/-- On the units of characters both sides encode alike. -/
theorem rfc3986Encode_encode (value : List Char) :
    JavaScript.rfc3986Encode (Utf16.encode value) = .ok (Utf16.encode (rfc3986Encode value)) := by
  rw [JavaScript.rfc3986Encode, encodeUriComponent_encode]
  exact congrArg Except.ok (replaceReserved_quote _)

theorem paired_of_rfc3986Encode {units encoded : List UInt16}
    (accepted : JavaScript.rfc3986Encode units = .ok encoded) : Paired units := by
  rw [JavaScript.rfc3986Encode] at accepted
  split at accepted
  · cases accepted
  · next read => exact paired_of_encode read

theorem decode_of_decodeComponent {units decoded : List UInt16} {rejectDoubleEncoding : Bool}
    (accepted : JavaScript.decodeComponent units rejectDoubleEncoding = .ok decoded) :
    decodeUriComponent units = some decoded := by
  simp only [JavaScript.decodeComponent, bind_ok_iff] at accepted
  obtain ⟨_, _, accepted⟩ := accepted
  split at accepted
  · cases accepted
  · next read =>
      simp only [bind_ok_iff, pure, Except.pure, Except.ok.injEq] at accepted
      obtain ⟨_, _, _, _, rfl⟩ := accepted
      exact read

/-- A component that both sides decode, check and encode. A lone surrogate stops the
server when it decodes and the client when it encodes. -/
theorem component_agrees {raw encoded : List UInt16} {rejectDoubleEncoding : Bool}
    {check : List UInt16 → Prop} {serverCheck : List Char → Prop}
    (same : ∀ text, check (Utf16.encode text) ↔ serverCheck text) :
    (∃ units, JavaScript.decodeComponent raw rejectDoubleEncoding = .ok units ∧ check units ∧
        JavaScript.rfc3986Encode units = .ok encoded) ↔
      ∃ text, decodeComponent refuse (Utf16.decode raw) rejectDoubleEncoding = .ok text ∧
        serverCheck text ∧ encoded = Utf16.encode (rfc3986Encode text) := by
  constructor
  · rintro ⟨units, decoded, checked, encodes⟩
    obtain ⟨text, rfl⟩ := paired_of_rfc3986Encode encodes
    obtain ⟨characters, rfl⟩ := paired_of_decode (decode_of_decodeComponent decoded)
    obtain ⟨other, accepted, equal⟩ := (@decodeComponent_encode _ refuse _ _ _).mp decoded
    have sameText := Utf16.encode_injective equal
    subst sameText
    rw [rfc3986Encode_encode, Except.ok.injEq] at encodes
    rw [Utf16.decode_encode]
    exact ⟨text, accepted, (same text).mp checked, encodes.symm⟩
  · rintro ⟨text, accepted, checked, rfl⟩
    have read := decodeComponent_ok accepted
    rw [unquoteText, Option.bind_eq_bind, Option.bind_eq_some_iff] at read
    obtain ⟨characters, chars, _⟩ := read
    have rawUnits := Utf16.eq_encode_of_chars chars
    subst rawUnits
    rw [Utf16.decode_encode] at accepted
    exact ⟨_, decodeComponent_encode.mpr ⟨text, accepted, rfl⟩, (same text).mpr checked,
      rfc3986Encode_encode text⟩

end Components

/-! ## Lists of components -/

/-- Two checks that agree on each item agree on lists of items. -/
theorem mapM_agrees {ε : Type u} {δ : Type v} {α β : Type} {raws : List (List UInt16)}
    {client : List UInt16 → Except ε α} {server : Text → Except δ β} {spell : β → α}
    (same : ∀ raw out, client raw = .ok out ↔
      ∃ value, server (Utf16.decode raw) = .ok value ∧ out = spell value) (outs : List α) :
    raws.mapM client = .ok outs ↔
      ∃ values, (raws.map Utf16.decode).mapM server = .ok values ∧ outs = values.map spell := by
  induction raws generalizing outs with
  | nil =>
      constructor
      · intro done
        cases done
        exact ⟨[], rfl, rfl⟩
      · rintro ⟨values, done, rfl⟩
        cases done
        rfl
  | cons raw rest inductionHypothesis =>
      simp only [List.map_cons, List.mapM_cons, bind_ok_iff, pure, Except.pure, Except.ok.injEq,
        same, inductionHypothesis]
      constructor
      · rintro ⟨_, ⟨value, accepted, rfl⟩, _, ⟨values, others, rfl⟩, rfl⟩
        exact ⟨value :: values, ⟨value, accepted, values, others, rfl⟩, rfl⟩
      · rintro ⟨_, ⟨value, accepted, values, others, rfl⟩, rfl⟩
        exact ⟨spell value, ⟨value, accepted, rfl⟩, values.map spell, ⟨values, others, rfl⟩, rfl⟩

theorem encode_intercalate {separator : Char} (small : separator.toNat < 128)
    (parts : List (List Char)) :
    Utf16.encode ([separator].intercalate parts) =
      [JavaScript.unit separator].intercalate (parts.map Utf16.encode) := by
  induction parts with
  | nil => rfl
  | cons part rest inductionHypothesis =>
      cases rest with
      | nil => rw [List.map_singleton, List.intercalate_singleton, List.intercalate_singleton]
      | cons next rest =>
          rw [List.intercalate_cons_of_ne_nil (List.cons_ne_nil _ _), Utf16.encode_append,
            Utf16.encode_append, inductionHypothesis, List.map_cons, List.map_cons, List.map_cons,
            List.intercalate_cons_of_ne_nil (List.cons_ne_nil _ _), Utf16.encode_cons,
            encodeChar_small small]
          rfl

section Path

variable {ε : Type u} {refuse : String → ε}

theorem canonicalSegment_agrees (raw out : List UInt16) :
    JavaScript.canonicalSegment raw = .ok out ↔
      ∃ encoded, canonicalSegment refuse (Utf16.decode raw) = .ok encoded ∧
        out = Utf16.encode encoded := by
  have same : ∀ text : List Char,
      (Utf16.encode text ≠ Utf16.encode ['.'] ∧ Utf16.encode text ≠ Utf16.encode ['.', '.'] ∧
        JavaScript.unit '\\' ∉ Utf16.encode text) ↔
      (text ≠ ['.'] ∧ text ≠ ['.', '.'] ∧ '\\' ∉ text) := by
    intro text
    have injective : Function.Injective Utf16.encode := fun _ _ => Utf16.encode_injective
    rw [injective.ne_iff, injective.ne_iff, backslash_encode]
  have component := @component_agrees _ refuse raw out true
    (fun units => units ≠ Utf16.encode ['.'] ∧ units ≠ Utf16.encode ['.', '.'] ∧
      JavaScript.unit '\\' ∉ units)
    (fun text => text ≠ ['.'] ∧ text ≠ ['.', '.'] ∧ '\\' ∉ text) same
  simp only [JavaScript.canonicalSegment, canonicalSegment, bind_ok_iff, require_ok_iff,
    exists_const, pure, Except.pure, Except.ok.injEq]
  rw [component]
  constructor
  · rintro ⟨text, accepted, checked, rfl⟩
    exact ⟨_, ⟨text, accepted, checked, rfl⟩, rfl⟩
  · rintro ⟨_, ⟨text, accepted, checked, rfl⟩, rfl⟩
    exact ⟨text, accepted, checked, rfl⟩

theorem slash_small : '/'.toNat < 128 := by decide

theorem canonicalizePath_agrees (rawPath out : List UInt16) :
    JavaScript.canonicalizePath rawPath = .ok out ↔
      ∃ path, canonicalizePathWith refuse (Utf16.decode rawPath) = .ok path ∧
        out = Utf16.encode path := by
  simp only [JavaScript.canonicalizePath, canonicalizePathWith, bind_ok_iff, require_ok_iff,
    exists_const, pure, Except.pure, Except.ok.injEq, head?_decode slash_small,
    @mem_decode_iff '?' (by decide), @mem_decode_iff '#' (by decide), decode_splitOn slash_small,
    mapM_agrees (@canonicalSegment_agrees _ refuse)]
  constructor
  · rintro ⟨absolute, _, ⟨segments, accepted, rfl⟩, rfl⟩
    exact ⟨_, ⟨absolute, segments, accepted, rfl⟩, (encode_intercalate slash_small _).symm⟩
  · rintro ⟨_, ⟨absolute, segments, accepted, rfl⟩, rfl⟩
    exact ⟨absolute, _, ⟨segments, accepted, rfl⟩, (encode_intercalate slash_small _).symm⟩

end Path

/-! ## The order of pairs -/

/-- A text of ASCII characters. -/
def Plain (text : List Char) : Prop := ∀ character ∈ text, character.toNat < 128

theorem small_of_hexDigit : ∀ character ∈ "0123456789ABCDEF".toList, character.toNat < 128 := by
  have all : "0123456789ABCDEF".toList.all (·.toNat < 128) = true := by decide
  exact fun character member => of_decide_eq_true (List.all_eq_true.mp all character member)

theorem small_of_isUnreserved : ∀ code < 256, isUnreserved (UInt8.ofNat code) = true →
    code < 128 := by
  decide +kernel

theorem plain_rfc3986Encode (value : List Char) : Plain (rfc3986Encode value) := by
  intro character member
  rcases mem_quote member with rfl | digit | ⟨byte, unreserved, rfl⟩
  · decide
  · exact small_of_hexDigit character digit
  · rw [toNat_ofByte]
    apply small_of_isUnreserved byte.toNat byte.toNat_lt
    rwa [UInt8.ofNat_toNat]

theorem encode_plain {text : List Char} (plain : Plain text) :
    (Utf16.encode text).map UInt16.toNat = text.map Char.toNat := by
  induction text with
  | nil => rfl
  | cons character rest inductionHypothesis =>
      rw [Plain, List.forall_mem_cons] at plain
      rw [Utf16.encode_cons, encodeChar_small plain.1, List.map_append, List.map_singleton,
        toNat_unit plain.1, inductionHypothesis plain.2]
      rfl

theorem map_toNat_lt_iff (left right : List Char) :
    left.map Char.toNat < right.map Char.toNat ↔ left < right := by
  induction left generalizing right with
  | nil => cases right <;> simp
  | cons character rest inductionHypothesis =>
      cases right with
      | nil => simp
      | cons other others =>
          rw [List.map_cons, List.map_cons, List.cons_lt_cons_iff, List.cons_lt_cons_iff,
            inductionHypothesis, Char.toNat_inj]
          exact Iff.rfl

theorem stringLt_encode {left right : List Char} (leftPlain : Plain left)
    (rightPlain : Plain right) :
    JavaScript.stringLt (Utf16.encode left) (Utf16.encode right) ↔ left < right := by
  rw [JavaScript.stringLt, encode_plain leftPlain, encode_plain rightPlain, map_toNat_lt_iff]

/-- Both halves of a pair as units. -/
def encodeHalves (pair : List Char × List Char) : List UInt16 × List UInt16 :=
  (Utf16.encode pair.1, Utf16.encode pair.2)

/-- The comparison function of the client orders plain pairs as tuples. -/
theorem comparePairs_encode {left right : List Char × List Char}
    (leftPlain : Plain left.1 ∧ Plain left.2) (rightPlain : Plain right.1 ∧ Plain right.2) :
    pairLe left right ↔
      JavaScript.comparePairs (encodeHalves left) (encodeHalves right) ≤ 0 := by
  have injective : Function.Injective Utf16.encode := fun _ _ => Utf16.encode_injective
  have keys := stringLt_encode leftPlain.1 rightPlain.1
  have values := stringLt_encode leftPlain.2 rightPlain.2
  unfold JavaScript.comparePairs encodeHalves pairLe
  simp only [injective.ne_iff, injective.eq_iff, keys, values, Prod.Lex.toLex_le_toLex]
  by_cases sameKey : left.1 = right.1
  · rw [if_neg (not_not.mpr sameKey)]
    by_cases sameValue : left.2 = right.2
    · simp [sameKey, sameValue]
    · rw [if_neg sameValue]
      by_cases less : left.2 < right.2
      · simp [sameKey, less, le_of_lt less]
      · have more := not_le.mpr (lt_of_le_of_ne (not_lt.mp less) fun same => sameValue same.symm)
        simp [sameKey, less, more]
  · rw [if_pos sameKey]
    by_cases less : left.1 < right.1
    · simp [less]
    · simp [less, sameKey]

/-! ## The query -/

section Query

variable {ε : Type u} {refuse : String → ε}

theorem canonicalPair_agrees (raw : List UInt16) (out : List UInt16 × List UInt16) :
    JavaScript.canonicalPair raw = .ok out ↔
      ∃ pair, canonicalPair refuse (Utf16.decode raw) = .ok pair ∧ out = encodeHalves pair := by
  have component : ∀ part encoded : List UInt16,
      (∃ units, JavaScript.decodeComponent part false = .ok units ∧
        JavaScript.rfc3986Encode units = .ok encoded) ↔
      ∃ text, decodeComponent refuse (Utf16.decode part) false = .ok text ∧
        encoded = Utf16.encode (rfc3986Encode text) := by
    intro part encoded
    have checked := @component_agrees _ refuse part encoded false (fun _ => True) (fun _ => True)
      fun _ => Iff.rfl
    simpa only [true_and] using checked
  have key := component (JavaScript.cut raw).1
  have value := component (JavaScript.cut raw).2
  simp only [JavaScript.canonicalPair, canonicalPair, partition_decode, bind_ok_iff, pure,
    Except.pure, Except.ok.injEq]
  constructor
  · rintro ⟨keyUnits, keyOk, encodedKey, keyEncodes, valueUnits, valueOk, encodedValue,
      valueEncodes, rfl⟩
    obtain ⟨keyText, keyAccepted, rfl⟩ := (key encodedKey).mp ⟨keyUnits, keyOk, keyEncodes⟩
    obtain ⟨valueText, valueAccepted, rfl⟩ :=
      (value encodedValue).mp ⟨valueUnits, valueOk, valueEncodes⟩
    exact ⟨_, ⟨keyText, keyAccepted, valueText, valueAccepted, rfl⟩, rfl⟩
  · rintro ⟨_, ⟨keyText, keyAccepted, valueText, valueAccepted, rfl⟩, rfl⟩
    obtain ⟨keyUnits, keyOk, keyEncodes⟩ := (key _).mpr ⟨keyText, keyAccepted, rfl⟩
    obtain ⟨valueUnits, valueOk, valueEncodes⟩ := (value _).mpr ⟨valueText, valueAccepted, rfl⟩
    exact ⟨keyUnits, keyOk, _, keyEncodes, valueUnits, valueOk, _, valueEncodes, rfl⟩

theorem ampersand_small : '&'.toNat < 128 := by decide

/-- A sorted query as units. -/
theorem encode_queryText (pairs : List (List Char × List Char)) :
    Utf16.encode (queryText pairs) =
      [JavaScript.unit '&'].intercalate
        ((((pairs.map encodePair).map encodeHalves).insertionSort
          fun left right => JavaScript.comparePairs left right ≤ 0).map
            fun pair => pair.1 ++ JavaScript.unit '=' :: pair.2) := by
  have plain : ∀ pair ∈ pairs.map encodePair, Plain pair.1 ∧ Plain pair.2 := by
    intro pair member
    obtain ⟨origin, _, rfl⟩ := List.mem_map.mp member
    exact ⟨plain_rfc3986Encode _, plain_rfc3986Encode _⟩
  rw [queryText, encode_intercalate ampersand_small,
    ← List.map_insertionSort pairLe _ encodeHalves _ fun left leftMember right rightMember =>
      comparePairs_encode (plain left leftMember) (plain right rightMember),
    List.map_map, List.map_map]
  congr 1
  apply List.map_congr_left
  intro pair _
  rw [Function.comp_apply, Function.comp_apply, pairText, Utf16.encode_append, Utf16.encode_cons,
    encodeChar_small equals_small]
  rfl

theorem canonicalizeQuery_agrees (rawQuery out : List UInt16) :
    JavaScript.canonicalizeQuery rawQuery = .ok out ↔
      ∃ query, canonicalizeQueryWith refuse (Utf16.decode rawQuery) = .ok query ∧
        out = Utf16.encode query := by
  unfold JavaScript.canonicalizeQuery canonicalizeQueryWith
  by_cases empty : rawQuery = []
  · rw [if_pos empty, if_pos (decode_eq_nil_iff.mpr empty)]
    constructor
    · intro done
      cases done
      exact ⟨[], rfl, rfl⟩
    · rintro ⟨query, done, rfl⟩
      cases done
      rfl
  · rw [if_neg empty, if_neg (mt decode_eq_nil_iff.mp empty)]
    simp only [bind_ok_iff, pure, Except.pure, Except.ok.injEq, decode_splitOn ampersand_small,
      mapM_agrees (@canonicalPair_agrees _ refuse)]
    constructor
    · rintro ⟨_, ⟨encoded, accepted, rfl⟩, rfl⟩
      obtain ⟨pairs, _, rfl⟩ := pairs_ok accepted
      exact ⟨_, ⟨_, accepted, rfl⟩, (encode_queryText pairs).symm⟩
    · rintro ⟨_, ⟨encoded, accepted, rfl⟩, rfl⟩
      obtain ⟨pairs, _, rfl⟩ := pairs_ok accepted
      exact ⟨_, ⟨_, accepted, rfl⟩, (encode_queryText pairs).symm⟩

end Query

/-! ## The copy in the Python client -/

section Copies

variable {ε : Type u} {δ : Type v} {α : Type} {refuse : String → ε} {other : String → δ}

theorem decodeComponent_copy {value : Text} {rejectDoubleEncoding : Bool} (text : List Char) :
    decodeComponent refuse value rejectDoubleEncoding = .ok text ↔
      decodeComponent other value rejectDoubleEncoding = .ok text := by
  simp only [decodeComponent, bind_ok_iff, require_ok_iff]
  cases unquoteText value with
  | none =>
      constructor
      · rintro ⟨_, _, impossible⟩
        cases impossible
      · rintro ⟨_, _, impossible⟩
        cases impossible
  | some decoded =>
      simp only [bind_ok_iff, require_ok_iff, pure, Except.pure, Except.ok.injEq]

theorem canonicalSegment_copy (raw : Text) (encoded : List Char) :
    canonicalSegment refuse raw = .ok encoded ↔ canonicalSegment other raw = .ok encoded := by
  simp only [canonicalSegment, bind_ok_iff, require_ok_iff, pure, Except.pure, Except.ok.injEq,
    @decodeComponent_copy _ _ refuse other]

theorem canonicalPair_copy (raw : Text) (encoded : List Char × List Char) :
    canonicalPair refuse raw = .ok encoded ↔ canonicalPair other raw = .ok encoded := by
  simp only [canonicalPair, bind_ok_iff, pure, Except.pure, Except.ok.injEq,
    @decodeComponent_copy _ _ refuse other]

theorem mapM_copy {first : Text → Except ε α} {second : Text → Except δ α} {raws : List Text}
    (same : ∀ raw out, first raw = .ok out ↔ second raw = .ok out) (outs : List α) :
    raws.mapM first = .ok outs ↔ raws.mapM second = .ok outs := by
  induction raws generalizing outs with
  | nil => simp [pure, Except.pure]
  | cons raw rest inductionHypothesis =>
      simp only [List.mapM_cons, bind_ok_iff, pure, Except.pure, Except.ok.injEq, same,
        inductionHypothesis]

theorem toOption_eq {first : Except ε α} {second : Except δ α}
    (same : ∀ out, first = .ok out ↔ second = .ok out) : first.toOption = second.toOption := by
  cases accepted : first with
  | ok out =>
      rw [(same out).mp accepted]
      rfl
  | error error =>
      cases copied : second with
      | ok out =>
          rw [(same out).mpr copied] at accepted
          cases accepted
      | error otherError => rfl

/-- Two copies of the code differ in their errors only. -/
theorem canonicalizePath_copy (refuse : String → ε) (other : String → δ) (rawPath : Text) :
    (canonicalizePathWith refuse rawPath).toOption =
      (canonicalizePathWith other rawPath).toOption := by
  apply toOption_eq
  intro path
  simp only [canonicalizePathWith, bind_ok_iff, require_ok_iff, pure, Except.pure,
    Except.ok.injEq, mapM_copy (@canonicalSegment_copy _ _ refuse other)]

theorem canonicalizeQuery_copy (refuse : String → ε) (other : String → δ) (rawQuery : Text) :
    (canonicalizeQueryWith refuse rawQuery).toOption =
      (canonicalizeQueryWith other rawQuery).toOption := by
  apply toOption_eq
  intro query
  unfold canonicalizeQueryWith
  split
  · simp only [pure, Except.pure, Except.ok.injEq]
  · simp only [bind_ok_iff, pure, Except.pure, Except.ok.injEq,
      mapM_copy (@canonicalPair_copy _ _ refuse other)]

end Copies

/-! ## Agreement -/

/-- Two outcomes are the same text in units and in characters, or both an error. -/
def SameOutcome {ε : Type u} {δ : Type v} (client : Except ε (List UInt16))
    (server : Except δ (List Char)) : Prop :=
  client.toOption = server.toOption.map Utf16.encode

theorem sameOutcome_of_iff {ε : Type u} {δ : Type v} {client : Except ε (List UInt16)}
    {server : Except δ (List Char)}
    (same : ∀ out, client = .ok out ↔ ∃ text, server = .ok text ∧ out = Utf16.encode text) :
    SameOutcome client server := by
  unfold SameOutcome
  cases accepted : server with
  | ok text =>
      rw [(same _).mpr ⟨text, accepted, rfl⟩]
      rfl
  | error error =>
      cases other : client with
      | ok out =>
          obtain ⟨text, impossible, _⟩ := (same out).mp other
          rw [accepted] at impossible
          cases impossible
      | error otherError => rfl

/-- The clients and the server accept the same paths and queries, and return the same
text: the JavaScript client for every sequence of code units, which the server reads
as code points with its lone surrogates, and the Python client for every text. -/
theorem canonicalization_agrees :
    (∀ units : List UInt16,
      SameOutcome (JavaScript.canonicalizePath units)
          (Security.Canonical.canonicalizePath (Utf16.decode units)) ∧
        SameOutcome (JavaScript.canonicalizeQuery units)
          (Security.Canonical.canonicalizeQuery (Utf16.decode units))) ∧
      ∀ text : Text,
        (Python.canonicalizePath text).toOption =
            (Security.Canonical.canonicalizePath text).toOption ∧
          (Python.canonicalizeQuery text).toOption =
            (Security.Canonical.canonicalizeQuery text).toOption :=
  ⟨fun units => ⟨sameOutcome_of_iff (canonicalizePath_agrees units),
      sameOutcome_of_iff (canonicalizeQuery_agrees units)⟩,
    fun text => ⟨canonicalizePath_copy _ _ text, canonicalizeQuery_copy _ _ text⟩⟩

end Zangpu.Sdk
