import Mathlib.Data.Multiset.Basic
import Zangpu.Security.Canonical

/-!
What a canonical request says.

Owns: the meaning of the signing fields, with the path as decoded segments and the
query as a multiset of decoded pairs; what the canonical path and query are in these
terms; and the agreement of canonical requests with meanings.

Does not own: the signature over the canonical request.
-/

set_option autoImplicit false

namespace Zangpu.Security.Canonical

open Zangpu.Foundation
open Zangpu.Foundation.PercentEncoding

universe u

/-! ## Meaning -/

def pathSegments (rawPath : Text) : List (Option (List Char)) :=
  (rawPath.splitOn (letter '/')).map unquoteText

/-- A pair without a separator has the empty value. -/
def queryPair (rawPair : Text) : Option (List Char) × Option (List Char) :=
  (unquoteText (partition rawPair).1, unquoteText (partition rawPair).2)

def queryPairs (rawQuery : Text) : List (Option (List Char) × Option (List Char)) :=
  if rawQuery = [] then [] else (rawQuery.splitOn (letter '&')).map queryPair

/-- Two requests that mean the same. -/
structure SameMeaning (left right : SigningFields) : Prop where
  method : upper left.method = upper right.method
  path : pathSegments left.rawPath = pathSegments right.rawPath
  query : (queryPairs left.rawQuery : Multiset (Option (List Char) × Option (List Char))) =
    queryPairs right.rawQuery
  bodyHash : left.bodyHash = right.bodyHash
  keyId : left.keyId = right.keyId
  timestamp : left.timestamp = right.timestamp
  nonce : left.nonce = right.nonce
  requestId : left.requestId = right.requestId

/-! ## Joining -/

section Joining

variable {α : Type u} [DecidableEq α] {separator : α} {left right : List (List α)}

/-- Non-empty lists of parts without the separator are told apart by their join. -/
theorem intercalate_injective (leftSome : left ≠ []) (rightSome : right ≠ [])
    (leftFree : ∀ part ∈ left, separator ∉ part) (rightFree : ∀ part ∈ right, separator ∉ part)
    (same : [separator].intercalate left = [separator].intercalate right) : left = right := by
  rw [← List.splitOn_intercalate separator leftFree leftSome, same,
    List.splitOn_intercalate separator rightFree rightSome]

omit [DecidableEq α] in
theorem intercalate_eq_nil (parts : ∀ part ∈ left, part ≠ [])
    (empty : [separator].intercalate left = []) : left = [] := by
  cases left with
  | nil => rfl
  | cons part rest =>
      cases rest with
      | nil =>
          rw [List.intercalate_singleton] at empty
          exact absurd empty (parts part (List.mem_singleton_self part))
      | cons next rest =>
          rw [List.intercalate_cons_of_ne_nil (List.cons_ne_nil _ _)] at empty
          simp at empty

/-- Without empty parts, so are all lists. -/
theorem intercalate_injective_of_parts (leftParts : ∀ part ∈ left, part ≠ [])
    (rightParts : ∀ part ∈ right, part ≠ []) (leftFree : ∀ part ∈ left, separator ∉ part)
    (rightFree : ∀ part ∈ right, separator ∉ part)
    (same : [separator].intercalate left = [separator].intercalate right) : left = right := by
  by_cases leftNone : left = []
  · rw [leftNone] at same
    exact leftNone.trans (intercalate_eq_nil rightParts same.symm).symm
  · by_cases rightNone : right = []
    · rw [rightNone] at same
      exact (intercalate_eq_nil leftParts same).trans rightNone.symm
    · exact intercalate_injective leftNone rightNone leftFree rightFree same

/-- A text is cut at its first separator in one way. -/
theorem append_cons_injective {leftHead rightHead leftTail rightTail : List α}
    (leftFree : separator ∉ leftHead) (rightFree : separator ∉ rightHead)
    (same : leftHead ++ separator :: leftTail = rightHead ++ separator :: rightTail) :
    leftHead = rightHead ∧ leftTail = rightTail := by
  have leftSplit := List.splitOn_append_cons_self_of_not_mem leftFree leftTail
  have rightSplit := List.splitOn_append_cons_self_of_not_mem rightFree rightTail
  rw [same, rightSplit, List.cons.injEq] at leftSplit
  rw [leftSplit.1] at same ⊢
  exact ⟨rfl, (List.cons.inj (List.append_cancel_left same)).2⟩

end Joining

/-! ## Encoded components -/

theorem rfc3986Encode_injective {left right : List Char}
    (same : rfc3986Encode left = rfc3986Encode right) : left = right :=
  Utf8.encode_injective (quote_injective (by decide) same)

/-- The separators of paths, queries and requests. -/
def separators : List Char := ['/', '&', '=', '\n']

theorem separators_reserved : ∀ separator ∈ separators,
    separator ≠ '%' ∧ separator ∉ "0123456789ABCDEF".toList ∧
      ∀ code < 256, isUnreserved (UInt8.ofNat code) = true → separator ≠ Char.ofNat code := by
  unfold separators
  rw [List.forall_mem_cons, List.forall_mem_cons, List.forall_mem_cons, List.forall_mem_singleton]
  decide +kernel

theorem not_mem_rfc3986Encode {separator : Char} (separates : separator ∈ separators)
    (value : List Char) : separator ∉ rfc3986Encode value := by
  intro member
  obtain ⟨notPercent, notDigit, notUnreserved⟩ := separators_reserved separator separates
  rcases mem_quote member with percent | digit | ⟨byte, unreserved, same⟩
  · exact notPercent percent
  · exact notDigit digit
  · apply notUnreserved byte.toNat byte.toNat_lt _ same
    rwa [UInt8.ofNat_toNat]

theorem decodeComponent_ok {ε : Type u} {refuse : String → ε} {value : Text}
    {rejectDoubleEncoding : Bool} {decoded : List Char}
    (accepted : decodeComponent refuse value rejectDoubleEncoding = .ok decoded) :
    unquoteText value = some decoded := by
  simp only [decodeComponent, bind_ok_iff] at accepted
  obtain ⟨_, _, accepted⟩ := accepted
  split at accepted
  · cases accepted
  · next other read =>
      simp only [bind_ok_iff, pure, Except.pure, Except.ok.injEq] at accepted
      obtain ⟨_, _, _, _, rfl⟩ := accepted
      exact read

/-! ## The canonical path -/

section Path

variable {ε : Type u} {refuse : String → ε}

theorem canonicalSegment_ok {rawSegment : Text} {encoded : List Char}
    (accepted : canonicalSegment refuse rawSegment = .ok encoded) :
    ∃ segment, unquoteText rawSegment = some segment ∧ encoded = rfc3986Encode segment := by
  simp only [canonicalSegment, bind_ok_iff, pure, Except.pure, Except.ok.injEq] at accepted
  obtain ⟨segment, decoded, _, _, rfl⟩ := accepted
  exact ⟨segment, decodeComponent_ok decoded, rfl⟩

theorem segments_ok {rawSegments : List Text} {encoded : List (List Char)}
    (accepted : rawSegments.mapM (canonicalSegment refuse) = .ok encoded) :
    ∃ segments : List (List Char), rawSegments.map unquoteText = segments.map some ∧
      encoded = segments.map rfc3986Encode := by
  induction rawSegments generalizing encoded with
  | nil =>
      cases accepted
      exact ⟨[], rfl, rfl⟩
  | cons rawSegment rest inductionHypothesis =>
      simp only [List.mapM_cons, bind_ok_iff, pure, Except.pure, Except.ok.injEq] at accepted
      obtain ⟨first, firstOk, others, othersOk, rfl⟩ := accepted
      obtain ⟨segment, read, rfl⟩ := canonicalSegment_ok firstOk
      obtain ⟨segments, reads, rfl⟩ := inductionHypothesis othersOk
      exact ⟨segment :: segments, by rw [List.map_cons, read, reads, List.map_cons], rfl⟩

/-- The canonical path is the encoded segments, joined. -/
theorem canonicalizePath_ok {rawPath : Text} {path : List Char}
    (accepted : canonicalizePathWith refuse rawPath = .ok path) :
    ∃ segments : List (List Char), segments ≠ [] ∧ pathSegments rawPath = segments.map some ∧
      path = ['/'].intercalate (segments.map rfc3986Encode) := by
  simp only [canonicalizePathWith, bind_ok_iff, pure, Except.pure, Except.ok.injEq] at accepted
  obtain ⟨_, _, encoded, encodes, rfl⟩ := accepted
  obtain ⟨segments, reads, rfl⟩ := segments_ok encodes
  refine ⟨segments, ?_, reads, rfl⟩
  rintro rfl
  exact List.splitOn_ne_nil _ _ (List.map_eq_nil_iff.mp reads)

theorem slash_separates : '/' ∈ separators := by decide

theorem canonicalizePath_eq_iff {leftRaw rightRaw : Text} {left right : List Char}
    (leftOk : canonicalizePathWith refuse leftRaw = .ok left)
    (rightOk : canonicalizePathWith refuse rightRaw = .ok right) :
    left = right ↔ pathSegments leftRaw = pathSegments rightRaw := by
  obtain ⟨leftSegments, leftSome, leftReads, rfl⟩ := canonicalizePath_ok leftOk
  obtain ⟨rightSegments, rightSome, rightReads, rfl⟩ := canonicalizePath_ok rightOk
  have free : ∀ segments : List (List Char), ∀ part ∈ segments.map rfc3986Encode, '/' ∉ part := by
    intro segments part member
    obtain ⟨segment, _, rfl⟩ := List.mem_map.mp member
    exact not_mem_rfc3986Encode slash_separates segment
  rw [leftReads, rightReads, (Option.some_injective _).list_map.eq_iff]
  constructor
  · intro same
    have encoded := intercalate_injective (mt List.map_eq_nil_iff.mp leftSome)
      (mt List.map_eq_nil_iff.mp rightSome) (free _) (free _) same
    exact List.map_injective_iff.mpr (fun _ _ => rfc3986Encode_injective) encoded
  · rintro rfl
    rfl

end Path

/-! ## The canonical query -/

section Query

variable {ε : Type u} {refuse : String → ε}

def encodePair (pair : List Char × List Char) : List Char × List Char :=
  (rfc3986Encode pair.1, rfc3986Encode pair.2)

def readPair (pair : List Char × List Char) : Option (List Char) × Option (List Char) :=
  (some pair.1, some pair.2)

theorem encodePair_injective : Function.Injective encodePair := by
  intro left right same
  injection same with keys values
  exact Prod.ext (rfc3986Encode_injective keys) (rfc3986Encode_injective values)

theorem readPair_injective : Function.Injective readPair := by
  intro left right same
  injection same with keys values
  exact Prod.ext (Option.some.inj keys) (Option.some.inj values)

theorem canonicalPair_ok {rawPair : Text} {encoded : List Char × List Char}
    (accepted : canonicalPair refuse rawPair = .ok encoded) :
    ∃ pair, queryPair rawPair = readPair pair ∧ encoded = encodePair pair := by
  simp only [canonicalPair, bind_ok_iff, pure, Except.pure, Except.ok.injEq] at accepted
  obtain ⟨key, keyOk, value, valueOk, rfl⟩ := accepted
  refine ⟨(key, value), ?_, rfl⟩
  rw [queryPair, decodeComponent_ok keyOk, decodeComponent_ok valueOk]
  rfl

theorem pairs_ok {rawPairs : List Text} {encoded : List (List Char × List Char)}
    (accepted : rawPairs.mapM (canonicalPair refuse) = .ok encoded) :
    ∃ pairs : List (List Char × List Char),
      rawPairs.map queryPair = pairs.map readPair ∧ encoded = pairs.map encodePair := by
  induction rawPairs generalizing encoded with
  | nil =>
      cases accepted
      exact ⟨[], rfl, rfl⟩
  | cons rawPair rest inductionHypothesis =>
      simp only [List.mapM_cons, bind_ok_iff, pure, Except.pure, Except.ok.injEq] at accepted
      obtain ⟨first, firstOk, others, othersOk, rfl⟩ := accepted
      obtain ⟨pair, read, rfl⟩ := canonicalPair_ok firstOk
      obtain ⟨pairs, reads, rfl⟩ := inductionHypothesis othersOk
      exact ⟨pair :: pairs, by rw [List.map_cons, read, reads, List.map_cons], rfl⟩

/-- The sorted pairs as query text. -/
def queryText (pairs : List (List Char × List Char)) : List Char :=
  ['&'].intercalate (((pairs.map encodePair).insertionSort pairLe).map pairText)

theorem canonicalizeQuery_ok {rawQuery : Text} {query : List Char}
    (accepted : canonicalizeQueryWith refuse rawQuery = .ok query) :
    ∃ pairs : List (List Char × List Char),
      queryPairs rawQuery = pairs.map readPair ∧ query = queryText pairs := by
  unfold canonicalizeQueryWith at accepted
  unfold queryPairs
  split at accepted
  · next empty =>
      cases accepted
      exact ⟨[], if_pos empty, rfl⟩
  · next some_ =>
      simp only [bind_ok_iff, pure, Except.pure, Except.ok.injEq] at accepted
      obtain ⟨encoded, encodes, rfl⟩ := accepted
      obtain ⟨pairs, reads, rfl⟩ := pairs_ok encodes
      exact ⟨pairs, (if_neg some_).trans reads, rfl⟩

instance : Std.Total pairLe := ⟨fun left right => le_total (toLex left) (toLex right)⟩

instance : IsTrans _ pairLe := ⟨fun _ _ _ => le_trans⟩

instance : Std.Antisymm pairLe := ⟨fun _ _ first second => toLex.injective (le_antisymm first second)⟩

/-- Sorting is a normal form of the order of pairs. -/
theorem sorted_eq_iff {left right : List (List Char × List Char)} :
    left.insertionSort pairLe = right.insertionSort pairLe ↔ left.Perm right := by
  constructor
  · intro same
    exact (List.perm_insertionSort pairLe left).symm.trans
      (same ▸ List.perm_insertionSort pairLe right)
  · intro perm
    refine List.Perm.eq_of_pairwise' (List.pairwise_insertionSort _ _)
      (List.pairwise_insertionSort _ _) ?_
    exact (List.perm_insertionSort pairLe left).trans
      (perm.trans (List.perm_insertionSort pairLe right).symm)

theorem pairText_ne_nil (pair : List Char × List Char) : pairText pair ≠ [] := by
  simp [pairText]

theorem pairText_encodePair_injective :
    Function.Injective fun pair => pairText (encodePair pair) := by
  intro left right same
  obtain ⟨keys, values⟩ := append_cons_injective
    (not_mem_rfc3986Encode (by decide) left.1) (not_mem_rfc3986Encode (by decide) right.1) same
  exact Prod.ext (rfc3986Encode_injective keys) (rfc3986Encode_injective values)

theorem ampersand_not_mem_pairText (pair : List Char × List Char) :
    '&' ∉ pairText (encodePair pair) := by
  intro member
  rcases List.mem_append.mp member with key | rest
  · exact not_mem_rfc3986Encode (by decide) pair.1 key
  · rcases List.mem_cons.mp rest with sign | value
    · cases sign
    · exact not_mem_rfc3986Encode (by decide) pair.2 value

/-- The query text determines the pairs up to their order, and no more. -/
theorem queryText_eq_iff {left right : List (List Char × List Char)} :
    queryText left = queryText right ↔ left.Perm right := by
  have texts : ∀ pairs : List (List Char × List Char),
      (((pairs.map encodePair).insertionSort pairLe).map pairText).Perm
        (pairs.map fun pair => pairText (encodePair pair)) := by
    intro pairs
    have sorted := (List.perm_insertionSort pairLe (pairs.map encodePair)).map pairText
    rwa [List.map_map] at sorted
  have parts : ∀ pairs : List (List Char × List Char),
      ∀ part ∈ ((pairs.map encodePair).insertionSort pairLe).map pairText,
        part ≠ [] ∧ '&' ∉ part := by
    intro pairs part member
    obtain ⟨pair, _, rfl⟩ := List.mem_map.mp ((texts pairs).mem_iff.mp member)
    exact ⟨pairText_ne_nil _, ampersand_not_mem_pairText pair⟩
  constructor
  · intro same
    have joined := intercalate_injective_of_parts (fun part member => (parts left part member).1)
      (fun part member => (parts right part member).1)
      (fun part member => (parts left part member).2)
      (fun part member => (parts right part member).2) same
    have encoded := (texts left).symm.trans (joined ▸ texts right)
    exact (List.map_perm_map_iff pairText_encodePair_injective).mp encoded
  · intro perm
    rw [queryText, queryText, sorted_eq_iff.mpr (perm.map encodePair)]

theorem canonicalizeQuery_eq_iff {leftRaw rightRaw : Text} {left right : List Char}
    (leftOk : canonicalizeQueryWith refuse leftRaw = .ok left)
    (rightOk : canonicalizeQueryWith refuse rightRaw = .ok right) :
    left = right ↔
      (queryPairs leftRaw : Multiset (Option (List Char) × Option (List Char))) =
        queryPairs rightRaw := by
  obtain ⟨leftPairs, leftReads, rfl⟩ := canonicalizeQuery_ok leftOk
  obtain ⟨rightPairs, rightReads, rfl⟩ := canonicalizeQuery_ok rightOk
  rw [leftReads, rightReads, Multiset.coe_eq_coe, queryText_eq_iff,
    List.map_perm_map_iff readPair_injective]

end Query

/-! ## The request -/

/-- The ten lines of a canonical request. -/
def requestLines (fields : SigningFields) (path query : List Char) : List Text :=
  [text hmacAlgorithm, text signatureVersion, upper fields.method, Text.ofChars path,
    Text.ofChars query, fields.bodyHash, fields.keyId, fields.timestamp, fields.nonce,
    fields.requestId]

theorem newline_not_mem_of_all {value : Text} {class_ : CodePoint → Bool}
    (excluded : class_ (letter '\n') = false) (all : value.all class_ = true) :
    letter '\n' ∉ value := by
  intro member
  rw [List.all_eq_true.mp all _ member] at excluded
  cases excluded

theorem newline_not_mem_ofChars {characters : List Char} (free : '\n' ∉ characters) :
    letter '\n' ∉ Text.ofChars characters := by
  intro member
  obtain ⟨character, present, same⟩ := List.mem_map.mp member
  exact free (CodePoint.scalar.inj same ▸ present)

theorem isAlpha_toUpper : ∀ code < 128, (Char.ofNat code).isAlpha = true →
    (Char.ofNat code).toUpper.isAlpha = true := by
  decide

theorem toNat_of_isAlpha {character : Char} (alpha : character.isAlpha = true) :
    character.toNat < 128 := by
  have small : ∀ {most : UInt32}, most.toNat < 128 → character.val ≤ most →
      character.toNat < 128 := fun ascii below =>
    Nat.lt_of_le_of_lt (UInt32.le_iff_toNat_le.mp below) ascii
  rcases Bool.or_eq_true_iff.mp alpha with upper | lower
  · exact small (by decide) (of_decide_eq_true upper).2
  · exact small (by decide) (of_decide_eq_true (Bool.and_eq_true_iff.mp lower).2)

theorem isAlpha_upperLetter {point : CodePoint} (alpha : isAlpha point = true) :
    isAlpha (upperLetter point) = true := by
  cases point with
  | lone surrogate => cases alpha
  | scalar character =>
      have small := isAlpha_toUpper character.toNat (toNat_of_isAlpha alpha)
      rw [Char.ofNat_toNat] at small
      exact small alpha

theorem all_isAlpha_upper {value : Text} (all : value.all isAlpha = true) :
    (upper value).all isAlpha = true := by
  rw [List.all_eq_true] at all ⊢
  intro point member
  obtain ⟨origin, present, rfl⟩ := List.mem_map.mp member
  exact isAlpha_upperLetter (all origin present)

theorem newline_not_mem_join {separator : Char} {parts : List (List Char)}
    (other : separator ≠ '\n') (free : ∀ part ∈ parts, '\n' ∉ part) :
    '\n' ∉ [separator].intercalate parts := by
  induction parts with
  | nil => exact List.not_mem_nil
  | cons part rest inductionHypothesis =>
      rw [List.forall_mem_cons] at free
      cases rest with
      | nil => rw [List.intercalate_singleton]; exact free.1
      | cons next rest =>
          rw [List.intercalate_cons_of_ne_nil (List.cons_ne_nil _ _)]
          intro member
          rcases List.mem_append.mp member with ahead | behind
          · rcases List.mem_append.mp ahead with inside | sign
            · exact free.1 inside
            · exact other (List.mem_singleton.mp sign).symm
          · exact inductionHypothesis free.2 behind

theorem newline_not_mem_path {ε : Type u} {refuse : String → ε} {rawPath : Text}
    {path : List Char} (accepted : canonicalizePathWith refuse rawPath = .ok path) :
    '\n' ∉ path := by
  obtain ⟨segments, _, _, rfl⟩ := canonicalizePath_ok accepted
  apply newline_not_mem_join (by decide)
  intro part member
  obtain ⟨segment, _, rfl⟩ := List.mem_map.mp member
  exact not_mem_rfc3986Encode (by decide) segment

theorem newline_not_mem_query {ε : Type u} {refuse : String → ε} {rawQuery : Text}
    {query : List Char} (accepted : canonicalizeQueryWith refuse rawQuery = .ok query) :
    '\n' ∉ query := by
  obtain ⟨pairs, _, rfl⟩ := canonicalizeQuery_ok accepted
  apply newline_not_mem_join (by decide)
  intro part member
  obtain ⟨encoded, sorted, rfl⟩ := List.mem_map.mp member
  have present := (List.perm_insertionSort pairLe (pairs.map encodePair)).mem_iff.mp sorted
  obtain ⟨pair, _, rfl⟩ := List.mem_map.mp present
  simp only [pairText, encodePair, List.mem_append, List.mem_cons, not_or]
  exact ⟨not_mem_rfc3986Encode (by decide) _, by decide, not_mem_rfc3986Encode (by decide) _⟩

/-- An accepted request is its ten lines joined, and no line holds a line break. -/
theorem createCanonicalRequest_ok {fields : SigningFields} {request : Text}
    (accepted : createCanonicalRequest fields = .ok request) :
    ∃ path query, canonicalizePath fields.rawPath = .ok path ∧
      canonicalizeQuery fields.rawQuery = .ok query ∧
      request = [letter '\n'].intercalate (requestLines fields path query) ∧
      ∀ line ∈ requestLines fields path query, letter '\n' ∉ line := by
  simp only [createCanonicalRequest, validateSigningFields, bind_ok_iff, require_ok_iff,
    exists_const, pure, Except.pure, Except.ok.injEq] at accepted
  obtain ⟨method, bodyHash, ⟨keyId, timestamp, nonce, requestId⟩, path, paths, query, queries,
    rfl⟩ := accepted
  refine ⟨path, query, paths, queries, rfl, ?_⟩
  simp only [isMethod, isBodyHash, isKeyId, isTimestamp, isNonce, isRequestId, Bool.and_eq_true,
    Bool.or_eq_true, decide_eq_true_eq] at method bodyHash keyId timestamp nonce requestId
  have keyIdLine : letter '\n' ∉ fields.keyId := by
    rw [← List.take_append_drop 4 fields.keyId, keyId.1.1.1, List.mem_append, not_or]
    exact ⟨by decide, newline_not_mem_of_all (by decide) keyId.2⟩
  have timestampLine : letter '\n' ∉ fields.timestamp := by
    rcases timestamp with zero | digits
    · rw [zero]
      decide
    · exact newline_not_mem_of_all (by decide) digits.2
  simp only [requestLines, List.forall_mem_cons]
  exact ⟨by decide, by decide, newline_not_mem_of_all (by decide) (all_isAlpha_upper method.2),
    newline_not_mem_ofChars (newline_not_mem_path paths),
    newline_not_mem_ofChars (newline_not_mem_query queries),
    newline_not_mem_of_all (by decide) bodyHash.2, keyIdLine, timestampLine,
    newline_not_mem_of_all (by decide) nonce.2, newline_not_mem_of_all (by decide) requestId.2,
    List.forall_mem_nil _⟩

/-- Two accepted requests have the same canonical text exactly when they mean the
same. -/
theorem canonical_request_determines_meaning (left right : SigningFields)
    (leftText rightText : Text) (leftOk : createCanonicalRequest left = .ok leftText)
    (rightOk : createCanonicalRequest right = .ok rightText) :
    leftText = rightText ↔ SameMeaning left right := by
  obtain ⟨leftPath, leftQuery, leftPaths, leftQueries, rfl, leftLines⟩ :=
    createCanonicalRequest_ok leftOk
  obtain ⟨rightPath, rightQuery, rightPaths, rightQueries, rfl, rightLines⟩ :=
    createCanonicalRequest_ok rightOk
  have paths := canonicalizePath_eq_iff leftPaths rightPaths
  have queries := canonicalizeQuery_eq_iff leftQueries rightQueries
  constructor
  · intro same
    have lines := intercalate_injective (List.cons_ne_nil _ _) (List.cons_ne_nil _ _) leftLines
      rightLines same
    simp only [List.cons.injEq, true_and, and_true] at lines
    obtain ⟨method, path, query, bodyHash, keyId, timestamp, nonce, requestId⟩ := lines
    exact ⟨method, paths.mp (Text.ofChars_injective path),
      queries.mp (Text.ofChars_injective query), bodyHash, keyId, timestamp, nonce, requestId⟩
  · intro meaning
    rw [requestLines, requestLines, meaning.method, paths.mpr meaning.path,
      queries.mpr meaning.query, meaning.bodyHash, meaning.keyId, meaning.timestamp, meaning.nonce,
      meaning.requestId]

/-! ## A sample -/

def sampleFields (method rawPath rawQuery : String) : SigningFields where
  method := text method
  rawPath := text rawPath
  rawQuery := text rawQuery
  bodyHash := List.replicate 64 (letter '0')
  keyId := text "zpk_test_0123456789"
  timestamp := text "1785420000"
  nonce := text "nonce_0123456789abcdef"
  requestId := text "req_0123456789abcdef"

theorem sampleFields_accepted : ∃ leftText rightText,
    createCanonicalRequest (sampleFields "post" "/v1/%7e" "b=2&a=%41") = .ok leftText ∧
      createCanonicalRequest (sampleFields "POST" "/v1/~" "a=A&b=2") = .ok rightText := by
  have left : (createCanonicalRequest
      (sampleFields "post" "/v1/%7e" "b=2&a=%41")).isOk = true := by decide +kernel
  have right : (createCanonicalRequest
      (sampleFields "POST" "/v1/~" "a=A&b=2")).isOk = true := by decide +kernel
  cases leftOk : createCanonicalRequest (sampleFields "post" "/v1/%7e" "b=2&a=%41") with
  | error error => rw [leftOk] at left; cases left
  | ok leftText =>
      cases rightOk : createCanonicalRequest (sampleFields "POST" "/v1/~" "a=A&b=2") with
      | error error => rw [rightOk] at right; cases right
      | ok rightText => exact ⟨leftText, rightText, rfl, rfl⟩

theorem canonical_request_determines_meaning_sample : ∃ leftText rightText,
    createCanonicalRequest (sampleFields "post" "/v1/%7e" "b=2&a=%41") = .ok leftText ∧
      createCanonicalRequest (sampleFields "POST" "/v1/~" "a=A&b=2") = .ok rightText ∧
      (leftText = rightText ↔ SameMeaning (sampleFields "post" "/v1/%7e" "b=2&a=%41")
        (sampleFields "POST" "/v1/~" "a=A&b=2")) := by
  obtain ⟨leftText, rightText, leftOk, rightOk⟩ := sampleFields_accepted
  exact ⟨leftText, rightText, leftOk, rightOk,
    canonical_request_determines_meaning _ _ leftText rightText leftOk rightOk⟩

end Zangpu.Security.Canonical
