import Mathlib.Data.List.Sort
import Mathlib.Data.Char
import Mathlib.Data.List.Lex
import Mathlib.Data.Prod.Lex
import Zangpu.Foundation.Outcome
import Zangpu.Foundation.Utf16
import Zangpu.Foundation.PercentEncoding

/-!
The canonical request.

Owns: decoding and encoding of one component, the canonical path and query, the
checks of the signing fields, and `create_canonical_request`.

Does not own: the body digest, the signature, and the comparison of signatures. The
Python client carries a copy of this code with an error of its own, so the error is
a parameter.
-/

set_option autoImplicit false

namespace Zangpu.Security.Canonical

open Zangpu.Foundation
open Zangpu.Foundation.PercentEncoding

universe u

def hmacAlgorithm : String := "ZANGPU-HMAC-SHA256"

def signatureVersion : String := "1"

/-- One character of a text. -/
def letter (character : Char) : CodePoint := .scalar character

def text (value : String) : Text := Text.ofChars value.toList

section Components

variable {ε : Type u} (refuse : String → ε)

/-- `unquote_to_bytes(value).decode("utf-8", errors="strict")`. Both steps refuse
what is not UTF-8. -/
def unquoteText (value : Text) : Option (List Char) := do
  let characters ← value.chars?
  Utf8.decode (unquote (Utf8.encode characters))

def isControl (character : Char) : Bool := character.toNat < 32 || character.toNat = 127

def decodeComponent (value : Text) (rejectDoubleEncoding : Bool) : Except ε (List Char) := do
  require (hasInvalidPercent CodePoint.code value = false) (refuse "malformed percent encoding")
  match unquoteText value with
  | none => throw (refuse "component is not valid UTF-8")
  | some decoded =>
      require (decoded.any isControl = false)
        (refuse "component contains a control character")
      require (¬(rejectDoubleEncoding = true ∧ hasPercentEscape Char.toNat decoded = true))
        (refuse "double encoding is not allowed")
      return decoded

/-- The bytes that `quote` leaves alone: letters, digits and `-._~`. -/
def isUnreserved (byte : UInt8) : Bool :=
  (Char.ofNat byte.toNat).isAlphanum || byte = 45 || byte = 46 || byte = 95 || byte = 126

def rfc3986Encode (value : List Char) : List Char := quote isUnreserved (Utf8.encode value)

def canonicalSegment (rawSegment : Text) : Except ε (List Char) := do
  let segment ← decodeComponent refuse rawSegment true
  require (segment ≠ ['.'] ∧ segment ≠ ['.', '.'] ∧ '\\' ∉ segment)
    (refuse "ambiguous path segment")
  return rfc3986Encode segment

def canonicalizePathWith (rawPath : Text) : Except ε (List Char) := do
  require (rawPath.head? = some (letter '/') ∧ letter '?' ∉ rawPath ∧ letter '#' ∉ rawPath)
    (refuse "path must be an absolute path without query or fragment")
  let encodedSegments ← (rawPath.splitOn (letter '/')).mapM (canonicalSegment refuse)
  return ['/'].intercalate encodedSegments

/-- `str.partition("=")`, without the separator it found. -/
def partition (rawPair : Text) : Text × Text :=
  (rawPair.takeWhile (· ≠ letter '='), (rawPair.dropWhile (· ≠ letter '=')).drop 1)

def canonicalPair (rawPair : Text) : Except ε (List Char × List Char) := do
  let (rawKey, rawValue) := partition rawPair
  let key ← decodeComponent refuse rawKey false
  let value ← decodeComponent refuse rawValue false
  return (rfc3986Encode key, rfc3986Encode value)

/-- The order of tuples of texts. -/
def pairLe (left right : List Char × List Char) : Prop := toLex left ≤ toLex right

instance : DecidableRel pairLe := fun left right =>
  inferInstanceAs (Decidable (toLex left ≤ toLex right))

def pairText (pair : List Char × List Char) : List Char := pair.1 ++ '=' :: pair.2

def canonicalizeQueryWith (rawQuery : Text) : Except ε (List Char) :=
  if rawQuery = [] then return []
  else do
    let pairs ← (rawQuery.splitOn (letter '&')).mapM (canonicalPair refuse)
    return ['&'].intercalate ((pairs.insertionSort pairLe).map pairText)

end Components

/-! ## Fields -/

/-- `[A-Za-z0-9_-]`. -/
def isTokenLetter : CodePoint → Bool
  | .scalar character => character.isAlphanum || character = '_' || character = '-'
  | .lone _ => false

def isDigit : CodePoint → Bool
  | .scalar character => character.isDigit
  | .lone _ => false

def isAlpha : CodePoint → Bool
  | .scalar character => character.isAlpha
  | .lone _ => false

def isLowerHexDigit : CodePoint → Bool
  | .scalar character => character.isDigit || ('a' ≤ character && character ≤ 'f')
  | .lone _ => false

/-- `METHOD_RE`. -/
def isMethod (value : Text) : Bool := value ≠ [] && value.all isAlpha

/-- `LOWER_HEX_SHA256_RE`. -/
def isBodyHash (value : Text) : Bool := value.length = 64 && value.all isLowerHexDigit

/-- `KEY_ID_RE`. -/
def isKeyId (value : Text) : Bool :=
  value.take 4 = text "zpk_" && 4 ≤ (value.drop 4).length && (value.drop 4).length ≤ 76 &&
    (value.drop 4).all isTokenLetter

/-- `TIMESTAMP_RE`. -/
def isTimestamp (value : Text) : Bool :=
  value = text "0" ||
    (value.head? ≠ some (letter '0') && 1 ≤ value.length && value.length ≤ 20 &&
      value.all isDigit)

/-- `NONCE_RE`. -/
def isNonce (value : Text) : Bool :=
  16 ≤ value.length && value.length ≤ 128 && value.all isTokenLetter

/-- `REQUEST_ID_RE`. -/
def isRequestId (value : Text) : Bool :=
  16 ≤ value.length && value.length ≤ 64 && value.all isTokenLetter

/-- `str.upper`, as it acts on the letters that a method consists of. -/
def upperLetter : CodePoint → CodePoint
  | .scalar character => .scalar character.toUpper
  | .lone surrogate => .lone surrogate

def upper (value : Text) : Text := value.map upperLetter

/-! ## The server -/

structure CanonicalizationError where
  message : String
  deriving DecidableEq, Repr

def canonicalizePath (rawPath : Text) : Except CanonicalizationError (List Char) :=
  canonicalizePathWith CanonicalizationError.mk rawPath

def canonicalizeQuery (rawQuery : Text) : Except CanonicalizationError (List Char) :=
  canonicalizeQueryWith CanonicalizationError.mk rawQuery

/-- The arguments of `create_canonical_request`. -/
structure SigningFields where
  method : Text
  rawPath : Text
  rawQuery : Text
  bodyHash : Text
  keyId : Text
  timestamp : Text
  nonce : Text
  requestId : Text
  deriving DecidableEq

def validateSigningFields (fields : SigningFields) : Except CanonicalizationError Unit := do
  require (isKeyId fields.keyId = true) ⟨"invalid key ID"⟩
  require (isTimestamp fields.timestamp = true) ⟨"invalid timestamp"⟩
  require (isNonce fields.nonce = true) ⟨"invalid nonce"⟩
  require (isRequestId fields.requestId = true) ⟨"invalid request ID"⟩

def createCanonicalRequest (fields : SigningFields) : Except CanonicalizationError Text := do
  require (isMethod fields.method = true) ⟨"invalid HTTP method"⟩
  require (isBodyHash fields.bodyHash = true) ⟨"invalid body hash"⟩
  validateSigningFields fields
  let path ← canonicalizePath fields.rawPath
  let query ← canonicalizeQuery fields.rawQuery
  return [letter '\n'].intercalate
    [text hmacAlgorithm, text signatureVersion, upper fields.method, Text.ofChars path,
      Text.ofChars query, fields.bodyHash, fields.keyId, fields.timestamp, fields.nonce,
      fields.requestId]

end Zangpu.Security.Canonical
