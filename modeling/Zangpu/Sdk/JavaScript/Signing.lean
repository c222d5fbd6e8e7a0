import Mathlib.Data.List.Sort
import Zangpu.Foundation.Outcome
import Zangpu.Foundation.UriComponents

/-!
Request signing in the JavaScript client.

Owns: the client's canonical path and query over code units.

Does not own: the validation of the other fields, and the signature.
-/

set_option autoImplicit false

namespace Zangpu.Sdk.JavaScript

open Zangpu.Foundation
open Zangpu.Foundation.PercentEncoding
open Zangpu.Foundation.UriComponents

structure ZangpuSigningError where
  message : String
  deriving DecidableEq, Repr

/-- The unit of an ASCII character. -/
def unit (character : Char) : UInt16 := UInt16.ofNat character.toNat

/-- `CONTROL_RE`. -/
def isControl (unit : UInt16) : Bool := unit.toNat < 32 || unit.toNat = 127

def decodeComponent (value : List UInt16) (rejectDoubleEncoding : Bool) :
    Except ZangpuSigningError (List UInt16) := do
  require (hasInvalidPercent UInt16.toNat value = false) ⟨"malformed percent encoding"⟩
  match decodeUriComponent value with
  | none => throw ⟨"component is not valid UTF-8"⟩
  | some decoded =>
      require (decoded.any isControl = false)
        ⟨"component contains a control character"⟩
      require (¬(rejectDoubleEncoding = true ∧ hasPercentEscape UInt16.toNat decoded = true))
        ⟨"double encoding is not allowed"⟩
      return decoded

/-- The replacement of `[!'()*]`, whose codes have two hexadecimal digits. -/
def replaceReserved (unit : UInt16) : List UInt16 :=
  if unit ∈ [33, 39, 40, 41, 42] then
    Utf16.encode ['%', upperHexDigit (unit.toNat / 16), upperHexDigit (unit.toNat % 16)]
  else [unit]

def rfc3986Encode (value : List UInt16) : Except ZangpuSigningError (List UInt16) :=
  match encodeUriComponent value with
  | none => throw ⟨"component is not valid UTF-8"⟩
  | some encoded => return encoded.flatMap replaceReserved

def canonicalSegment (rawSegment : List UInt16) : Except ZangpuSigningError (List UInt16) := do
  let segment ← decodeComponent rawSegment true
  require (segment ≠ Utf16.encode ['.'] ∧ segment ≠ Utf16.encode ['.', '.'] ∧
      unit '\\' ∉ segment)
    ⟨"ambiguous path segment"⟩
  rfc3986Encode segment

def canonicalizePath (rawPath : List UInt16) : Except ZangpuSigningError (List UInt16) := do
  require (rawPath.head? = some (unit '/') ∧ unit '?' ∉ rawPath ∧ unit '#' ∉ rawPath)
    ⟨"path must be absolute and exclude query or fragment"⟩
  let segments ← (rawPath.splitOn (unit '/')).mapM canonicalSegment
  return [unit '/'].intercalate segments

/-- The pair before and behind the first separator, as `indexOf` and `slice` cut it. -/
def cut (rawPair : List UInt16) : List UInt16 × List UInt16 :=
  (rawPair.takeWhile (· ≠ unit '='), (rawPair.dropWhile (· ≠ unit '=')).drop 1)

def canonicalPair (rawPair : List UInt16) :
    Except ZangpuSigningError (List UInt16 × List UInt16) := do
  let (rawKey, rawValue) := cut rawPair
  let key ← decodeComponent rawKey false
  let encodedKey ← rfc3986Encode key
  let value ← decodeComponent rawValue false
  let encodedValue ← rfc3986Encode value
  return (encodedKey, encodedValue)

/-- `left < right` on strings: the order of the code units. -/
def stringLt (left right : List UInt16) : Prop :=
  left.map UInt16.toNat < right.map UInt16.toNat

instance (left right : List UInt16) : Decidable (stringLt left right) :=
  inferInstanceAs (Decidable (_ < _))

/-- The comparison function of the sort. -/
def comparePairs (left right : List UInt16 × List UInt16) : Int :=
  if left.1 ≠ right.1 then if stringLt left.1 right.1 then -1 else 1
  else if left.2 = right.2 then 0
  else if stringLt left.2 right.2 then -1 else 1

def canonicalizeQuery (rawQuery : List UInt16) : Except ZangpuSigningError (List UInt16) :=
  if rawQuery = [] then return []
  else do
    let pairs ← (rawQuery.splitOn (unit '&')).mapM canonicalPair
    let sorted := pairs.insertionSort fun left right => comparePairs left right ≤ 0
    return [unit '&'].intercalate (sorted.map fun pair => pair.1 ++ unit '=' :: pair.2)

end Zangpu.Sdk.JavaScript
