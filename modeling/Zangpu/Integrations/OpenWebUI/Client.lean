import Zangpu.Integrations.OpenWebUI.Operations
import Zangpu.Services.Streaming

/-!
The replies of the credit service.

Owns: what `OpenWebUIClient._request` makes of a reply: the media type and size
checks, the error envelope with the codes it recognises, the fallback code of a
status, and the answer of a success.

Does not own: the signed request, the JSON parser and the validation of the
answer models, which are parameters.
-/

set_option autoImplicit false

namespace Zangpu.Integrations.OpenWebUI

open Zangpu.Services.Streaming

/-- The reply to a request, with its body in the chunks in which it arrives. -/
structure Response where
  statusCode : Int
  contentType : String
  chunks : List Bytes

/-- `MAX_RESPONSE_BYTES`. -/
def maxResponseBytes : Nat := 1048576

def settlementNotFoundCode : String := "CREDIT_SETTLEMENT_NOT_FOUND"

/-- `KNOWN_ERROR_CODES`. -/
def knownErrorCodes : List String :=
  ["CREDIT_ACCOUNTING_ERROR", "CREDIT_ACCOUNT_FROZEN", "CREDIT_ACCOUNT_NOT_FOUND",
    "CREDIT_ACCOUNT_STATE_CONFLICT", "CREDIT_BALANCE_EXHAUSTED", "CREDIT_BALANCE_OVERFLOW",
    "CREDIT_IDEMPOTENCY_CONFLICT", "CREDIT_PRICING_UNAVAILABLE", settlementNotFoundCode,
    "CREDIT_SETTLEMENT_STATE_CONFLICT", "CREDIT_TERMINAL_EVIDENCE_INVALID",
    "CREDIT_USAGE_EVIDENCE_INVALID", "CREDIT_USAGE_OPERATION_CONFLICT", "INTERNAL_AUTH_FAILED",
    "INTERNAL_NETWORK_FORBIDDEN", "INTERNAL_SERVICE_UNAVAILABLE",
    "INTERNAL_SERVICE_USER_CONFLICT", "INTERNAL_SERVICE_USER_FORBIDDEN"]

/-- The code and the retry mark of an error status without a recognised code. -/
def fallbackError (statusCode : Int) : String × Bool :=
  if statusCode = 401 ∨ statusCode = 403 then ("OPENWEBUI_ACCESS_REJECTED", false)
  else if statusCode = 404 then (notFoundCode, false)
  else if statusCode = 409 then ("OPENWEBUI_CREDIT_CONFLICT", false)
  else if statusCode = 422 then ("OPENWEBUI_REQUEST_REJECTED", false)
  else if statusCode = 429 then ("OPENWEBUI_RATE_LIMITED", true)
  else if 500 ≤ statusCode then ("OPENWEBUI_UNAVAILABLE", true)
  else ("OPENWEBUI_REQUEST_REJECTED", false)

/-- `OpenWebUIProtocolError`. -/
def protocolError : UpstreamError := ⟨"OPENWEBUI_PROTOCOL_ERROR", 502, true⟩

/-- The error of an `httpx.RequestError`. -/
def unavailableError : UpstreamError := ⟨"OPENWEBUI_UNAVAILABLE", 503, true⟩

/-! ## Error envelopes -/

def isErrorCodeCharacter (character : Char) : Bool :=
  ('A' ≤ character && character ≤ 'Z') || character.isDigit || character = '_'

/-- `^[A-Z][A-Z0-9_]{0,127}$`. -/
def matchesErrorCode (text : String) : Bool :=
  match text.toList with
  | [] => false
  | first :: rest =>
      ('A' ≤ first && first ≤ 'Z') && rest.length ≤ 127 && rest.all isErrorCodeCharacter

structure OpenWebUIErrorDetail where
  code : String
  codeValid : matchesErrorCode code = true

structure OpenWebUIErrorEnvelope where
  detail : OpenWebUIErrorDetail

/-- `OpenWebUIErrorDetail.model_validate`; other fields are ignored. -/
def OpenWebUIErrorDetail.validate : Json → Option OpenWebUIErrorDetail
  | .dict entries =>
      match Json.get entries "code" with
      | .str code => if valid : matchesErrorCode code = true then some ⟨code, valid⟩ else none
      | _ => none
  | _ => none

def OpenWebUIErrorEnvelope.validate : Json → Option OpenWebUIErrorEnvelope
  | .dict entries =>
      (OpenWebUIErrorDetail.validate (Json.get entries "detail")).map OpenWebUIErrorEnvelope.mk
  | _ => none

/-- The code of a payload that is a well-formed error envelope. -/
def envelopeCode (payload : Json) : Option String :=
  (OpenWebUIErrorEnvelope.validate payload).map fun envelope => envelope.detail.code

/-- The error an error status is raised as. -/
def errorOf (statusCode : Int) (payload : Json) : UpstreamError where
  code :=
    match OpenWebUIErrorEnvelope.validate payload with
    | some envelope =>
        if envelope.detail.code ∈ knownErrorCodes then envelope.detail.code
        else (fallbackError statusCode).1
    | none => (fallbackError statusCode).1
  statusCode := statusCode
  retryable := (fallbackError statusCode).2

/-! ## Requests -/

/-- The characters that `str.strip` takes off. -/
def isSpace (character : Char) : Bool :=
  let code := character.toNat
  (9 ≤ code && code ≤ 13) || (28 ≤ code && code ≤ 32) || code = 133 || code = 160 ||
    code = 5760 || (8192 ≤ code && code ≤ 8202) || code = 8232 || code = 8233 || code = 8239 ||
    code = 8287 || code = 12288

def strip (text : List Char) : List Char :=
  ((text.dropWhile isSpace).reverse.dropWhile isSpace).reverse

/-- `header.partition(";")[0].strip().lower()`. It is compared with a text whose
letters are lower-case forms of ASCII letters only. -/
def Response.mediaType (response : Response) : String :=
  String.ofList ((strip (response.contentType.toList.takeWhile fun character =>
    character != ';')).map Char.toLower)

/-- The content collected from the chunks, unless one of them passes the bound. -/
def readChunks : Bytes → List Bytes → Option Bytes
  | content, [] => some content
  | content, chunk :: rest =>
      if maxResponseBytes < content.length + chunk.length then none
      else readChunks (content ++ chunk) rest

/-- `_request` from the exchange on; no response is an `httpx.RequestError`. -/
def request {Answer : Type} (loads : Bytes → Option Json) (validate : Json → Option Answer)
    (exchange : Option Response) : Except UpstreamError Answer :=
  match exchange with
  | none => .error unavailableError
  | some response =>
      if response.mediaType ≠ "application/json" then .error protocolError
      else
        match readChunks [] response.chunks with
        | none => .error protocolError
        | some content =>
            match loads content with
            | none => .error protocolError
            | some payload =>
                if 400 ≤ response.statusCode then .error (errorOf response.statusCode payload)
                else
                  match validate payload with
                  | some answer => .ok answer
                  | none => .error protocolError

/-! ## Bodies -/

/-- A body is read in full when it fits the bound, however it is cut into chunks. -/
theorem readChunks_eq (content : Bytes) (chunks : List Bytes)
    (fits : content.length ≤ maxResponseBytes) :
    readChunks content chunks =
      if (content ++ chunks.flatten).length ≤ maxResponseBytes then
        some (content ++ chunks.flatten)
      else none := by
  induction chunks generalizing content with
  | nil =>
      rw [List.flatten_nil, List.append_nil, if_pos fits]
      rfl
  | cons chunk rest inductionHypothesis =>
      unfold readChunks
      split
      · rename_i tooLong
        rw [if_neg]
        simp only [List.flatten_cons, List.length_append]
        omega
      · rename_i short
        rw [inductionHypothesis (content ++ chunk) (by rw [List.length_append]; omega),
          List.append_assoc, List.flatten_cons]

/-- A reply whose body passes the bound is a protocol error. -/
theorem request_oversized {Answer : Type} {loads : Bytes → Option Json}
    {validate : Json → Option Answer} {response : Response}
    (json : response.mediaType = "application/json")
    (oversized : maxResponseBytes < response.chunks.flatten.length) :
    request loads validate (some response) = .error protocolError := by
  have unread : readChunks [] response.chunks = none := by
    rw [readChunks_eq [] response.chunks (Nat.zero_le _), List.nil_append, if_neg]
    omega
  simp only [request, json, ne_eq, not_true_eq_false, ↓reduceIte, unread]

/-- A JSON error reply that fits the bound is raised with its code. -/
theorem request_error {Answer : Type} {loads : Bytes → Option Json}
    {validate : Json → Option Answer} {response : Response} {payload : Json}
    (json : response.mediaType = "application/json")
    (fits : response.chunks.flatten.length ≤ maxResponseBytes)
    (loaded : loads response.chunks.flatten = some payload) (error : 400 ≤ response.statusCode) :
    request loads validate (some response) = .error (errorOf response.statusCode payload) := by
  have read : readChunks [] response.chunks = some response.chunks.flatten := by
    rw [readChunks_eq [] response.chunks (Nat.zero_le _), List.nil_append, if_pos fits]
  simp only [request, json, ne_eq, not_true_eq_false, ↓reduceIte, read, loaded, error]

/-! ## Not-found answers -/

/-- A payload that is no error envelope, or one with a code that is not recognised. -/
def Unrecognised (payload : Json) : Prop :=
  ∀ code, envelopeCode payload = some code → code ∉ knownErrorCodes

theorem errorOf_unrecognised {statusCode : Int} {payload : Json}
    (unrecognised : Unrecognised payload) :
    (errorOf statusCode payload).code = (fallbackError statusCode).1 := by
  unfold errorOf
  dsimp only
  split
  · rename_i envelope validated
    have named : envelopeCode payload = some envelope.detail.code := by
      unfold envelopeCode
      rw [validated]
      rfl
    exact if_neg (unrecognised _ named)
  · rfl

theorem errorOf_recognised {statusCode : Int} {payload : Json} {code : String}
    (named : envelopeCode payload = some code) (known : code ∈ knownErrorCodes) :
    (errorOf statusCode payload).code = code := by
  obtain ⟨envelope, validated, rfl⟩ := Option.map_eq_some_iff.mp named
  unfold errorOf
  dsimp only
  rw [validated]
  exact if_pos known

end Zangpu.Integrations.OpenWebUI
