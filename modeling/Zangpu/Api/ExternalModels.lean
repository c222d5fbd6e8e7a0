import Mathlib.Algebra.Ring.Int.Defs
import Zangpu.Api.Errors

/-!
The admitted chat completion request.

Owns: the request with the bounds its parser enforces, the output token limit
it is admitted under and the estimate of its prompt tokens.

Does not own: sampling parameters and stop sequences, which pass through to the
provider unread.
-/

set_option autoImplicit false

namespace Zangpu.Api

inductive ChatRole where
  | system
  | user
  | assistant
  deriving DecidableEq, Repr

def ChatRole.text : ChatRole → String
  | .system => "system"
  | .user => "user"
  | .assistant => "assistant"

structure ChatMessageRequest where
  role : ChatRole
  content : String
  deriving DecidableEq, Repr

structure ChatCompletionRequest where
  model : String
  messages : List ChatMessageRequest
  stream : Bool
  maxTokens : Option Int
  maxCompletionTokens : Option Int
  maxTokensBounded : ∀ limit ∈ maxTokens, 0 < limit ∧ limit ≤ 2147483647
  maxCompletionTokensBounded : ∀ limit ∈ maxCompletionTokens, 0 < limit ∧ limit ≤ 2147483647
  exclusive : maxTokens = none ∨ maxCompletionTokens = none
  deriving DecidableEq

namespace ChatCompletionRequest

/-- What an `ExternalPayloadError` or a `ValueError` of the request says. -/
inductive PayloadError where
  | externalPayload (code : ErrorCode)
  | valueError (message : String)
  deriving DecidableEq, Repr

def requireNonStreaming (request : ChatCompletionRequest) : Except PayloadError Unit :=
  if request.stream then .error (.externalPayload .unsupportedFeature) else .ok ()

/-- `self.max_tokens or self.max_completion_tokens`; neither is ever zero. -/
def requestedTokens (request : ChatCompletionRequest) : Option Int :=
  request.maxTokens.or request.maxCompletionTokens

def admittedOutputTokens (request : ChatCompletionRequest) (clientLimit globalLimit : Int) :
    Except PayloadError Int :=
  if clientLimit ≤ 0 ∨ globalLimit ≤ 0 then
    .error (.valueError "output token limits must be positive")
  else
    match request.requestedTokens with
    | none => .ok (min clientLimit globalLimit)
    | some requested =>
        if min clientLimit globalLimit < requested then
          .error (.externalPayload .invalidRequest)
        else .ok requested

end ChatCompletionRequest

/-- Bytes of every message plus eight for its framing. -/
def estimatePromptTokens (request : ChatCompletionRequest) : Int :=
  (request.messages.map fun message =>
    (message.role.text.utf8ByteSize + message.content.utf8ByteSize + 8 : Int)).sum

/-- An admitted output allowance is positive and within both limits. -/
theorem ChatCompletionRequest.admittedOutputTokens_bounded {request : ChatCompletionRequest}
    {clientLimit globalLimit admitted : Int}
    (result : request.admittedOutputTokens clientLimit globalLimit = .ok admitted) :
    0 < admitted ∧ admitted ≤ clientLimit ∧ admitted ≤ globalLimit := by
  unfold admittedOutputTokens at result
  split at result
  · cases result
  · rename_i positive
    split at result
    · cases result
      omega
    · rename_i requested chosen
      split at result
      · cases result
      · rename_i within
        cases result
        have bounded : 0 < admitted := by
          unfold requestedTokens at chosen
          cases first : request.maxTokens with
          | none =>
              rw [first, Option.none_or] at chosen
              exact (request.maxCompletionTokensBounded admitted chosen).1
          | some limit =>
              rw [first, Option.some_or, Option.some.injEq] at chosen
              subst chosen
              exact (request.maxTokensBounded limit first).1
        omega

end Zangpu.Api
