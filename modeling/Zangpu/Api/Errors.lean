import Mathlib.Tactic.Common

/-!
Public errors of the external API.

Owns: the error codes of `ERROR_SPECS`, their texts and their specifications.

Does not own: the HTTP response built from them.
-/

set_option autoImplicit false

namespace Zangpu.Api

/-- The keys of `ERROR_SPECS`. -/
inductive ErrorCode where
  | invalidRequest
  | unsupportedFeature
  | authFailed
  | creditBalanceExhausted
  | clientDisabled
  | endpointForbidden
  | modelForbidden
  | creditAccountFrozen
  | modelNotFound
  | requestInProgress
  | requestAlreadyCompleted
  | requestIdConflict
  | payloadTooLarge
  | clientDisconnected
  | qpsLimited
  | concurrencyLimited
  | modelCapacityLimited
  | dailyRequestQuotaExceeded
  | dailyTokenQuotaExceeded
  | totalRequestQuotaExceeded
  | totalTokenQuotaExceeded
  | controlPlaneUnavailable
  | modelUnavailable
  | modelTimeout
  | internalError
  deriving DecidableEq, Repr

structure ExternalErrorSpec where
  statusCode : Int
  message : String
  retryable : Bool
  deriving DecidableEq, Repr

namespace ErrorCode

def text : ErrorCode → String
  | invalidRequest => "INVALID_REQUEST"
  | unsupportedFeature => "UNSUPPORTED_FEATURE"
  | authFailed => "AUTH_FAILED"
  | creditBalanceExhausted => "CREDIT_BALANCE_EXHAUSTED"
  | clientDisabled => "CLIENT_DISABLED"
  | endpointForbidden => "ENDPOINT_FORBIDDEN"
  | modelForbidden => "MODEL_FORBIDDEN"
  | creditAccountFrozen => "CREDIT_ACCOUNT_FROZEN"
  | modelNotFound => "MODEL_NOT_FOUND"
  | requestInProgress => "REQUEST_IN_PROGRESS"
  | requestAlreadyCompleted => "REQUEST_ALREADY_COMPLETED"
  | requestIdConflict => "REQUEST_ID_CONFLICT"
  | payloadTooLarge => "PAYLOAD_TOO_LARGE"
  | clientDisconnected => "CLIENT_DISCONNECTED"
  | qpsLimited => "QPS_LIMITED"
  | concurrencyLimited => "CONCURRENCY_LIMITED"
  | modelCapacityLimited => "MODEL_CAPACITY_LIMITED"
  | dailyRequestQuotaExceeded => "DAILY_REQUEST_QUOTA_EXCEEDED"
  | dailyTokenQuotaExceeded => "DAILY_TOKEN_QUOTA_EXCEEDED"
  | totalRequestQuotaExceeded => "TOTAL_REQUEST_QUOTA_EXCEEDED"
  | totalTokenQuotaExceeded => "TOTAL_TOKEN_QUOTA_EXCEEDED"
  | controlPlaneUnavailable => "CONTROL_PLANE_UNAVAILABLE"
  | modelUnavailable => "MODEL_UNAVAILABLE"
  | modelTimeout => "MODEL_TIMEOUT"
  | internalError => "INTERNAL_ERROR"

/-- `ERROR_SPECS`. -/
def spec : ErrorCode → ExternalErrorSpec
  | invalidRequest => ⟨400, "Invalid request.", false⟩
  | unsupportedFeature => ⟨400, "Unsupported feature.", false⟩
  | authFailed => ⟨401, "Authentication failed.", false⟩
  | creditBalanceExhausted => ⟨402, "Credit balance is exhausted.", false⟩
  | clientDisabled => ⟨403, "Client is disabled.", false⟩
  | endpointForbidden => ⟨403, "Endpoint is not allowed.", false⟩
  | modelForbidden => ⟨403, "Model is not allowed.", false⟩
  | creditAccountFrozen => ⟨403, "Credit account is frozen.", false⟩
  | modelNotFound => ⟨404, "Model was not found.", false⟩
  | requestInProgress => ⟨409, "Request is already in progress.", true⟩
  | requestAlreadyCompleted => ⟨409, "Request was already completed.", false⟩
  | requestIdConflict => ⟨409, "Request ID conflicts with another request.", false⟩
  | payloadTooLarge => ⟨413, "Request payload is too large.", false⟩
  | clientDisconnected => ⟨499, "Client disconnected.", false⟩
  | qpsLimited => ⟨429, "Request rate limit exceeded.", true⟩
  | concurrencyLimited => ⟨429, "Concurrency limit exceeded.", true⟩
  | modelCapacityLimited => ⟨429, "Model capacity is temporarily full.", true⟩
  | dailyRequestQuotaExceeded => ⟨429, "Daily request quota exceeded.", false⟩
  | dailyTokenQuotaExceeded => ⟨429, "Daily Token quota exceeded.", false⟩
  | totalRequestQuotaExceeded => ⟨429, "Lifetime request quota exceeded.", false⟩
  | totalTokenQuotaExceeded => ⟨429, "Lifetime Token quota exceeded.", false⟩
  | controlPlaneUnavailable => ⟨503, "Control plane is temporarily unavailable.", true⟩
  | modelUnavailable => ⟨503, "Model is temporarily unavailable.", true⟩
  | modelTimeout => ⟨504, "Model request timed out.", true⟩
  | internalError => ⟨500, "Internal server error.", false⟩

/-- Every specified status is one a terminal record accepts. -/
theorem spec_statusCode (code : ErrorCode) :
    100 ≤ code.spec.statusCode ∧ code.spec.statusCode ≤ 599 := by
  cases code <;> decide

/-- Every code fits the business code of a terminal record. -/
theorem text_bounded (code : ErrorCode) : code.text ≠ "" ∧ code.text.toList.length ≤ 64 := by
  cases code <;> decide

end ErrorCode

end Zangpu.Api
