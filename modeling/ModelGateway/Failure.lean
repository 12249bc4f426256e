import ModelGateway.Json.Basic
import ModelGateway.Text.Search

/-!
# Failures

What can go wrong while a request is relayed, and around it.  Each failure has a kind, a message, an
HTTP status for the client and a body.  What the provider said about itself (its status, error type
and error code) is kept, since the health rules go by it.
-/

namespace ModelGateway

inductive FailureKind where
  | invalidInput
  | notImplemented
  | providerUnreachable
  | badResponseStatus
  | badResponseBody
  | modelMappingFailed
  | modelPriceError
  | invalidApiType
  | channelUnsupported
  | responseTimeExceeded
  deriving DecidableEq, Repr

namespace FailureKind

def code : FailureKind → String
  | .invalidInput => "invalid_input"
  | .notImplemented => "not_implemented"
  | .providerUnreachable => "upstream_unreachable"
  | .badResponseStatus => "bad_response_status"
  | .badResponseBody => "bad_response_body"
  | .modelMappingFailed => "model_mapping_failed"
  | .modelPriceError => "model_price_error"
  | .invalidApiType => "invalid_api_type"
  | .channelUnsupported => "channel_unsupported"
  | .responseTimeExceeded => "channel_response_time_exceeded"

def all : List FailureKind :=
  [.invalidInput, .notImplemented, .providerUnreachable, .badResponseStatus, .badResponseBody,
    .modelMappingFailed, .modelPriceError, .invalidApiType, .channelUnsupported,
    .responseTimeExceeded]

def ofCode? (code : String) : Option FailureKind :=
  all.find? (·.code = code)

end FailureKind

structure RelayFailure where
  kind : FailureKind
  message : String
  /-- The status of the provider's answer, if the failure came with one. -/
  status : Option Nat := none
  providerType : Option String := none
  providerCode : Option String := none
  deriving DecidableEq, Repr

namespace RelayFailure

def isHttpStatus (status : Nat) : Bool :=
  100 ≤ status && status ≤ 999

/-- The status that the client receives.  A bad provider status is passed on. -/
def httpStatus (f : RelayFailure) : Nat :=
  match f.kind with
  | .invalidInput | .modelMappingFailed => 400
  | .notImplemented | .channelUnsupported => 501
  | .badResponseStatus =>
    match f.status with
    | some status => if isHttpStatus status then status else 502
    | none => 502
  | .responseTimeExceeded => 408
  | .providerUnreachable | .badResponseBody => 502
  | .modelPriceError | .invalidApiType => 500

/-- The body that the client receives: the provider's own type and code, else the kind. -/
def body (f : RelayFailure) : Json :=
  .record [.of "error" (.record [
    .of "message" (.str f.message),
    .of "type" (.str (f.providerType.getD f.kind.code)),
    .of "code" (.str (f.providerCode.getD f.kind.code))])]

def invalidInput (message : String) : RelayFailure := ⟨.invalidInput, message, none, none, none⟩

def notImplemented (message : String) : RelayFailure := ⟨.notImplemented, message, none, none, none⟩

def badBody (message : String) : RelayFailure := ⟨.badResponseBody, message, none, none, none⟩

def unreadableBody (detail : String) : RelayFailure :=
  badBody ("unmarshal response body failed: " ++ detail)

def brokenBody (detail : String) : RelayFailure :=
  badBody ("read response body failed: " ++ detail)

def unreachable (timedOut : Bool) (detail : String) : RelayFailure :=
  ⟨.providerUnreachable,
    (if timedOut then "upstream request timed out: " else "do request failed: ") ++ detail,
    none, none, none⟩

end RelayFailure

inductive BalanceError where
  | noChannel (model : String)
  | noKeys (channel : Int)
  deriving DecidableEq, Repr

def BalanceError.message : BalanceError → String
  | .noChannel model => "No enabled channel serves model " ++ model
  | .noKeys channel => "Channel " ++ Text.ofInt channel ++ " has no API keys"

inductive GatewayError where
  | http (detail : String)
  | json (detail : String)
  | database (detail : String)
  | inputOutput (detail : String)
  | balance (cause : BalanceError)
  | relay (failure : RelayFailure)
  | config (detail : String)
  | timeParse (detail : String)
  | badRequest (detail : String)
  | notFound (detail : String)
  | batchRunning
  deriving DecidableEq, Repr

namespace GatewayError

def message : GatewayError → String
  | .http detail => "HTTP error: " ++ detail
  | .json detail => "JSON error: " ++ detail
  | .database detail => "Database error: " ++ detail
  | .inputOutput detail => "IO error: " ++ detail
  | .balance cause => "Balance error: " ++ cause.message
  | .relay failure => failure.message
  | .config detail => "Config error: " ++ detail
  | .timeParse detail => "Time parse error: " ++ detail
  | .badRequest detail => "Bad request: " ++ detail
  | .notFound detail => "Not found: " ++ detail
  | .batchRunning => "channel test is already running, please wait for it to finish"

def httpStatus : GatewayError → Nat
  | .badRequest _ => 400
  | .notFound _ => 404
  | .batchRunning => 409
  | .balance _ => 503
  | .relay failure => failure.httpStatus
  | .http _ => 502
  | .json _ | .database _ | .inputOutput _ | .config _ | .timeParse _ => 500

def body : GatewayError → Json
  | .relay failure => failure.body
  | e => .record [.of "success" (.bool false), .of "message" (.str e.message)]

end GatewayError

/-- The end of a relay without a result: a failure, or a crash, where a token count overflows 32
bits or a stream begins with a byte order mark. -/
inductive Halt where
  | failed (failure : RelayFailure)
  | crashed
  deriving DecidableEq, Repr

end ModelGateway
