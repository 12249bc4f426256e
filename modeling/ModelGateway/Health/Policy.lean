import ModelGateway.Channel.Basic
import ModelGateway.Failure
import ModelGateway.Number.Fixed
import ModelGateway.Settings.Basic
import ModelGateway.Text.LowerCase

/-!
# When a channel goes out of use and comes back

A failed test takes a channel out of use if the failure tells that the account or the key is no
good; so does one that took too long.  A channel that was taken out of use comes back with the next
test that passes.
-/

namespace ModelGateway

structure TestResult where
  model : String
  elapsedNanos : Nat
  failure : Option RelayFailure
  deriving DecidableEq, Repr

structure Verdict where
  ban : Bool
  failure : Option RelayFailure
  deriving DecidableEq, Repr

namespace Policy

def banningCodes : List String := ["invalid_api_key", "account_deactivated", "billing_not_active"]

def banningTypes : List String :=
  ["insufficient_quota", "authentication_error", "permission_error", "forbidden"]

def hasBanningStatus (s : HealthSettings) (provider : Provider) (f : RelayFailure) : Bool :=
  match f.status with
  | some status => s.disableStatusCodes.contains status || (status == 403 && provider == .gemini)
  | none => false

def hasKeyword (s : HealthSettings) (f : RelayFailure) : Bool :=
  let message := Text.lower f.message
  s.disableKeywords.any fun k => !k.isEmpty && Text.containsText (Text.lower k) message

def shouldDisable (s : HealthSettings) (provider : Provider) (f : RelayFailure) : Bool :=
  s.automaticDisable &&
    (f.kind == .responseTimeExceeded || hasBanningStatus s provider f ||
      f.providerCode.any banningCodes.contains ||
      f.providerType.any (fun t => banningTypes.contains (Text.lowerAscii t)) ||
      hasKeyword s f)

def shouldEnable (s : HealthSettings) (failure : Option RelayFailure) (status : ChannelStatus) :
    Bool :=
  s.automaticEnable && failure.isNone && status == .autoDisabled

def seconds (nanos : Nat) : Float :=
  Number.ofNat (nanos / 1000000000) + Number.ofNat (nanos % 1000000000) / 1000000000.0

def tooSlow (elapsed threshold : Nat) : RelayFailure :=
  ⟨.responseTimeExceeded,
    "response time " ++ Number.twoPlaces (seconds elapsed) ++ "s exceeds threshold " ++
      Number.twoPlaces (seconds threshold) ++ "s", some 408, none, none⟩

/-- The verdict on a test; none if the latency is to be compared with a threshold that is no
duration. -/
def judge? (s : HealthSettings) (channel : Channel) (result : TestResult) : Option Verdict :=
  if result.failure.any (shouldDisable s channel.provider) then some ⟨true, result.failure⟩
  else if !s.automaticDisable then some ⟨false, result.failure⟩
  else
    match s.threshold with
    | .off => some ⟨false, result.failure⟩
    | .unrepresentable => none
    | .nanos threshold =>
      if threshold < result.elapsedNanos then
        some ⟨true, some (tooSlow result.elapsedNanos threshold)⟩
      else some ⟨false, result.failure⟩

end Policy

end ModelGateway
