import ModelGateway.Balancer
import ModelGateway.Relay.Call

/-!
# Routing

How a request for a model becomes a call: the pool of channels for its mode, the choice of a channel
and a key, and the channel's aliases.
-/

namespace ModelGateway.Routing

def modelMissing : GatewayError := .relay (.invalidInput "model is required")

/-- The channels that can serve a mode; a native body needs the channels of its provider. -/
def pool (mode : RelayMode) (channels : List Channel) : List Channel :=
  match mode with
  | .native => channels.filter (·.provider == .gemini)
  | _ => channels

def callTo (s : RelaySettings) (model : String) (mode : RelayMode)
    (choice : Except BalanceError (Channel × String)) : Except GatewayError Call :=
  match choice with
  | .error e => .error (.balance e)
  | .ok (channel, key) =>
    (Call.prepare channel key model mode (s.timeoutSecs * 1000)).mapError .relay

def route (s : RelaySettings) (dice : Balancer.Dice) (listed : Except GatewayError (List Channel))
    (model : String) (mode : RelayMode) : StateM Rotation (Except GatewayError Call) := do
  if Text.isBlankText model then return .error modelMissing
  match listed with
  | .error e => return .error e
  | .ok channels =>
    return callTo s model mode (← Balancer.select s.strategy dice (pool mode channels) model)

end ModelGateway.Routing
