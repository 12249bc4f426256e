import ModelGateway.Health.Monitor
import ModelGateway.Relay.Settlement

/-!
# Testing by relaying

A test relays a small request through a channel, with the first of its keys, and pays for it like
anyone else.
-/

namespace ModelGateway.Tester

def untestable (name : String) : RelayFailure :=
  ⟨.channelUnsupported, name ++ " channel test is not supported", none, none, none⟩

def keyless : RelayFailure := .invalidInput "channel has no api key"

/-- Providers of embeddings alone are tested with an embedding, whatever the model. -/
def modeFor (channel : Channel) (model : String) : RelayMode :=
  if ModelName.isEmbedding model || channel.provider.embeddingOnly then .embeddings else .chat

def requestFor (call : Call) (kind : TestKind) : Call × Request :=
  let request := TestRequest.build call.providerModel kind
  match call.mode with
  | .embeddings => (call, .embedding { model := call.providerModel, input := request.input })
  | _ => (call.withChat request, .chat request)

/-- The order for the test of a channel, at the price of the tested model. -/
def order (s : Settings) (channel : Channel) (model : String) (kind : TestKind) :
    Except RelayFailure Order := do
  if let some name := channel.provider.untestableName? then throw (untestable name)
  let some key := channel.keys.head? | throw keyless
  let call ← Call.prepare channel key model (modeFor channel model) (s.relay.timeoutSecs * 1000)
  let price ← s.pricing.priceFor call.requestedModel
  let (call, request) := requestFor call kind
  return ⟨call, request, price, "channel test", kind.name ++ " test"⟩

/-- The failure that an outcome means for a test; none if the relay crashed. -/
def failure? : Except Halt Usage → Option (Option RelayFailure)
  | .ok _ => some none
  | .error (.failed f) => some (some f)
  | .error .crashed => none

/-- Tests a channel; every test is taken to last `elapsedNanos`. -/
def probe (s : Settings) (network : Network σ) (elapsedNanos : Nat) : Probe (RelayState σ) :=
  fun channel requested kind => do
    let model := TestRequest.modelFor channel requested
    match order s channel model kind with
    | .error f => return ⟨0, some ⟨model, elapsedNanos, some f⟩⟩
    | .ok order =>
      let relayed ← order.run s network
      return ⟨0, (failure? relayed.outcome).map (⟨model, elapsedNanos, ·⟩)⟩

end ModelGateway.Tester
