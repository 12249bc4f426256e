import ModelGateway.PromptCache.Store
import ModelGateway.Relay.ProviderError
import ModelGateway.Wire.Basic
import ModelGateway.Wire.Gemini.Caching

/-!
# Relaying a request

One round: the request is converted, prepared and sent, and what comes back is handled.  Whatever
fails before the handler has written nothing to the client.
-/

namespace ModelGateway

structure Services (σ : Type) where
  gemini : GeminiSettings
  cache : Option (PromptCacheSettings × PromptCache.Store σ)
  network : Network σ

/-- The call as it was sent, what was written to the client, and the usage or the halt. -/
structure Relayed where
  call : Call
  writes : List Write
  outcome : Except Halt Usage

namespace Relay

def fail (call : Call) (f : RelayFailure) : Relayed := ⟨call, [], .error (.failed f)⟩

def prepare (services : Services σ) (call : Call) (body : Json) : StateM σ (Json × Call) :=
  match call.wire with
  | .gemini => Wire.Gemini.prepare services.gemini services.cache services.network call body
  | _ => return (body, call)

def httpRequest (g : GeminiSettings) (call : Call) (body : Json) :
    Except RelayFailure HttpRequest := do
  let url ← Wire.url g call
  let header ← Wire.authorization call
  return ⟨.post, url, [jsonHeader, header], some body, call.timeoutMs⟩

def send (services : Services σ) (call : Call) (body : Json) :
    StateM σ (Except RelayFailure HttpResponse) := do
  match httpRequest services.gemini call body with
  | .error f => return .error f
  | .ok request =>
    match ← services.network request with
    | .response r => return .ok r
    | .timedOut detail => return .error (.unreachable true detail)
    | .notReached detail => return .error (.unreachable false detail)

def statusFailure (r : HttpResponse) : RelayFailure :=
  match r.body.whole? with
  | some octets => ProviderError.ofBody r.status octets
  | none => ProviderError.ofBrokenBody r.status r.body.detail

def finish (g : GeminiSettings) (call : Call) (answer : Except RelayFailure HttpResponse) :
    StateM Stamp Relayed := do
  match answer with
  | .error f => return fail call f
  | .ok r =>
    if r.status ≠ 200 then return fail call (statusFailure r)
    let handled ← Wire.handle g call r
    return ⟨call, handled.writes, handled.outcome⟩

def once (services : Services σ) (call : Call) (request : Request) :
    StateM (σ × Stamp) Relayed := fun (s, stamp) =>
  match Wire.convert services.gemini call request with
  | .error f => (fail call f, s, stamp)
  | .ok (body, call) =>
    let ((body, call), s) := prepare services call body s
    let (answer, s) := send services call body s
    let (relayed, stamp) := finish services.gemini call answer stamp
    (relayed, s, stamp)

end Relay

end ModelGateway
