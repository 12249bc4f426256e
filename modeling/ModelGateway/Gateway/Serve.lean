import ModelGateway.Gateway.Basic
import ModelGateway.Gateway.Endpoint

/-!
# Serving clients

A request goes from the outside in: a preflight is answered at once, a body that is not JSON is
refused on every path, and then the endpoint answers.
-/

namespace ModelGateway

/-- What a client asked the gateway to relay. -/
structure ClientCall where
  model : String
  request : Request
  isStream : Bool
  deriving DecidableEq

namespace ClientCall

def ofChat (r : ChatRequest) : ClientCall := ⟨r.model, .chat r, r.stream⟩

def ofEmbedding (r : EmbeddingRequest) : ClientCall := ⟨r.model, .embedding r, false⟩

def ofImage (r : ImageRequest) : ClientCall := ⟨r.model, .image r, false⟩

def complete (c : ClientCall) (call : Call) : Call :=
  match c.request with
  | .chat r => call.withChat r
  | _ => { call with isStream := c.isStream }

end ClientCall

namespace Gateway

/-- The order for a client's call; its price is that of the model that was asked for. -/
def order (settings : Settings) (c : ClientCall) (tokenName : String) (call : Call) :
    Except GatewayError Order :=
  match settings.pricing.priceFor call.requestedModel with
  | .error f => .error (.relay f)
  | .ok price =>
    .ok ⟨c.complete call, c.request, price, tokenName, c.request.capability ++ " relay"⟩

def serveCall (env : Surroundings σ) (tokenName : String) (c : ClientCall) :
    StateM (Gateway σ) ClientResponse := do
  match ← route env c.model c.request.mode with
  | .error e => return .ofError e
  | .ok call =>
    match order (← get).settings c tokenName call with
    | .error e => return .ofError e
    | .ok order => return (← relay env order).response

def tokenName (request : ClientRequest) : String :=
  Credential.tokenName (request.header? Headers.authorizationName)

def serveBody (env : Surroundings σ) (decoder : Json.Decoder α) (call : α → ClientCall)
    (request : ClientRequest) : StateM (Gateway σ) ClientResponse :=
  match RequestBody.decode decoder request with
  | .error r => return r.response
  | .ok body => serveCall env (tokenName request) (call body)

/-- Serves a native body.  The action in the path is read after the body. -/
def serveNative (env : Surroundings σ) (target : String) (request : ClientRequest) :
    StateM (Gateway σ) ClientResponse :=
  match Url.pathText? target with
  | none => return Refusal.response (.undecodablePath "model_action")
  | some text =>
    match RequestBody.decode Json.Decoder.json request with
    | .error r => return r.response
    | .ok body =>
      match readAction text with
      | .error e => return .ofError e
      | .ok (model, isStream) =>
        serveCall env (tokenName request) ⟨model, .native body, isStream⟩

def testAnswer (success : Bool) (message : String) (seconds : Float) : ClientResponse :=
  .json 200 (.record [
    .of "success" (.bool success), .of "message" (.str message), .of "time" (.float seconds)])

def batchAnswer (success : Bool) (message : String) : ClientResponse :=
  .json 200 (.record [.of "success" (.bool success), .of "message" (.str message)])

def resultAnswer (r : TestResult) : ClientResponse :=
  testAnswer r.failure.isNone ((r.failure.map (·.message)).getD "")
    (Policy.seconds r.elapsedNanos)

def serveTestAll : StateM (Gateway σ) ClientResponse := fun g =>
  match g.monitor.start true none with
  | (.ok (), monitor) => (batchAnswer true "", { g with monitor })
  | (.error e, monitor) => (batchAnswer false e.message, { g with monitor })

/-- Tests a channel.  A test that fails is reported in a regular answer; one that crashes drops the
connection. -/
def runTest (env : Surroundings σ) (id : Int) (query : TestQuery) (kind : TestKind) :
    StateM (Gateway σ) (Option ClientResponse) := fun g =>
  let (result, monitor) :=
    g.monitor.testOne g.settings.health (probe env g.settings) id query.model kind
  let answer :=
    match result with
    | .error e => some (testAnswer false e.message 0.0)
    | .ok result => result.map resultAnswer
  (answer, { g with monitor })

def serveTestOne (env : Surroundings σ) (piece : String) (request : ClientRequest) :
    StateM (Gateway σ) (Option ClientResponse) :=
  match Url.pathText? piece with
  | none => return some (Refusal.response (.undecodablePath "id"))
  | some text =>
    match TestQuery.ofForm request.target.query with
    | .error r => return some r.response
    | .ok query =>
      match readChannelId text, TestKind.parse query.kind with
      | .error e, _ | .ok _, .error e => return some (.ofError e)
      | .ok id, .ok kind => runTest env id query kind

def serveEndpoint (env : Surroundings σ) (e : Endpoint) (request : ClientRequest) :
    StateM (Gateway σ) (Option ClientResponse) :=
  match e with
  | .testAll => some <$> serveTestAll
  | .testOne piece => serveTestOne env piece request
  | .chat => some <$> serveBody env ChatRequest.decoder .ofChat request
  | .embeddings => some <$> serveBody env EmbeddingRequest.decoder .ofEmbedding request
  | .images => some <$> serveBody env ImageRequest.decoder .ofImage request
  | .native target => some <$> serveNative env target request

def dispatch (env : Surroundings σ) (request : ClientRequest) :
    StateM (Gateway σ) (Option ClientResponse) :=
  if !RequestBody.isAcceptable request then return some (Refusal.response .invalidJson)
  else
    match Endpoint.ofRequest request with
    | .error r => return some r.response
    | .ok e => serveEndpoint env e request

/-- Whether HTTP has a body for an answer to a method with a status. -/
def carriesBody (method : String) (status : Nat) : Bool :=
  method != "HEAD" && 200 ≤ status && status != 204 && status != 304

def deliver (request : ClientRequest) (response : ClientResponse) : ClientResponse :=
  CrossOrigin.allow request
    (if carriesBody request.method response.status then response else { response with body := [] })

/-- Serves a request; no response means that the connection is dropped. -/
def serve (env : Surroundings σ) (request : ClientRequest) :
    StateM (Gateway σ) (Option ClientResponse) := do
  if CrossOrigin.isPreflight request then return some (CrossOrigin.preflight request)
  return (← dispatch env request).map (deliver request)

end Gateway

end ModelGateway
