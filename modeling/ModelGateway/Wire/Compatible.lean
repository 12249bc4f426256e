import ModelGateway.Credential
import ModelGateway.Json.Reader
import ModelGateway.Relay.Call
import ModelGateway.Relay.Exchange
import ModelGateway.Sse.Reader

/-!
# The compatible wire

Providers that speak the gateway's own form.  The body is the request under the provider's name of
the model; a stream always asks for usage, so that the call can be settled, and a chunk that carries
nothing else is kept from clients that did not ask.  Responses pass unchanged.
-/

namespace ModelGateway.Wire.Compatible

def modePath (mode : RelayMode) : Except RelayFailure String :=
  match mode with
  | .chat => .ok "chat/completions"
  | .embeddings => .ok "embeddings"
  | .images => .ok "images/generations"
  | .rerank => .ok "rerank"
  | .speech => .ok "audio/speech"
  | .native => .error (.notImplemented "native gemini requests need a gemini channel")

def url (root : String) (call : Call) : Except RelayFailure String :=
  (modePath call.mode).map fun path => Text.trimEndSlashes call.baseUrl ++ root ++ path

def openaiRoot : String := "/v1/"

def authorization (call : Call) : Except RelayFailure (String × String) :=
  let value := "Bearer " ++ call.apiKey
  if Credential.isSendable value then .ok ("authorization", value)
  else .error (.invalidInput "api key contains invalid header characters")

def askingForUsage (r : ChatRequest) : ChatRequest :=
  if r.stream then { r with streamOptions := some { includeUsage := true } } else r

/-- The body under the provider's model name, and the call with its prompt tokens. -/
def convert (call : Call) (request : Request) : Except RelayFailure (Json × Call) :=
  let named (j : Json) : Json := j.sorted.withMember "model" (.str call.providerModel)
  match request with
  | .chat r => .ok (named (askingForUsage r).json, call)
  | .embedding r =>
    if r.inputs.all Text.isBlankText then .error (.invalidInput "embedding input is empty")
    else .ok (named r.json, { call with promptTokens := Tokens.count r.inputs })
  | .image r => .ok (named r.json, call)
  | .rerank r => .ok (named r.json, call)
  | .speech r => .ok (named r.json, { call with promptTokens := Tokens.count [r.input] })
  | .native _ =>
    .error (.notImplemented "native requests are not supported by openai compatible channels")

/-- The string at the content of the first choice's message or delta. -/
def firstChoiceText? (part : String) (response : Json) : Option String :=
  (response.at? ["choices", "0", part, "content"]).bind Json.str?

/-- The message of an error object in a response with status 200. -/
def errorObject? (response : Json) : Option String :=
  match response.get? "error" with
  | none => none
  | some error =>
    if error.isNull then none
    else some (((error.get? "message").bind Json.str?).getD "upstream returned an error object")

/-- The reported usage, else an estimate from the visible text. -/
def usageOf (call : Call) (response : Json) : Except Halt Usage := do
  match ← Usage.ofResponse? response with
  | some u => .ok u
  | none =>
    let words := (firstChoiceText? "message" response).elim [] ([·])
    Usage.ofCounts call.promptTokens (Tokens.count words)

def handleJson (call : Call) (body : Body) : Handled :=
  match body.whole? with
  | none => .fail (.brokenBody body.detail)
  | some octets =>
    match Json.read? octets with
    | none => .fail (.unreadableBody body.detail)
    | some response =>
      match errorObject? response with
      | some message => .fail (.badBody message)
      | none => .after (usageOf call response) fun _ => Write.rawJson 200 octets

def defaultContentType : String := "application/octet-stream"

def handleBinary (call : Call) (response : HttpResponse) : Handled :=
  match response.body.whole? with
  | none => .fail (.brokenBody response.body.detail)
  | some octets =>
    let contentType := (response.contentType.bind Credential.headerText?).getD defaultContentType
    match Usage.ofCounts call.promptTokens 0 with
    | .ok u => ⟨[.head 200 contentType, .chunk octets], .ok u⟩
    | .error h => ⟨[.head 200 contentType, .chunk octets], .error h⟩

/-- The state of a stream. -/
structure StreamState where
  usage : Option Usage := none
  text : String := ""
  deriving DecidableEq, Repr

def hasNoChoices (chunk : Json) : Bool :=
  match (chunk.get? "choices").bind Json.items? with
  | some items => items.isEmpty
  | none => true

def observe (call : Call) (s : StreamState) (data : String) : Except Halt (StreamState × Bool) :=
  match Json.readText? data with
  | none => .ok (s, true)
  | some chunk => do
    let reported ← Usage.ofResponse? chunk
    let s := { s with text := s.text ++ (firstChoiceText? "delta" chunk).getD "" }
    match reported with
    | none => .ok (s, true)
    | some u => .ok ({ s with usage := some u }, !hasNoChoices chunk || call.includeUsage)

/-- Forwards the trimmed data of events up to the one that says the stream is done. -/
def forward (call : Call) : StreamState → List Sse.Event → List Write × Except Halt StreamState
  | s, [] => ([], .ok s)
  | s, e :: rest =>
    let data := Text.trim e.data
    if data.isEmpty then forward call s rest
    else if data = "[DONE]" then ([], .ok s)
    else
      match observe call s data with
      | .error h => ([], .error h)
      | .ok (s, forwarded) =>
        let (writes, outcome) := forward call s rest
        (if forwarded then Write.data data :: writes else writes, outcome)

def handleStream (call : Call) (body : Body) : Handled :=
  match Sse.read body.octets with
  | .error _ => .crash [Write.startEvents]
  | .ok events =>
    match forward call {} events with
    | (writes, .error h) => ⟨Write.startEvents :: writes, .error h⟩
    | (writes, .ok s) =>
      let usage :=
        match s.usage with
        | some u => .ok u
        | none => Usage.ofCounts call.promptTokens (Tokens.count [s.text])
      ⟨Write.startEvents :: (writes ++ [Write.done]), usage⟩

def handle (call : Call) (response : HttpResponse) : Handled :=
  match call.mode with
  | .chat =>
    if call.isStream then handleStream call response.body else handleJson call response.body
  | .speech => handleBinary call response
  | _ => handleJson call response.body

end ModelGateway.Wire.Compatible
