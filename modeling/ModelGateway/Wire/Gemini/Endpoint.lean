import ModelGateway.Credential
import ModelGateway.Wire.Gemini.Conversion
import ModelGateway.Wire.Gemini.Handlers

/-!
# The Gemini wire

Which endpoint a call goes to, with which body, and how the answer is handled.  A thinking suffix is
part of the name for the provider, but not of the name in the address.
-/

namespace ModelGateway.Wire.Gemini

def addressedModel (s : GeminiSettings) (call : Call) : String :=
  if s.thinkingAdapterEnabled then (ModelName.parseThinking call.providerModel).1
  else call.providerModel

inductive Endpoint where
  | predict
  | embed
  | stream
  | generate
  deriving DecidableEq, Repr

def Endpoint.action : Endpoint → String
  | .predict => "predict"
  | .embed => "embedContent"
  | .stream => "streamGenerateContent?alt=sse"
  | .generate => "generateContent"

/-- The endpoint for a call; the name of the model takes precedence over the mode. -/
def Endpoint.of (model : String) (call : Call) : Endpoint :=
  if ModelName.isImagen model then .predict
  else if ModelName.isGeminiEmbedding model || call.mode == .embeddings then .embed
  else if call.isStream then .stream
  else .generate

def url (s : GeminiSettings) (call : Call) : String :=
  let model := addressedModel s call
  Text.trimEndSlashes call.baseUrl ++ "/" ++ s.versionFor model ++ "/models/" ++ model ++ ":" ++
    (Endpoint.of model call).action

def keyHeader : String := "x-goog-api-key"

def authorization (call : Call) : Except RelayFailure (String × String) :=
  if Credential.isSendable call.apiKey then .ok (keyHeader, call.apiKey)
  else .error (.invalidInput "api key contains invalid header characters")

def invalidBody : RelayFailure := .invalidInput "invalid gemini request: "

def ChatBody.texts (b : ChatBody) : List String :=
  (b.systemInstruction.toList ++ b.contents).flatMap Content.texts

def unsupported (request : Request) : RelayFailure :=
  .notImplemented (request.capability ++ " is not supported by google gemini")

/-- The body for a request, and the call with its prompt tokens. -/
def convert (s : GeminiSettings) (call : Call) (request : Request) :
    Except RelayFailure (Json × Call) :=
  match request with
  | .chat r => (chatBody r call.providerModel s).map fun b => (b.json.sorted, call)
  | .embedding r =>
    (embeddingBody r (addressedModel s call)).map fun b =>
      (b.json.sorted,
        { call with promptTokens := (max (Tokens.ofTexts b.content.texts) 1).toUInt32 })
  | .image r => (imageBody r (addressedModel s call)).map fun b => (b.json.sorted, call)
  | .native body =>
    match ChatBody.decoder .json body.document with
    | .ok b => .ok (body, { call with promptTokens := Tokens.count b.texts })
    | .error _ => .error invalidBody
  | .rerank _ | .speech _ => .error (unsupported request)

/-- The handler for a call, chosen as its endpoint is; a native body is answered natively. -/
def handle (s : GeminiSettings) (call : Call) (body : Body) : StateM Stamp Handled :=
  if call.mode = .native then
    pure (if call.isStream then handleNativeStream call body else handleNative call body)
  else
    match Endpoint.of (addressedModel s call) call with
    | .predict => handleImage body
    | .embed => pure (handleEmbedding call body)
    | .stream => handleChatStream call body
    | .generate => handleChat call body

end ModelGateway.Wire.Gemini
