import ModelGateway.Sse.Reader
import ModelGateway.Wire.Gemini.Response

/-!
# Handling Gemini responses

Chat, whole and streamed, embeddings, images, and native responses, which pass unchanged.
-/

namespace ModelGateway.Wire.Gemini

open Json (Decoder RecordReader)

def noCandidates (r : ChatResponse) : RelayFailure :=
  .badBody ("no candidates returned: " ++
    (r.promptFeedback.bind PromptFeedback.blockReason).getD "empty response")

/-- Reported usage, else an estimate from the visible text of all candidates. -/
def ChatResponse.usage (call : Call) (r : ChatResponse) : Except Halt Usage :=
  match r.reported? with
  | some m => m.usage
  | none => estimatedUsage call (String.join (r.candidates.map Candidate.visibleText))

def handleChat (call : Call) (body : Body) : StateM Stamp Handled := do
  match body.whole? with
  | none => return .fail (.brokenBody body.detail)
  | some octets =>
    match decodeBody? ChatResponse.decoder octets with
    | none => return .fail (.unreadableBody body.detail)
    | some r =>
      if r.candidates.isEmpty then return .fail (noCandidates r)
      match r.usage call with
      | .error h => return ⟨[], .error h⟩
      | .ok usage =>
        let c ← completion call.requestedModel usage r
        return ⟨Write.json 200 c.json, .ok usage⟩

/-- The fields that all chunks share, and the state of the stream. -/
structure ChatStream where
  id : String
  created : Nat
  model : String
  isFirst : Bool := true
  usage : Option Usage := none
  text : String := ""
  deriving DecidableEq, Repr

def ChatStream.chunk (s : ChatStream) (choices : List Delta) : Chunk :=
  { id := s.id, created := s.created, model := s.model, choices }

def responseOf? (data : String) : Option ChatResponse :=
  decodeBody? ChatResponse.decoder (Utf8.encode data)

def ChatStream.step (s : ChatStream) (r : ChatResponse) :
    StateM Stamp (Except Halt (ChatStream × List Write)) := do
  let reported : Except Halt (Option Usage) :=
    match r.reported? with
    | some m => m.usage.map some
    | none => .ok s.usage
  match reported with
  | .error h => return .error h
  | .ok usage =>
    let s := { s with usage }
    if r.candidates.isEmpty then return .ok (s, [])
    let choices ← deltasFrom s.isFirst 0 r.candidates
    let text := s.text ++ String.join (r.candidates.map Candidate.visibleText)
    return .ok ({ s with text, isFirst := false }, [(s.chunk choices).write])

/-- The chunks for the events; blank events and those that are no response are passed over. -/
def ChatStream.run : ChatStream → List Sse.Event →
    StateM Stamp (List Write × Except Halt ChatStream)
  | s, [] => pure ([], .ok s)
  | s, e :: rest => do
    let data := Text.trim e.data
    match if data.isEmpty then none else responseOf? data with
    | none => run s rest
    | some r =>
      match ← s.step r with
      | .error h => return ([], .error h)
      | .ok (s, here) =>
        let (later, outcome) ← run s rest
        return (here ++ later, outcome)

def ChatStream.tail (s : ChatStream) (usage : Usage) : Chunk :=
  { s.chunk [] with usage := some usage }

def handleChatStream (call : Call) (body : Body) : StateM Stamp Handled := do
  let id ← completionId
  let now := (← get).now
  match Sse.read body.octets with
  | .error _ => return .crash [Write.startEvents]
  | .ok events =>
    let (writes, outcome) ←
      ChatStream.run { id, created := now, model := call.requestedModel } events
    match outcome with
    | .error h => return ⟨Write.startEvents :: writes, .error h⟩
    | .ok s =>
      match s.usage.elim (estimatedUsage call s.text) .ok with
      | .error h => return ⟨Write.startEvents :: writes, .error h⟩
      | .ok usage =>
        let tail := if call.includeUsage then [(s.tail usage).write] else []
        return ⟨Write.startEvents :: (writes ++ tail ++ [Write.done]), .ok usage⟩

structure EmbeddingResponse where
  values : List Float
  deriving DecidableEq

def EmbeddingResponse.decoder : Decoder EmbeddingResponse :=
  let values : Decoder (List Float) :=
    (id <$> .withDefault "values" (.list .float) [] : RecordReader _).decoder
  (EmbeddingResponse.mk <$> .required "embedding" values : RecordReader _).decoder

def EmbeddingResponse.listJson (r : EmbeddingResponse) (model : String) (usage : Usage) : Json :=
  .record [
    .of "object" (.str "list"),
    .of "data" (.arr [.record [
      .of "object" (.str "embedding"),
      .of "embedding" (.arr (r.values.map .float)),
      .of "index" (.nat 0)]]),
    .of "model" (.str model),
    .of "usage" usage.json]

def handleEmbedding (call : Call) (body : Body) : Handled :=
  match body.whole? with
  | none => .fail (.brokenBody body.detail)
  | some octets =>
    match decodeBody? EmbeddingResponse.decoder octets with
    | none => .fail (.unreadableBody body.detail)
    | some r =>
      .after (Usage.ofCounts call.promptTokens 0) fun usage =>
        Write.json 200 (r.listJson call.requestedModel usage)

def tokensPerImage : UInt32 := 258

structure Prediction where
  mimeType : String
  data : String
  filteredReason : Option String
  deriving DecidableEq, Repr

def Prediction.decoder : Decoder Prediction :=
  (Prediction.mk <$> .withDefault "mimeType" .string ""
    <*> .withDefault "bytesBase64Encoded" .string ""
    <*> .nullable "raiFilteredReason" .string : RecordReader _).decoder

def predictions : Decoder (List Prediction) :=
  (id <$> .withDefault "predictions" (.list Prediction.decoder) [] : RecordReader _).decoder

def Prediction.isKept (p : Prediction) : Bool :=
  p.filteredReason.all String.isEmpty

def imagesJson (created : Nat) (images : List Prediction) : Json :=
  .record [
    .of "created" (.nat created),
    .of "data" (.arr (images.map fun p => .record [.of "b64_json" (.str p.data)]))]

def handleImage (body : Body) : StateM Stamp Handled := do
  let now := (← get).now
  match body.whole? with
  | none => return .fail (.brokenBody body.detail)
  | some octets =>
    match decodeBody? predictions octets with
    | none => return .fail (.unreadableBody body.detail)
    | some [] => return .fail (.badBody "no images generated")
    | some ps =>
      let kept := ps.filter Prediction.isKept
      if kept.isEmpty then
        return .fail (.badBody "all generated images were removed by safety filtering")
      let usage := do Usage.ofCounts (← Usage.mul? tokensPerImage kept.length.toUInt32) 0
      return .after usage fun _ => Write.json 200 (imagesJson now kept)

def nativeUsage (call : Call) (metadata : Option UsageMetadata) : Except Halt Usage :=
  match metadata with
  | some m => m.usage
  | none => Usage.ofCounts call.promptTokens 0

def handleNative (call : Call) (body : Body) : Handled :=
  match body.whole? with
  | none => .fail (.brokenBody body.detail)
  | some octets =>
    match decodeBody? ChatResponse.decoder octets with
    | none => .fail (.unreadableBody body.detail)
    | some r => .after (nativeUsage call r.usageMetadata) fun _ => Write.rawJson 200 octets

/-- Forwards every event that is not blank; the usage is that of the last response that has one. -/
def forwardNative : (usage : Option Usage) → List Sse.Event →
    List Write × Except Halt (Option Usage)
  | usage, [] => ([], .ok usage)
  | usage, e :: rest =>
    if Text.isBlankText e.data then forwardNative usage rest
    else
      let reported : Except Halt (Option Usage) :=
        match (responseOf? e.data).bind ChatResponse.usageMetadata with
        | some m => m.usage.map some
        | none => .ok usage
      match reported with
      | .error h => ([], .error h)
      | .ok usage =>
        let (writes, outcome) := forwardNative usage rest
        (Write.data e.data :: writes, outcome)

def handleNativeStream (call : Call) (body : Body) : Handled :=
  match Sse.read body.octets with
  | .error _ => .crash [Write.startEvents]
  | .ok events =>
    let (writes, outcome) := forwardNative none events
    ⟨Write.startEvents :: writes,
      match outcome with
      | .error h => .error h
      | .ok (some usage) => .ok usage
      | .ok none => Usage.ofCounts call.promptTokens 0⟩

end ModelGateway.Wire.Gemini
