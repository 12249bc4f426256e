import ModelGateway.Json.Reader
import ModelGateway.Relay.Call
import ModelGateway.Settings.Basic
import ModelGateway.Wire.Gemini.Content

/-!
# From chat to Gemini

System and developer messages become one instruction; every other message with something to send
becomes a turn.  A tool's answer is named after the function whose call it answers.  Schemas lose
the keywords that Gemini refuses.
-/

namespace ModelGateway.Wire.Gemini

def splitDataUrl? (url : String) : Option (String × String) := do
  let rest ← Text.afterChars? "data:".toList url.toList
  let (form, data) ← Text.splitAtFirst? [','] rest
  let mime ← Text.beforeChars? ";base64".toList form
  some (String.ofList mime, String.ofList data)

def mimeOfUrl (url : String) : String :=
  let path := Text.lowerAscii (String.ofList (url.toList.takeWhile (· ≠ '?')))
  if Text.endsWith ".png" path then "image/png"
  else if Text.endsWith ".webp" path then "image/webp"
  else if Text.endsWith ".gif" path then "image/gif"
  else if Text.endsWith ".pdf" path then "application/pdf"
  else "image/jpeg"

def partOfImage (url : String) : Part :=
  match splitDataUrl? url with
  | some (mime, data) => { inlineData := some ⟨mime, data⟩ }
  | none => { fileData := some ⟨mimeOfUrl url, url⟩ }

def partOf? (p : ContentPart) : Option Part :=
  match p.kind with
  | "text" => p.text.bind fun t => if t.isEmpty then none else some (.ofText t)
  | "image_url" => p.imageUrl.map fun i => partOfImage i.url
  | _ => none

/-- A call with its arguments parsed; arguments that are no JSON count as none. -/
def callPart (c : ToolCall) : Part :=
  .ofCall ⟨c.function.name, (Json.readText? c.function.arguments).getD (.obj [])⟩

def messageParts (m : Message) : List Part :=
  m.parts.filterMap partOf? ++ (m.toolCalls.getD []).map callPart

/-- The role of a message in a Gemini request. -/
inductive Speaker where
  | system
  | tool
  | model
  | user
  deriving DecidableEq, Repr

def Speaker.ofRole (role : String) : Speaker :=
  match role with
  | "system" | "developer" => .system
  | "tool" | "function" => .tool
  | "assistant" => .model
  | _ => .user

/-- The names of the functions called so far, by the id of the call. -/
abbrev CallNames := List (String × String)

def CallNames.add (names : CallNames) (m : Message) : CallNames :=
  ((m.toolCalls.getD []).reverse.map fun c => (c.id, c.function.name)) ++ names

/-- A tool's answer: an object as it is, other text as its content. -/
def toolResponse (text : String) : Json :=
  match Json.readText? text with
  | some (.obj members) => .obj members
  | _ => .obj [("content", .str text)]

def toolTurn (names : CallNames) (m : Message) : Content :=
  let called := m.toolCallId.bind fun id => names.lookup id
  let name := (called.or m.name).getD ""
  { role := some "user"
    parts := [{ functionResponse := some ⟨name, toolResponse m.text⟩ }] }

/-- The turns of the messages, given the calls made before them. -/
def turns : CallNames → List Message → List Content
  | _, [] => []
  | names, m :: rest =>
    match Speaker.ofRole m.role with
    | .system => turns names rest
    | .tool => toolTurn names m :: turns names rest
    | speaker =>
      let later := turns (names.add m) rest
      let parts := messageParts m
      if parts.isEmpty then later
      else { role := some (if speaker = .model then "model" else "user"), parts } :: later

def systemTexts (messages : List Message) : List String :=
  (messages.filter (Speaker.ofRole ·.role = .system)).filterMap fun m =>
    if m.text.isEmpty then none else some m.text

def systemInstruction? (messages : List Message) : Option Content :=
  match systemTexts messages with
  | [] => none
  | texts => some { parts := [.ofText ("\n".intercalate texts)] }

def refusedKeywords : List String := ["additionalProperties", "$schema", "strict"]

mutual

def cleanSchema : Json → Json
  | .null => .null
  | .bool b => .bool b
  | .num n => .num n
  | .str s => .str s
  | .arr items => .arr (cleanItems items)
  | .obj members => .obj (cleanMembers members)

def cleanItems : List Json → List Json
  | [] => []
  | x :: rest => cleanSchema x :: cleanItems rest

def cleanMembers : List (String × Json) → List (String × Json)
  | [] => []
  | (k, x) :: rest =>
    if k ∈ refusedKeywords then cleanMembers rest else (k, cleanSchema x) :: cleanMembers rest

end

def stopSequences? (stop : Option Json) : Option (List String) :=
  match stop with
  | some (.str s) => if s.isEmpty then none else some [s]
  | some (.arr items) =>
    let ss := items.filterMap Json.str?
    if ss.isEmpty then none else some ss
  | _ => none

def clampBudget (model : String) (budget : Nat) : Nat :=
  if Text.containsText "2.5-pro" model then max 128 (min budget 32768)
  else if Text.containsText "flash-lite" model then max 512 (min budget 24576)
  else min budget 24576

def thinkingConfig? (model : String) : Option ThinkingConfig :=
  match ModelName.parseThinking model with
  | (_, .unspecified) => none
  | (_, .off) => some { thinkingBudget := some 0 }
  | (base, .on budget) =>
    some { thinkingBudget := budget.map (clampBudget base), includeThoughts := some true }

def jsonMimeType : String := "application/json"

def withFormat (c : GenerationConfig) (format : Option ResponseFormat) : GenerationConfig :=
  match format with
  | none => c
  | some f =>
    match f.kind with
    | "json_object" => { c with responseMimeType := some jsonMimeType }
    | "json_schema" =>
      { c with
        responseMimeType := some jsonMimeType
        responseSchema := f.schema.bind (Json.get? "schema") }
    | _ => c

def positive? (n : Option Nat) : Option Nat :=
  n.filter (0 < ·)

def generationConfig (r : ChatRequest) (model : String) (s : GeminiSettings) : GenerationConfig :=
  let c : GenerationConfig := {
    temperature := r.temperature
    topP := r.topP
    topK := r.topK
    maxOutputTokens := positive? r.effectiveMaxTokens
    candidateCount := r.n.filter (1 < ·)
    stopSequences := stopSequences? r.stop }
  let c := withFormat c r.responseFormat
  if s.thinkingAdapterEnabled then { c with thinkingConfig := thinkingConfig? model } else c

def harmCategories : List String :=
  ["HARM_CATEGORY_HARASSMENT", "HARM_CATEGORY_HATE_SPEECH", "HARM_CATEGORY_SEXUALLY_EXPLICIT",
    "HARM_CATEGORY_DANGEROUS_CONTENT", "HARM_CATEGORY_CIVIC_INTEGRITY"]

def safetySettings (s : GeminiSettings) : List SafetySetting :=
  match s.safetyThreshold with
  | some threshold => harmCategories.map fun c => ⟨c, threshold⟩
  | none => []

def declaration (t : ToolDefinition) : FunctionDeclaration where
  name := t.function.name
  description := t.function.description
  parameters := t.function.parameters.map cleanSchema

def tools? (r : ChatRequest) : Option (List Tool) :=
  match r.tools with
  | none | some [] => none
  | some ts => some [⟨ts.map declaration⟩]

def toolConfig? (choice : Json) : Option ToolConfig :=
  match choice with
  | .str "required" => some ⟨{ mode := "ANY" }⟩
  | .str "none" => some ⟨{ mode := "NONE" }⟩
  | .str "auto" => some ⟨{ mode := "AUTO" }⟩
  | .obj _ =>
    ((choice.at? ["function", "name"]).bind Json.str?).map fun name =>
      ⟨{ mode := "ANY", allowedFunctionNames := some [name] }⟩
  | _ => none

def chatBody (r : ChatRequest) (model : String) (s : GeminiSettings) :
    Except RelayFailure ChatBody :=
  if r.messages.isEmpty then .error (.invalidInput "messages is required")
  else
    let contents := turns [] r.messages
    if contents.isEmpty then
      .error (.invalidInput "at least one non-system message is required")
    else
      let tools := tools? r
      .ok {
        contents
        systemInstruction := systemInstruction? r.messages
        safetySettings := safetySettings s
        generationConfig := some (generationConfig r model s)
        tools
        toolConfig := if tools.isSome then r.toolChoice.bind toolConfig? else none }

structure EmbeddingBody where
  model : String
  content : Content
  outputDimensionality : Option Nat
  deriving DecidableEq

def EmbeddingBody.json (b : EmbeddingBody) : Json :=
  .record [
    .of "model" (.str b.model),
    .of "content" b.content.json,
    .ifSome "outputDimensionality" .nat b.outputDimensionality]

def embeddingBody (r : EmbeddingRequest) (model : String) : Except RelayFailure EmbeddingBody :=
  if r.input.isNone then .error (.invalidInput "input is required")
  else
    match r.inputs with
    | [] => .error (.invalidInput "input is empty")
    | first :: _ =>
      if first.isEmpty then .error (.invalidInput "input is empty")
      else .ok {
        model := "models/" ++ model
        content := { parts := [.ofText first] }
        outputDimensionality := if model = "embedding-001" then none else positive? r.dimensions }

structure ImageBody where
  prompt : String
  sampleCount : Nat
  aspectRatio : String
  deriving DecidableEq, Repr

def ImageBody.json (b : ImageBody) : Json :=
  .record [
    .of "instances" (.arr [.record [.of "prompt" (.str b.prompt)]]),
    .of "parameters" (.record [
      .of "sampleCount" (.nat b.sampleCount),
      .of "aspectRatio" (.str b.aspectRatio),
      .of "personGeneration" (.str "allow_adult")])]

def aspectRatio (size : Option String) : String :=
  match size.getD "1024x1024" with
  | "1024x1792" => "9:16"
  | "1792x1024" => "16:9"
  | _ => "1:1"

def imageBody (r : ImageRequest) (model : String) : Except RelayFailure ImageBody :=
  if !ModelName.isImagen model then
    .error (.invalidInput ("model " ++ model ++ " does not support image generation"))
  else if Text.isBlankText r.prompt then .error (.invalidInput "prompt is required")
  else .ok ⟨r.prompt, (positive? r.n).getD 1, aspectRatio r.size⟩

end ModelGateway.Wire.Gemini
