import ModelGateway.Channel.Basic
import ModelGateway.Failure
import ModelGateway.Request.Chat

/-!
# Requests that test a channel

The smallest request that exercises a kind of answer on a model, and the model that a channel is
tested with.
-/

namespace ModelGateway

inductive TestKind where
  | text
  | function
  | json
  deriving DecidableEq, Repr

namespace TestKind

def name : TestKind → String
  | .text => "text"
  | .function => "function"
  | .json => "json"

def unknown (name : String) : GatewayError :=
  .badRequest ("unknown test type " ++ name ++ ", expected text, function or json")

/-- Reads a kind without regard to case and blanks around it; nothing means text. -/
def parse (raw : Option String) : Except GatewayError TestKind :=
  match Text.lowerAscii (Text.trim (raw.getD "")) with
  | "" | "text" => .ok .text
  | "function" => .ok .function
  | "json" => .ok .json
  | other => .error (unknown other)

end TestKind

namespace TestRequest

def fallbackModel : String := "gpt-4o-mini"

/-- The requested model, else the channel's test model, else its first model. -/
def modelFor (channel : Channel) (requested : Option String) : String :=
  (((requested.bind Text.nonBlank?).or (channel.testModel.bind Text.nonBlank?)).or
    channel.modelList.head?).getD fallbackModel

def plainMaxTokens? (model : String) : Option Nat :=
  if Text.containsText "thinking" model then
    if Text.containsText "claude" model then none else some 64
  else if Text.containsText "gemini" model then some 128
  else some 64

def limited (model : String) : ChatRequest :=
  if Text.startsWith "o" model then
    { model, maxCompletionTokens := some 32, temperature := some 0.0 }
  else { model, maxTokens := plainMaxTokens? model, temperature := some 0.0 }

def integerSchema : Json := .obj [("type", .str "integer")]

def sumTool : ToolDefinition where
  function := {
    name := "add"
    description := some "Sum two integers"
    parameters := some (.object [
      ("type", .str "object"),
      ("properties", .object [("a", integerSchema), ("b", integerSchema)]),
      ("required", .strings ["a", "b"]),
      ("additionalProperties", .bool false)]) }

def jsonInstruction : String :=
  "Return ONLY a valid JSON object. No prose, no code fences, no explanations."

def jsonQuestion (model : String) : String :=
  "Return a minimal JSON with fields: \x7b\"ok\": true, \"model\": \"" ++ model ++
    "\", \"ts\": current unix timestamp integer\x7d."

def functionInstruction : String :=
  "You are a function-calling assistant. Prefer calling tools when available."

/-- The request for a model; a model for embeddings gets an input and no messages. -/
def build (model : String) (kind : TestKind) : ChatRequest :=
  if ModelName.isEmbedding model then { model, input := some (.strings ["hello world"]) }
  else
    let r := limited model
    match kind with
    | .text => { r with messages := [.ofText "user" "hi"] }
    | .json =>
      { r with
        messages := [.ofText r.systemRole jsonInstruction, .ofText "user" (jsonQuestion model)]
        responseFormat := some { kind := "json_object" } }
    | .function =>
      { r with
        messages := [.ofText r.systemRole functionInstruction, .ofText "user" "Please add 2 and 3."]
        tools := some [sumTool]
        toolChoice := some (.str "required") }

end TestRequest

end ModelGateway
