import ModelGateway.Json.Record
import ModelGateway.ModelName
import ModelGateway.Tokens

/-!
# Chat requests

The gateway's own form of a chat request.  Members that it does not know are dropped when a request
is read; `json` writes the fields that are present, in the order of their declaration.
-/

namespace ModelGateway

open Json (Decoder RecordReader)

structure ImageUrl where
  url : String
  detail : Option String := none
  deriving DecidableEq, Repr

structure ContentPart where
  kind : String
  text : Option String := none
  imageUrl : Option ImageUrl := none
  deriving DecidableEq, Repr

inductive Content where
  | text (s : String)
  | parts (ps : List ContentPart)
  deriving DecidableEq, Repr

namespace ImageUrl

def decoder : Decoder ImageUrl :=
  (ImageUrl.mk <$> .required "url" .string <*> .nullable "detail" .string : RecordReader _).decoder

def json (i : ImageUrl) : Json :=
  .record [.of "url" (.str i.url), .ifSome "detail" .str i.detail]

end ImageUrl

namespace ContentPart

def ofText (s : String) : ContentPart := ⟨"text", some s, none⟩

def decoder : Decoder ContentPart :=
  (ContentPart.mk <$> .required "type" .string <*> .nullable "text" .string
    <*> .nullable "image_url" ImageUrl.decoder : RecordReader _).decoder

def json (p : ContentPart) : Json :=
  .record [
    .of "type" (.str p.kind),
    .ifSome "text" .str p.text,
    .ifSome "image_url" ImageUrl.json p.imageUrl]

end ContentPart

namespace Content

def decoder : Decoder Content :=
  .either (Decoder.string.mapped .text) ((Decoder.list ContentPart.decoder).mapped .parts)

def json : Content → Json
  | .text s => .str s
  | .parts ps => .arr (ps.map ContentPart.json)

end Content

structure FunctionCall where
  name : String
  arguments : String
  deriving DecidableEq, Repr

structure ToolCall where
  index : Option Nat := none
  id : String
  kind : String := "function"
  function : FunctionCall
  deriving DecidableEq, Repr

structure FunctionDefinition where
  name : String
  description : Option String := none
  parameters : Option Json := none
  deriving DecidableEq

structure ToolDefinition where
  kind : String := "function"
  function : FunctionDefinition
  deriving DecidableEq

namespace FunctionCall

def decoder : Decoder FunctionCall :=
  (FunctionCall.mk <$> .withDefault "name" .string "" <*> .withDefault "arguments" .string ""
    : RecordReader _).decoder

def json (c : FunctionCall) : Json :=
  .record [.of "name" (.str c.name), .of "arguments" (.str c.arguments)]

end FunctionCall

namespace ToolCall

def decoder : Decoder ToolCall :=
  (ToolCall.mk <$> .nullable "index" .nat32 <*> .withDefault "id" .string ""
    <*> .withDefault "type" .string "function" <*> .required "function" FunctionCall.decoder
    : RecordReader _).decoder

def json (c : ToolCall) : Json :=
  .record [
    .ifSome "index" .nat c.index,
    .of "id" (.str c.id),
    .of "type" (.str c.kind),
    .of "function" c.function.json]

end ToolCall

namespace FunctionDefinition

def decoder : Decoder FunctionDefinition :=
  (FunctionDefinition.mk <$> .required "name" .string <*> .nullable "description" .string
    <*> .nullable "parameters" .json : RecordReader _).decoder

def json (f : FunctionDefinition) : Json :=
  .record [
    .of "name" (.str f.name),
    .ifSome "description" .str f.description,
    .ifSome "parameters" id f.parameters]

end FunctionDefinition

namespace ToolDefinition

def decoder : Decoder ToolDefinition :=
  (ToolDefinition.mk <$> .withDefault "type" .string "function"
    <*> .required "function" FunctionDefinition.decoder : RecordReader _).decoder

def json (t : ToolDefinition) : Json :=
  .record [.of "type" (.str t.kind), .of "function" t.function.json]

end ToolDefinition

structure Message where
  role : String
  content : Option Content := none
  name : Option String := none
  toolCalls : Option (List ToolCall) := none
  toolCallId : Option String := none
  deriving DecidableEq, Repr

namespace Message

def ofText (role text : String) : Message := { role, content := some (.text text) }

def decoder : Decoder Message :=
  (Message.mk <$> .required "role" .string <*> .nullable "content" Content.decoder
    <*> .nullable "name" .string <*> .nullable "tool_calls" (.list ToolCall.decoder)
    <*> .nullable "tool_call_id" .string : RecordReader _).decoder

def json (m : Message) : Json :=
  .record [
    .of "role" (.str m.role),
    .ifSome "content" Content.json m.content,
    .ifSome "name" .str m.name,
    .ifSome "tool_calls" (fun cs => .arr (cs.map ToolCall.json)) m.toolCalls,
    .ifSome "tool_call_id" .str m.toolCallId]

def text (m : Message) : String :=
  match m.content with
  | some (.text s) => s
  | some (.parts ps) => "\n".intercalate (ps.filterMap (·.text))
  | none => ""

def parts (m : Message) : List ContentPart :=
  match m.content with
  | some (.text s) => [.ofText s]
  | some (.parts ps) => ps
  | none => []

def countTokens (messages : List Message) : UInt32 :=
  Tokens.count (messages.map text)

end Message

/-! ## Requests -/

structure ResponseFormat where
  kind : String
  schema : Option Json := none
  deriving DecidableEq

structure StreamOptions where
  includeUsage : Bool := false
  deriving DecidableEq, Repr

structure ChatRequest where
  model : String
  messages : List Message := []
  stream : Bool := false
  streamOptions : Option StreamOptions := none
  maxTokens : Option Nat := none
  maxCompletionTokens : Option Nat := none
  temperature : Option Float := none
  topP : Option Float := none
  topK : Option Nat := none
  n : Option Nat := none
  stop : Option Json := none
  tools : Option (List ToolDefinition) := none
  toolChoice : Option Json := none
  responseFormat : Option ResponseFormat := none
  reasoningEffort : Option String := none
  input : Option Json := none
  user : Option String := none
  deriving DecidableEq

namespace ResponseFormat

def decoder : Decoder ResponseFormat :=
  (ResponseFormat.mk <$> .required "type" .string <*> .nullable "json_schema" .json
    : RecordReader _).decoder

def json (f : ResponseFormat) : Json :=
  .record [.of "type" (.str f.kind), .ifSome "json_schema" id f.schema]

end ResponseFormat

namespace StreamOptions

def decoder : Decoder StreamOptions :=
  (StreamOptions.mk <$> .withDefault "include_usage" .bool false : RecordReader _).decoder

def json (o : StreamOptions) : Json :=
  .record [.of "include_usage" (.bool o.includeUsage)]

end StreamOptions

namespace ChatRequest

def decoder : Decoder ChatRequest :=
  (ChatRequest.mk <$> .required "model" .string
    <*> .withDefault "messages" (.list Message.decoder) []
    <*> .withDefault "stream" .bool false
    <*> .nullableInPlace "stream_options" StreamOptions.decoder
    <*> .nullableInPlace "max_tokens" .nat32
    <*> .nullableInPlace "max_completion_tokens" .nat32
    <*> .nullableInPlace "temperature" .float
    <*> .nullableInPlace "top_p" .float
    <*> .nullableInPlace "top_k" .nat32
    <*> .nullableInPlace "n" .nat32
    <*> .nullableInPlace "stop" .json
    <*> .nullableInPlace "tools" (.list ToolDefinition.decoder)
    <*> .nullableInPlace "tool_choice" .json
    <*> .nullableInPlace "response_format" ResponseFormat.decoder
    <*> .nullableInPlace "reasoning_effort" .string
    <*> .nullableInPlace "input" .json
    <*> .nullableInPlace "user" .string : RecordReader _).decoder

def json (r : ChatRequest) : Json :=
  .record [
    .of "model" (.str r.model),
    if r.messages.isEmpty then .absent
    else .of "messages" (.arr (r.messages.map Message.json)),
    if r.stream then .of "stream" (.bool true) else .absent,
    .ifSome "stream_options" StreamOptions.json r.streamOptions,
    .ifSome "max_tokens" .nat r.maxTokens,
    .ifSome "max_completion_tokens" .nat r.maxCompletionTokens,
    .ifSome "temperature" .float r.temperature,
    .ifSome "top_p" .float r.topP,
    .ifSome "top_k" .nat r.topK,
    .ifSome "n" .nat r.n,
    .ifSome "stop" id r.stop,
    .ifSome "tools" (fun ts => .arr (ts.map ToolDefinition.json)) r.tools,
    .ifSome "tool_choice" id r.toolChoice,
    .ifSome "response_format" ResponseFormat.json r.responseFormat,
    .ifSome "reasoning_effort" .str r.reasoningEffort,
    .ifSome "input" id r.input,
    .ifSome "user" .str r.user]

def systemRole (r : ChatRequest) : String :=
  if ModelName.isReasoning r.model then "developer" else "system"

def effectiveMaxTokens (r : ChatRequest) : Option Nat :=
  r.maxCompletionTokens.or r.maxTokens

def includesUsage (r : ChatRequest) : Bool :=
  r.streamOptions.any (·.includeUsage)

end ChatRequest

end ModelGateway
