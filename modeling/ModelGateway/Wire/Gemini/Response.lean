import ModelGateway.Json.Reader
import ModelGateway.Relay.Call
import ModelGateway.Relay.Exchange
import ModelGateway.Wire.Gemini.Content

/-!
# From Gemini to chat

Responses of the Gemini interface, and the chat completions that the client receives for them.
Thoughts are left out of the text of a completion; the calls of a candidate get new ids.
-/

namespace ModelGateway.Wire.Gemini

open Json (Decoder RecordReader)

structure Candidate where
  content : Option Content := none
  finishReason : Option String := none
  index : Option Nat := none
  deriving DecidableEq

structure PromptFeedback where
  blockReason : Option String := none
  deriving DecidableEq, Repr

structure UsageMetadata where
  prompt : UInt32 := 0
  candidates : UInt32 := 0
  total : UInt32 := 0
  thoughts : UInt32 := 0
  cachedContent : UInt32 := 0
  deriving DecidableEq, Repr

structure ChatResponse where
  candidates : List Candidate := []
  promptFeedback : Option PromptFeedback := none
  usageMetadata : Option UsageMetadata := none
  modelVersion : Option String := none
  responseId : Option String := none
  deriving DecidableEq

def Candidate.decoder : Decoder Candidate :=
  (Candidate.mk <$> .nullable "content" Content.decoder <*> .nullable "finishReason" .string
    <*> .nullable "index" .nat32 : RecordReader _).decoder

def PromptFeedback.decoder : Decoder PromptFeedback :=
  (PromptFeedback.mk <$> .nullable "blockReason" .string : RecordReader _).decoder

def count32 : Decoder UInt32 := Decoder.nat32.mapped Nat.toUInt32

def UsageMetadata.decoder : Decoder UsageMetadata :=
  (UsageMetadata.mk <$> .withDefault "promptTokenCount" count32 0
    <*> .withDefault "candidatesTokenCount" count32 0
    <*> .withDefault "totalTokenCount" count32 0
    <*> .withDefault "thoughtsTokenCount" count32 0
    <*> .withDefault "cachedContentTokenCount" count32 0 : RecordReader _).decoder

def ChatResponse.decoder : Decoder ChatResponse :=
  (ChatResponse.mk <$> .withDefault "candidates" (.list Candidate.decoder) []
    <*> .nullable "promptFeedback" PromptFeedback.decoder
    <*> .nullable "usageMetadata" UsageMetadata.decoder
    <*> .nullable "modelVersion" .string <*> .nullable "responseId" .string
    : RecordReader _).decoder

def decodeBody? (decode : Decoder α) (octets : Bytes) : Option α :=
  (Json.readDocument? octets).bind fun d => (decode .json d).toOption

/-- Thoughts count as completion; a total that is not reported is the sum. -/
def UsageMetadata.usage (m : UsageMetadata) : Except Halt Usage := do
  let completion ← Usage.add? m.candidates m.thoughts
  let total ← if 0 < m.total then .ok m.total else Usage.add? m.prompt completion
  .ok ⟨m.prompt, completion, total,
    if 0 < m.cachedContent then some m.cachedContent else none,
    if 0 < m.thoughts then some m.thoughts else none⟩

def UsageMetadata.isReported (m : UsageMetadata) : Bool :=
  0 < m.total || 0 < m.prompt

def ChatResponse.reported? (r : ChatResponse) : Option UsageMetadata :=
  r.usageMetadata.filter UsageMetadata.isReported

def estimatedUsage (call : Call) (text : String) : Except Halt Usage :=
  Usage.ofCounts call.promptTokens (Tokens.count [text])

def Candidate.parts (c : Candidate) : List Part :=
  (c.content.map Content.parts).getD []

/-- The texts of the parts that are thoughts, or of those that are not, joined. -/
def Candidate.textOf (c : Candidate) (thoughts : Bool) : String :=
  String.join ((c.parts.filter (·.isThought == thoughts)).filterMap (·.text))

def Candidate.visibleText (c : Candidate) : String := c.textOf false

def Candidate.thoughtText (c : Candidate) : String := c.textOf true

def Candidate.calls (c : Candidate) : List FunctionCall :=
  c.parts.filterMap (·.functionCall)

def toolCalls : (index : Nat) → List FunctionCall → StateM Stamp (List ToolCall)
  | _, [] => pure []
  | index, c :: rest => do
    let id ← Stamp.draw
    let later ← toolCalls (index + 1) rest
    pure ({ index := some index, id := "call_" ++ id, function := ⟨c.name, c.args.text⟩ } :: later)

def finishReason? (reason : Option String) (hasCalls : Bool) : Option String :=
  if hasCalls then some "tool_calls"
  else
    reason.map fun r =>
      match r with
      | "MAX_TOKENS" => "length"
      | "SAFETY" | "RECITATION" | "BLOCKLIST" | "PROHIBITED_CONTENT" | "SPII" => "content_filter"
      | _ => "stop"

/-- One choice of a completion that is not streamed. -/
structure Choice where
  index : Nat
  text : String
  toolCalls : List ToolCall
  finishReason : Option String
  deriving DecidableEq, Repr

def Choice.json (c : Choice) : Json :=
  .record [
    .of "index" (.nat c.index),
    .of "message" (.record [
      .of "content" (.str c.text),
      if c.toolCalls.isEmpty then .absent
      else
        .of "tool_calls" (.arr (c.toolCalls.map fun t => { t with index := none : ToolCall }.json)),
      .of "role" (.str "assistant")]),
    .ifSome "finish_reason" .str c.finishReason]

def choicesFrom : (position : Nat) → List Candidate → StateM Stamp (List Choice)
  | _, [] => pure []
  | position, c :: rest => do
    let calls ← Gemini.toolCalls 0 c.calls
    let later ← choicesFrom (position + 1) rest
    pure (⟨c.index.getD position, c.visibleText, calls,
      finishReason? c.finishReason !calls.isEmpty⟩ :: later)

structure Completion where
  id : String
  created : Nat
  model : String
  choices : List Choice
  usage : Usage
  deriving DecidableEq, Repr

def Completion.json (c : Completion) : Json :=
  .record [
    .of "id" (.str c.id),
    .of "choices" (.arr (c.choices.map Choice.json)),
    .of "created" (.nat c.created),
    .of "model" (.str c.model),
    .of "object" (.str "chat.completion"),
    .of "usage" c.usage.json]

def completionId : StateM Stamp String := do
  pure ("chatcmpl-" ++ (← Stamp.draw))

def completion (model : String) (usage : Usage) (r : ChatResponse) : StateM Stamp Completion := do
  let choices ← choicesFrom 0 r.candidates
  let id ← completionId
  pure ⟨id, (← get).now % UInt32.size, model, choices, usage⟩

structure Delta where
  index : Nat
  role : Option String
  text : String
  thoughts : String
  toolCalls : List ToolCall
  finishReason : Option String
  deriving DecidableEq, Repr

def nonEmpty? (s : String) : Option String :=
  if s.isEmpty then none else some s

def Delta.json (d : Delta) : Json :=
  .record [
    .of "index" (.nat d.index),
    .of "delta" (.record [
      .ifSome "role" .str d.role,
      .ifSome "content" .str (nonEmpty? d.text),
      .ifSome "reasoning_content" .str (nonEmpty? d.thoughts),
      if d.toolCalls.isEmpty then .absent
      else .of "tool_calls" (.arr (d.toolCalls.map ToolCall.json))]),
    .of "finish_reason" (.orNull .str d.finishReason)]

structure Chunk where
  id : String
  created : Nat
  model : String
  choices : List Delta
  usage : Option Usage := none
  deriving DecidableEq, Repr

def Chunk.json (c : Chunk) : Json :=
  .record [
    .of "id" (.str c.id),
    .of "object" (.str "chat.completion.chunk"),
    .of "created" (.nat c.created),
    .of "model" (.str c.model),
    .of "choices" (.arr (c.choices.map Delta.json)),
    .ifSome "usage" Usage.json c.usage]

def Chunk.write (c : Chunk) : Write := Write.data c.json.text

def deltasFrom (isFirst : Bool) : (position : Nat) → List Candidate → StateM Stamp (List Delta)
  | _, [] => pure []
  | position, c :: rest => do
    let calls ← Gemini.toolCalls 0 c.calls
    let later ← deltasFrom isFirst (position + 1) rest
    pure (⟨c.index.getD position, if isFirst then some "assistant" else none, c.visibleText,
      c.thoughtText, calls, finishReason? c.finishReason !calls.isEmpty⟩ :: later)

end ModelGateway.Wire.Gemini
