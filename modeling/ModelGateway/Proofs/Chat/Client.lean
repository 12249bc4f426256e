import ModelGateway.Proofs.Json.Records
import ModelGateway.Wire.Gemini.Response

/-!
# What a client reads

A client reads the choices of a completion or of a chunk out of its JSON.  Of a stream it makes one
answer: calls are told apart by their index, the arguments of one call are joined, and the last
finish reason that is given counts.
-/

namespace ModelGateway.Client

def textAt (path : List String) (j : Json) : String :=
  ((j.at? path).bind Json.str?).getD ""

structure HeardCall where
  index : Option Nat
  id : String
  name : String
  arguments : String
  deriving DecidableEq, Repr

def HeardCall.of (call : Json) : HeardCall where
  index := (call.get? "index").bind Json.nat?
  id := textAt ["id"] call
  name := textAt ["function", "name"] call
  arguments := textAt ["function", "arguments"] call

/-- A choice as a client reads it. -/
structure Heard where
  index : Option Nat
  content : String
  reasoning : String
  calls : List HeardCall
  finish : Option String
  deriving DecidableEq, Repr

def Heard.of (part : String) (choice : Json) : Heard where
  index := (choice.get? "index").bind Json.nat?
  content := textAt [part, "content"] choice
  reasoning := textAt [part, "reasoning_content"] choice
  calls := (((choice.at? [part, "tool_calls"]).bind Json.items?).getD []).map HeardCall.of
  finish := (choice.get? "finish_reason").bind Json.str?

def heardIn (part : String) (body : Json) : List Heard :=
  (((body.get? "choices").bind Json.items?).getD []).map (Heard.of part)

def HeardCall.anonymous (call : HeardCall) : HeardCall :=
  { call with id := "" }

def Heard.anonymous (h : Heard) : Heard :=
  { h with calls := h.calls.map HeardCall.anonymous }

def Heard.answer (h : Heard) : Heard :=
  { h with reasoning := "", calls := h.calls.map fun call => { call with index := none, id := "" } }

theorem Heard.answer_anonymous (h : Heard) : h.anonymous.answer = h.answer := by
  simp [Heard.answer, Heard.anonymous, HeardCall.anonymous, Function.comp_def]

/-- A delta with a new index adds a call; any other adds arguments to the call of its index. -/
def mergeCall (calls : List HeardCall) (delta : HeardCall) : List HeardCall :=
  match calls with
  | [] => [delta]
  | call :: rest =>
    if call.index = delta.index then
      { call with arguments := call.arguments ++ delta.arguments } :: rest
    else call :: mergeCall rest delta

structure Answer where
  calls : List HeardCall := []
  finish : Option String := none
  deriving DecidableEq, Repr

def Answer.add (a : Answer) (h : Heard) : Answer where
  calls := h.calls.foldl mergeCall a.calls
  finish := h.finish.or a.finish

def gather (chunks : List Json) : Answer :=
  (chunks.flatMap (heardIn "delta")).foldl Answer.add {}

def functions (calls : List HeardCall) : List (String × String) :=
  calls.map fun call => (call.name, call.arguments)

end ModelGateway.Client

namespace ModelGateway.Wire.Gemini

open Client

def heardCall (c : ToolCall) : HeardCall := ⟨c.index, c.id, c.function.name, c.function.arguments⟩

theorem heardCall_json (c : ToolCall) : HeardCall.of c.json = heardCall c := by
  obtain ⟨index, id, kind, name, arguments⟩ := c
  cases index <;>
    simp [HeardCall.of, textAt, ToolCall.json, ModelGateway.FunctionCall.json, Json.at?_cons,
      heardCall, Json.str?, Json.nat?, Json.nat]

theorem str?_orNull (s : Option String) : (Json.orNull .str s).str? = s := by
  cases s <;> rfl

theorem getD_nonEmpty? (s : String) : (nonEmpty? s).getD "" = s := by
  unfold nonEmpty?
  split
  · next h => exact (String.isEmpty_iff.mp h).symm
  · rfl

theorem read_nonEmpty? (s : String) :
    ((((nonEmpty? s).map Json.str).bind (Json.at? [])).bind Json.str?).getD "" = s := by
  refine Eq.trans ?_ (getD_nonEmpty? s)
  cases nonEmpty? s <;> rfl

def Delta.heard (d : Delta) : Heard :=
  ⟨some d.index, d.text, d.thoughts, d.toolCalls.map heardCall, d.finishReason⟩

def Choice.heard (c : Choice) : Heard :=
  ⟨some c.index, c.text, "", c.toolCalls.map fun t => { heardCall t with index := none },
    c.finishReason⟩

theorem heard_delta (d : Delta) : Heard.of "delta" d.json = d.heard := by
  obtain ⟨index, role, text, thoughts, calls, finish⟩ := d
  cases calls <;>
    simp [Heard.of, Delta.heard, textAt, Delta.json, Json.at?_cons, Json.nat?, Json.nat,
      Json.items?, str?_orNull, read_nonEmpty?, heardCall_json]

theorem heard_choice (c : Choice) : Heard.of "message" c.json = c.heard := by
  obtain ⟨index, text, calls, finish⟩ := c
  cases calls <;> cases finish <;>
    simp [Heard.of, Choice.heard, textAt, Choice.json, Json.at?_cons, Json.nat?, Json.nat,
      Json.items?, Json.str?, heardCall_json, heardCall]

theorem heardIn_chunk (c : Chunk) : heardIn "delta" c.json = c.choices.map Delta.heard := by
  simp [heardIn, Chunk.json, Json.items?, heard_delta]

theorem heardIn_completion (c : Completion) :
    heardIn "message" c.json = c.choices.map Choice.heard := by
  simp [heardIn, Completion.json, Json.items?, heard_choice]

theorem usage_chunk (c : Chunk) : c.json.get? "usage" = c.usage.map Usage.json := by
  simp [Chunk.json]

theorem usage_completion (c : Completion) : c.json.get? "usage" = some c.usage.json := by
  simp [Completion.json]

end ModelGateway.Wire.Gemini
