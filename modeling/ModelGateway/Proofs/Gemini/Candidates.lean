import ModelGateway.Proofs.Chat.Client
import ModelGateway.Wire.Gemini.Response

/-!
# Contents of candidates

The visible text of a candidate, its thoughts, its calls and its finish reason, read off its parts.
The functions of the gateway compute the same.
-/

namespace ModelGateway.Wire.Gemini

/-- The texts of the parts that are no thoughts, one after the other. -/
def Candidate.shown (c : Candidate) : String :=
  match c.content with
  | none => ""
  | some content =>
    String.join (content.parts.filterMap fun p => if p.thought = some true then none else p.text)

def Candidate.thinking (c : Candidate) : String :=
  match c.content with
  | none => ""
  | some content =>
    String.join (content.parts.filterMap fun p => if p.thought = some true then p.text else none)

def Candidate.called (c : Candidate) : List FunctionCall :=
  match c.content with
  | none => []
  | some content => content.parts.filterMap (·.functionCall)

theorem isThought_eq (p : Part) : p.isThought = decide (p.thought = some true) := by
  rw [Part.isThought]
  rcases p.thought with _ | _ | _ <;> rfl

theorem Candidate.textOf_eq (c : Candidate) {thoughts : Bool} {text : Part → Option String}
    (h : ∀ p : Part, text p = if p.isThought = thoughts then p.text else none) :
    c.textOf thoughts = match c.content with
      | none => ""
      | some content => String.join (content.parts.filterMap text) := by
  rw [textOf, parts]
  cases c.content with
  | none => rfl
  | some content =>
      rw [Option.map_some, Option.getD_some, List.filterMap_filter]
      refine congrArg (fun f => String.join (content.parts.filterMap f)) (funext fun p => ?_)
      simp only [h, beq_iff_eq]

theorem Candidate.visibleText_eq (c : Candidate) : c.visibleText = c.shown :=
  c.textOf_eq fun p => by
    rw [isThought_eq]
    by_cases h : p.thought = some true <;> simp [h]

theorem Candidate.thoughtText_eq (c : Candidate) : c.thoughtText = c.thinking :=
  c.textOf_eq fun p => by
    rw [isThought_eq]
    by_cases h : p.thought = some true <;> simp [h]

theorem Candidate.calls_eq (c : Candidate) : c.calls = c.called := by
  rw [calls, parts, called]
  cases c.content <;> rfl

/-- The finish reasons of candidates and of choices; any other reason is a stop. -/
def reasonNames : List (String × String) := [
  ("MAX_TOKENS", "length"), ("SAFETY", "content_filter"), ("RECITATION", "content_filter"),
  ("BLOCKLIST", "content_filter"), ("PROHIBITED_CONTENT", "content_filter"),
  ("SPII", "content_filter")]

def Candidate.ending (c : Candidate) : Option String :=
  if c.called = [] then c.finishReason.map fun reason => (reasonNames.lookup reason).getD "stop"
  else some "tool_calls"

theorem Candidate.finishReason?_eq (c : Candidate) :
    finishReason? c.finishReason (!c.calls.isEmpty) = c.ending := by
  rw [finishReason?, ending, calls_eq]
  by_cases hcalled : c.called = []
  · rw [if_pos hcalled, hcalled]
    refine congrArg (Option.map · c.finishReason) (funext fun reason => ?_)
    split
    case h_7 =>
      have hother : reasonNames.lookup reason = none :=
        List.lookup_eq_none_iff.mpr (by simp_all [reasonNames])
      rw [hother]
      rfl
    all_goals rfl
  · simp [hcalled]

/-- The choice for a candidate, up to the ids of its calls. -/
def Candidate.told (c : Candidate) (index : Nat) : Client.Heard where
  index := some index
  content := c.shown
  reasoning := c.thinking
  calls := c.called.zipIdx.map fun (f, i) => ⟨some i, "", f.name, f.args.text⟩
  finish := c.ending

/-- The usage of a response that has a total or a prompt. -/
def ChatResponse.counts? (r : ChatResponse) : Option UsageMetadata :=
  match r.usageMetadata with
  | none => none
  | some m => if m.total = 0 ∧ m.prompt = 0 then none else some m

theorem ChatResponse.reported?_eq (r : ChatResponse) : r.reported? = r.counts? := by
  rw [reported?, counts?]
  cases r.usageMetadata with
  | none => rfl
  | some m =>
      have hreported : m.isReported = !decide (m.total = 0 ∧ m.prompt = 0) := by
        simp [UsageMetadata.isReported, UInt32.pos_iff_ne_zero]
      rw [Option.filter_some, hreported]
      by_cases h : m.total = 0 ∧ m.prompt = 0 <;> simp [h]

end ModelGateway.Wire.Gemini
