import ModelGateway.Failure

/-!
# Token usage

Counts of 32 bits.  Adding two of them fails when the sum does not fit; a count that a provider
reports beyond 32 bits is taken modulo `2 ^ 32`.
-/

namespace ModelGateway

structure Usage where
  prompt : UInt32
  completion : UInt32
  total : UInt32
  cached : Option UInt32 := none
  reasoning : Option UInt32 := none
  deriving DecidableEq, Repr

namespace Usage

def add? (a b : UInt32) : Except Halt UInt32 :=
  if a.toNat + b.toNat < UInt32.size then .ok (a + b) else .error .crashed

def mul? (a b : UInt32) : Except Halt UInt32 :=
  if a.toNat * b.toNat < UInt32.size then .ok (a * b) else .error .crashed

def ofCounts (prompt completion : UInt32) : Except Halt Usage := do
  let total ← add? prompt completion
  .ok ⟨prompt, completion, total, none, none⟩

def cachedTokens (u : Usage) : UInt32 :=
  u.cached.getD 0

def count? (key : String) (j : Json) : Option UInt32 :=
  ((j.get? key).bind Json.nat?).map Nat.toUInt32

def detail? (group key : String) (j : Json) : Option UInt32 :=
  (j.get? group).bind (count? key)

/-- The usage that a response reports; none if it reports no count at all. -/
def ofResponse? (response : Json) : Except Halt (Option Usage) :=
  match response.get? "usage" with
  | none => .ok none
  | some u =>
    let prompt := count? "prompt_tokens" u
    let completion := count? "completion_tokens" u
    let total := count? "total_tokens" u
    let cached := detail? "prompt_tokens_details" "cached_tokens" u
    let reasoning := detail? "completion_tokens_details" "reasoning_tokens" u
    if prompt.isNone && completion.isNone && total.isNone && cached.isNone && reasoning.isNone then
      .ok none
    else do
      let sum ← add? (prompt.getD 0) (completion.getD 0)
      .ok (some ⟨prompt.getD 0, completion.getD 0, total.getD sum, cached, reasoning⟩)

def count (n : UInt32) : Json := .nat n.toNat

def json (u : Usage) : Json :=
  .record [
    .of "prompt_tokens" (count u.prompt),
    .of "completion_tokens" (count u.completion),
    .of "total_tokens" (count u.total),
    .ifSome "prompt_tokens_details" (fun n => .record [
      .of "audio_tokens" .null,
      .of "cached_tokens" (count n)]) u.cached,
    .ifSome "completion_tokens_details" (fun n => .record [
      .of "accepted_prediction_tokens" .null,
      .of "audio_tokens" .null,
      .of "reasoning_tokens" (count n),
      .of "rejected_prediction_tokens" .null]) u.reasoning]

end Usage

end ModelGateway
