import ModelGateway.Text.Search

/-!
# What a model name says

A suffix of a name controls thinking: `-nothinking`, `-thinking` or `-thinking-` and a budget.  Some
names tell that a model makes embeddings or images.
-/

namespace ModelGateway.ModelName

inductive Thinking where
  | unspecified
  | off
  | on (budget : Option Nat)
  deriving DecidableEq, Repr

def maxBudget : Nat := UInt32.size - 1

def budget? (digits : List Char) : Option Nat :=
  match Text.digitsValue? digits with
  | some n => if n ≤ maxBudget then some n else none
  | none => none

/-- The name before the last `-thinking-`, and the digits after it. -/
def splitBudget? (cs : List Char) : Option (List Char × List Char) :=
  match Text.splitAtLast? "-thinking-".toList cs with
  | some (base, digits) =>
    if !digits.isEmpty && digits.all Char.isDigit then some (base, digits) else none
  | none => none

def parseThinking (name : String) : String × Thinking :=
  match Text.before? "-nothinking" name with
  | some base => (base, .off)
  | none =>
    match splitBudget? name.toList with
    | some (base, digits) => (String.ofList base, .on (budget? digits))
    | none =>
      match Text.before? "-thinking" name with
      | some base => (base, .on none)
      | none => (name, .unspecified)

def isGeminiEmbedding (name : String) : Bool :=
  Text.startsWith "text-embedding" name || Text.startsWith "embedding" name ||
    Text.startsWith "gemini-embedding" name

def isImagen (name : String) : Bool :=
  Text.startsWith "imagen" name

def isEmbedding (name : String) : Bool :=
  Text.containsText "embed" (Text.lowerAscii name) || Text.startsWith "m3e" name ||
    Text.containsText "bge-" name

def isReasoning (name : String) : Bool :=
  Text.startsWith "o" name && !Text.startsWith "o1-mini" name && !Text.startsWith "o1-preview" name

end ModelGateway.ModelName
