import ModelGateway.Text.Blank

/-!
# Estimating tokens

A token is taken to be a word.
-/

namespace ModelGateway.Tokens

def ofText (text : String) : Nat :=
  Text.countWords false text.toList

def ofTexts (texts : List String) : Nat :=
  texts.foldr (fun text n => ofText text + n) 0

def count (texts : List String) : UInt32 :=
  (ofTexts texts).toUInt32

end ModelGateway.Tokens
