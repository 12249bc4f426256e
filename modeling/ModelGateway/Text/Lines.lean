/-!
# Pieces and lines

A text splits at every separator.  Lines end at a line feed, one carriage return before it belongs
to the ending, and a text that ends in a line feed has no empty line after it.
-/

namespace ModelGateway.Text

/-- The pieces between the separators; always one more than there are separators. -/
def splitChars (separator : Char) : List Char → List (List Char)
  | [] => [[]]
  | c :: rest =>
    if c = separator then [] :: splitChars separator rest
    else
      match splitChars separator rest with
      | [] => [[c]]
      | piece :: pieces => (c :: piece) :: pieces

def split (separator : Char) (s : String) : List String :=
  (splitChars separator s.toList).map String.ofList

/-- A line that was ended by a line feed, without a carriage return before it. -/
def dropReturn (line : List Char) : List Char :=
  match line.reverse with
  | '\r' :: rest => rest.reverse
  | _ => line

/-- Lines from their pieces: all but the last piece were ended by a line feed, and an empty last
piece is no line. -/
def linesOfPieces : List (List Char) → List (List Char)
  | [] => []
  | [last] => if last.isEmpty then [] else [last]
  | piece :: pieces => dropReturn piece :: linesOfPieces pieces

def linesChars (cs : List Char) : List (List Char) :=
  linesOfPieces (splitChars '\n' cs)

def lines (s : String) : List String :=
  (linesChars s.toList).map String.ofList

end ModelGateway.Text
