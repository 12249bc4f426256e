import ModelGateway.Text.Lines

/-!
# Tables of characters

The data of a standard stand in texts, as numbers in base sixteen.  A property of characters is a
row of numbers and closed ranges, with blanks between them.
-/

namespace ModelGateway.Text

def hexDigit? (c : Char) : Option Nat :=
  if c.isDigit then some (c.toNat - '0'.toNat)
  else if 'a' ≤ c ∧ c ≤ 'f' then some (c.toNat - 'a'.toNat + 10)
  else if 'A' ≤ c ∧ c ≤ 'F' then some (c.toNat - 'A'.toNat + 10)
  else none

/-- The value of a number in base sixteen; what is no digit counts as zero. -/
def hexValue (cs : List Char) : Nat :=
  cs.foldl (fun n c => n * 16 + (hexDigit? c).getD 0) 0

def hexChar (cs : List Char) : Char :=
  Char.ofNat (hexValue cs)

def fields (cs : List Char) : List (List Char) :=
  (splitChars ' ' (cs.map fun c => if c = '\n' then ' ' else c)).filter (!·.isEmpty)

def rows (table : String) : List (List (List Char)) :=
  ((splitChars '\n' table.toList).map fields).filter (!·.isEmpty)

abbrev Ranges := List (Nat × Nat)

namespace Ranges

def ofField (field : List Char) : Nat × Nat :=
  let (low, high) := field.span (· != '-')
  (hexValue low, if high.isEmpty then hexValue low else hexValue (high.drop 1))

def ofText (table : String) : Ranges :=
  (fields table.toList).map ofField

def contains (r : Ranges) (c : Char) : Bool :=
  r.any fun (low, high) => low ≤ c.toNat && c.toNat ≤ high

end Ranges

end ModelGateway.Text
