/-!
# Blank characters and words

`isBlank` is the White_Space property of Unicode.  Trimming and counting words go by it.
-/

namespace ModelGateway.Text

def isBlank (c : Char) : Bool :=
  let n := c.toNat
  (0x9 ≤ n && n ≤ 0xD) || n == 0x20 || n == 0x85 || n == 0xA0 || n == 0x1680 ||
    (0x2000 ≤ n && n ≤ 0x200A) || n == 0x2028 || n == 0x2029 || n == 0x202F || n == 0x205F ||
    n == 0x3000

def trimLeft (cs : List Char) : List Char :=
  cs.dropWhile isBlank

/-- The list without the characters at its end that satisfy `p`. -/
def dropEnd (p : Char → Bool) (cs : List Char) : List Char :=
  (cs.reverse.dropWhile p).reverse

def trimChars (cs : List Char) : List Char :=
  dropEnd isBlank (trimLeft cs)

def trim (s : String) : String :=
  String.ofList (trimChars s.toList)

def isBlankText (s : String) : Bool :=
  s.toList.all isBlank

def nonBlank? (s : String) : Option String :=
  let t := trim s
  if t.isEmpty then none else some t

def trimEndSlashes (s : String) : String :=
  String.ofList (dropEnd (· == '/') s.toList)

/-- The number of maximal runs of characters that are not blank; `inside` tells whether the
character before was in such a run. -/
def countWords : (inside : Bool) → List Char → Nat
  | _, [] => 0
  | inside, c :: rest =>
    if isBlank c then countWords false rest
    else if inside then countWords true rest
    else countWords true rest + 1

end ModelGateway.Text
