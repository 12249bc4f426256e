import ModelGateway.Text.Composition
import ModelGateway.Text.Direction
import ModelGateway.Text.Joining
import ModelGateway.Url.Mapping
import ModelGateway.Url.Punycode

/-!
# Domain names

A domain name is a row of labels between full stops.  `asciiDomain?` reads a name of any characters:
they are mapped and composed, and each label must be one that can be looked up.  A label with other
characters than ASCII is written in Punycode, and one in Punycode must stand for such a label.
-/

namespace ModelGateway.Url

/-- A label in Unicode and in ASCII. -/
structure Label where
  meant : List Char
  written : List Char
  deriving DecidableEq, Repr

namespace Label

def encodedMark : List Char := ['x', 'n', '-', '-']

def isAscii (cs : List Char) : Bool := cs.all (·.toNat < 0x80)

def nonJoiner : Char := '\u200c'

def joiner : Char := '\u200d'

def viramaClass : Nat := 9

/-- Whether the last of the characters `before`, nearest first, is a virama. -/
def followsVirama (before : List Char) : Bool :=
  before.head?.any (Text.combiningClass · == viramaClass)

def joinsAcross (before after : List Char) : Bool :=
  (before.dropWhile Text.isTransparent).head?.any Text.joinsNext &&
    (after.dropWhile Text.isTransparent).head?.any Text.joinsPrevious

def joinersFit : (before : List Char) → List Char → Bool
  | _, [] => true
  | before, c :: cs =>
    (if c = nonJoiner then followsVirama before || joinsAcross before cs
      else if c = joiner then followsVirama before
      else true) && joinersFit (c :: before) cs

open Text (Direction)

/-- Whether a name with this label has to keep the rule of directions. -/
def hasDirection (cs : List Char) : Bool :=
  cs.any fun c => Text.direction c matches .rightToLeft | .arabicNumber

/-- The rule of directions: a label starts with a letter and has letters of one direction only, and
it ends, marks apart, in such a letter or in a number. -/
def keepsDirection (cs : List Char) : Bool :=
  let directions := cs.map Text.direction
  let last := (directions.reverse.dropWhile (· == .mark)).head?
  match directions with
  | [] => true
  | .leftToRight :: rest =>
    rest.all (fun d => d != .rightToLeft && d != .arabicNumber) &&
      (last == some .leftToRight || last == some .number)
  | .rightToLeft :: rest =>
    rest.all (· != .leftToRight) && last != some .neutral &&
      !(rest.contains .number && rest.contains .arabicNumber)
  | _ => false

/-- Whether a label of mapped and composed characters can be looked up. -/
def isProper (cs : List Char) : Bool :=
  !encodedMark.isPrefixOf cs && !cs.head?.any Text.isMark && joinersFit [] cs

def maxMeant : Nat := 1000

def maxEncoded : Nat := 2000

def ofEncoded? (code : List Char) : Option Label := do
  if maxEncoded < code.length then none
  let meant ← Punycode.decode? code
  if isAscii code && !isAscii meant && meant.all isUnchanged && Text.normalize meant == meant &&
      isProper meant then
    some ⟨meant, encodedMark ++ code⟩
  else none

def of? (cs : List Char) : Option Label :=
  match Text.afterChars? encodedMark cs with
  | some code => ofEncoded? code
  | none =>
    if isAscii cs then some ⟨cs, cs⟩
    else if cs.length ≤ maxMeant && isProper cs then some ⟨cs, encodedMark ++ Punycode.encode cs⟩
    else none

end Label

/-- The labels of a name.  If one of them is written from right to left, all keep the rule of
directions. -/
def labels? (name : List Char) : Option (List Label) := do
  let mapped ← name.mapM mapped?
  let labels ← (Text.splitChars '.' (Text.normalize mapped.flatten)).mapM Label.of?
  if labels.any (Label.hasDirection ·.meant) && !labels.all (Label.keepsDirection ·.meant) then none
  else some labels

def asciiDomain? (name : List Char) : Option (List Char) :=
  (labels? name).map fun labels => (['.'] : List Char).intercalate (labels.map (·.written))

end ModelGateway.Url
