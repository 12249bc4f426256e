/-!
# Searching a text

Affixes, the first and the last place of a mark, ASCII case and the value of a row of digits.
-/

namespace ModelGateway.Text

def startsWith (affix : String) (s : String) : Bool :=
  affix.toList.isPrefixOf s.toList

def endsWith (affix : String) (s : String) : Bool :=
  affix.toList.isSuffixOf s.toList

def afterChars? : (affix : List Char) → List Char → Option (List Char)
  | [], cs => some cs
  | _ :: _, [] => none
  | a :: affix, c :: cs => if a = c then afterChars? affix cs else none

def after? (affix : String) (s : String) : Option String :=
  (afterChars? affix.toList s.toList).map String.ofList

def beforeChars? (affix cs : List Char) : Option (List Char) :=
  (afterChars? affix.reverse cs.reverse).map List.reverse

def before? (affix : String) (s : String) : Option String :=
  (beforeChars? affix.toList s.toList).map String.ofList

def splitAtFirst? (mark : List Char) : List Char → Option (List Char × List Char)
  | [] => if mark.isEmpty then some ([], []) else none
  | c :: cs =>
    match afterChars? mark (c :: cs) with
    | some rest => some ([], rest)
    | none => (splitAtFirst? mark cs).map fun (before, rest) => (c :: before, rest)

def splitAtLast? (mark cs : List Char) : Option (List Char × List Char) :=
  (splitAtFirst? mark.reverse cs.reverse).map fun (after, before) =>
    (before.reverse, after.reverse)

def containsText (mark : String) (s : String) : Bool :=
  (splitAtFirst? mark.toList s.toList).isSome

def isToken (c : Char) : Bool :=
  c.isAlphanum || "!#$%&'*+-.^_\x60|~".toList.contains c

def lowerAscii (s : String) : String :=
  s.map Char.toLower

def digitsValue? (cs : List Char) : Option Nat :=
  if cs.isEmpty || !cs.all Char.isDigit then none
  else some (cs.foldl (fun n c => n * 10 + (c.toNat - '0'.toNat)) 0)

/-- The base-ten digits of an integer, with a minus sign for those below zero. -/
def ofInt (n : Int) : String :=
  match n with
  | .ofNat m => Nat.repr m
  | .negSucc m => "-" ++ Nat.repr (m + 1)

end ModelGateway.Text
