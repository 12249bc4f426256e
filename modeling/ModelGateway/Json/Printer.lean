import ModelGateway.Json.Basic
import ModelGateway.Number.Shortest
import ModelGateway.Text.Search
import ModelGateway.Text.Utf8

/-!
# Writing JSON

Compact text.  Only the quote, the backslash and the control characters are escaped.  A
floating-point number is its shortest decimal: positional from `1e-5` up to below `1e16`, always
with a point, and outside that range with an exponent that has a sign when it is positive, too.
-/

namespace ModelGateway.Json

def hexDigit (n : Nat) : Char :=
  if n < 10 then Char.ofNat (48 + n) else Char.ofNat (87 + n)

def escapeChar (c : Char) : List Char :=
  if c = '"' then ['\\', '"']
  else if c = '\\' then ['\\', '\\']
  else if c = '\n' then ['\\', 'n']
  else if c = '\r' then ['\\', 'r']
  else if c = '\t' then ['\\', 't']
  else if c = '\x08' then ['\\', 'b']
  else if c = '\x0c' then ['\\', 'f']
  else if c.toNat < 0x20 then
    ['\\', 'u', '0', '0', hexDigit (c.toNat / 16), hexDigit (c.toNat % 16)]
  else [c]

def quoted (s : String) : List Char :=
  '"' :: (s.toList.flatMap escapeChar ++ ['"'])

/-- How the decimal of a floating-point number is laid out. -/
structure FloatLayout where
  /-- The least and the greatest exponent of the leading digit that are written positionally. -/
  least : Int
  greatest : Int
  mark : Char
  deriving DecidableEq, Repr

def floatLayout : FloatLayout := ⟨-5, 15, 'e'⟩

def signed (n : Int) : List Char :=
  match n with
  | .ofNat m => '+' :: (Nat.repr m).toList
  | .negSucc m => '-' :: (Nat.repr (m + 1)).toList

def FloatLayout.write (layout : FloatLayout) (d : Number.Decimal) : List Char :=
  let digits := (Nat.repr d.digits).toList
  let leading : Int := (digits.length : Int) + d.exponent - 1
  if leading < layout.least ∨ layout.greatest < leading then
    match digits with
    | [] => []
    | [c] => c :: layout.mark :: signed leading
    | c :: rest => c :: '.' :: (rest ++ layout.mark :: signed leading)
  else if 0 ≤ d.exponent then
    digits ++ List.replicate d.exponent.toNat '0' ++ ['.', '0']
  else if 0 ≤ leading then
    let whole := (leading + 1).toNat
    digits.take whole ++ '.' :: digits.drop whole
  else
    ['0', '.'] ++ List.replicate (-leading - 1).toNat '0' ++ digits

def writeFloat (x : Float) : List Char :=
  match Number.parts? x with
  | none => ['n', 'u', 'l', 'l']
  | some p =>
    let magnitude :=
      if p.significand = 0 then ['0', '.', '0']
      else floatLayout.write (Number.shortest p.significand p.exponent)
    if p.negative then '-' :: magnitude else magnitude

def Number.write : Json.Number → List Char
  | .int n => (Text.ofInt n).toList
  | .float x => writeFloat x

def Number.text (n : Json.Number) : String := String.ofList n.write

mutual

def write : Json → List Char
  | .null => ['n', 'u', 'l', 'l']
  | .bool true => ['t', 'r', 'u', 'e']
  | .bool false => ['f', 'a', 'l', 's', 'e']
  | .num n => n.write
  | .str s => quoted s
  | .arr items => '[' :: (writeItems items ++ [']'])
  | .obj members => '\x7b' :: (writeMembers members ++ ['\x7d'])

def writeItems : List Json → List Char
  | [] => []
  | [x] => write x
  | x :: y :: rest => write x ++ ',' :: writeItems (y :: rest)

def writeMembers : List (String × Json) → List Char
  | [] => []
  | [(k, x)] => quoted k ++ ':' :: write x
  | (k, x) :: m :: rest => quoted k ++ ':' :: (write x ++ ',' :: writeMembers (m :: rest))

end

def text (j : Json) : String := String.ofList j.write

def bytes (j : Json) : Bytes := Utf8.encode j.text

end ModelGateway.Json
