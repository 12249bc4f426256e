import ModelGateway.Json.Document
import ModelGateway.Json.Numeral
import ModelGateway.Text.Utf8

/-!
# Reading JSON

`readDocument?` accepts exactly the texts of the JSON grammar, as octets.  A container inside 127
others is still checked, but it is unreadable.
-/

namespace ModelGateway.Json

def isSpace (b : UInt8) : Bool :=
  b == 0x20 || b == 0x09 || b == 0x0A || b == 0x0D

def skipSpace (input : Bytes) : Bytes :=
  input.dropWhile isSpace

def expect? : (token : Bytes) → Bytes → Option Bytes
  | [], input => some input
  | _ :: _, [] => none
  | t :: token, b :: input => if t = b then expect? token input else none

def digit? (b : UInt8) : Option Nat :=
  if 0x30 ≤ b ∧ b ≤ 0x39 then some (b.toNat - 0x30) else none

def takeRow : Bytes → List Nat × Bytes
  | [] => ([], [])
  | b :: rest =>
    match digit? b with
    | some d =>
      let (digits, rest) := takeRow rest
      (d :: digits, rest)
    | none => ([], b :: rest)

def readDigits? (input : Bytes) : Option (List Nat × Bytes) :=
  match takeRow input with
  | ([], _) => none
  | row => some row

def readExponent? (input : Bytes) : Option (Option (Bool × List Nat) × Bytes) :=
  match input with
  | e :: rest =>
    if e = 0x65 ∨ e = 0x45 then
      let (negative, rest) :=
        match rest with
        | 0x2B :: rest => (false, rest)
        | 0x2D :: rest => (true, rest)
        | rest => (false, rest)
      (readDigits? rest).map fun (digits, rest) => (some (negative, digits), rest)
    else some (none, input)
  | [] => some (none, [])

/-- A numeral without its sign: no zero before another digit, and a digit after the point. -/
def readNumeral? (negative : Bool) (input : Bytes) : Option (Numeral × Bytes) := do
  let (whole, rest) ← readDigits? input
  if whole.head? = some 0 ∧ 1 < whole.length then none
  let (fraction, rest) ←
    match rest with
    | 0x2E :: rest => readDigits? rest
    | rest => some ([], rest)
  let (exponent, rest) ← readExponent? rest
  some (⟨negative, whole, fraction, exponent⟩, rest)

/-- An octet of a string, or a code unit given by an escape. -/
inductive Unit16 where
  | octet (b : UInt8)
  | code (n : Nat)
  deriving DecidableEq, Repr

def hexValue? (b : UInt8) : Option Nat :=
  let n := b.toNat
  if 0x30 ≤ n ∧ n ≤ 0x39 then some (n - 0x30)
  else if 0x41 ≤ n ∧ n ≤ 0x46 then some (n - 0x37)
  else if 0x61 ≤ n ∧ n ≤ 0x66 then some (n - 0x57)
  else none

def readHex4? : Bytes → Option (Nat × Bytes)
  | a :: b :: c :: d :: rest => do
    let a ← hexValue? a
    let b ← hexValue? b
    let c ← hexValue? c
    let d ← hexValue? d
    some (((a * 16 + b) * 16 + c) * 16 + d, rest)
  | _ => none

def shortEscape? (b : UInt8) : Option UInt8 :=
  match b with
  | 0x22 => some 0x22
  | 0x5C => some 0x5C
  | 0x2F => some 0x2F
  | 0x62 => some 0x08
  | 0x66 => some 0x0C
  | 0x6E => some 0x0A
  | 0x72 => some 0x0D
  | 0x74 => some 0x09
  | _ => none

def readUnits? : (fuel : Nat) → Bytes → Option (List Unit16 × Bytes)
  | 0, _ => none
  | _ + 1, [] => none
  | _ + 1, 0x22 :: rest => some ([], rest)
  | fuel + 1, 0x5C :: 0x75 :: rest => do
    let (n, rest) ← readHex4? rest
    let (units, rest) ← readUnits? fuel rest
    some (.code n :: units, rest)
  | fuel + 1, 0x5C :: b :: rest => do
    let b ← shortEscape? b
    let (units, rest) ← readUnits? fuel rest
    some (.octet b :: units, rest)
  | fuel + 1, b :: rest =>
    if b < 0x20 ∨ b = 0x5C then none
    else do
      let (units, rest) ← readUnits? fuel rest
      some (.octet b :: units, rest)

def encodeCode (n : Nat) : Bytes :=
  Utf8.encode (String.singleton (Char.ofNat n))

/-- The octets of a string, unless it holds half a surrogate pair. -/
def joinUnits? : List Unit16 → Option Bytes
  | [] => some []
  | .octet b :: rest => (joinUnits? rest).map (b :: ·)
  | .code high :: .code low :: rest =>
    if 0xD800 ≤ high ∧ high < 0xDC00 then
      if 0xDC00 ≤ low ∧ low < 0xE000 then
        (joinUnits? rest).map (encodeCode (0x10000 + (high - 0xD800) * 1024 + (low - 0xDC00)) ++ ·)
      else none
    else if 0xDC00 ≤ high ∧ high < 0xE000 then none
    else (joinUnits? (.code low :: rest)).map (encodeCode high ++ ·)
  | .code n :: rest =>
    if 0xD800 ≤ n ∧ n < 0xE000 then none
    else (joinUnits? rest).map (encodeCode n ++ ·)

def textOfUnits? (units : List Unit16) : Option String :=
  (joinUnits? units).bind Utf8.decode?

/-- A string after its opening quote; the text is none if it denotes nothing. -/
def readString? (input : Bytes) : Option (Option String × Bytes) :=
  (readUnits? (input.length + 1) input).map fun (units, rest) => (textOfUnits? units, rest)

def maxLevel : Nat := 127

def atLevel (level : Nat) (d : Document) : Document :=
  if maxLevel < level then .unreadable else d

def Document.ofNumeral (n : Numeral) : Document :=
  match n.number? with
  | some n => .num n
  | none => .unreadable

def Document.ofText (s : Option String) : Document :=
  match s with
  | some s => .str s
  | none => .unreadable

mutual

def readAt? : (fuel : Nat) → (level : Nat) → Bytes → Option (Document × Bytes)
  | 0, _, _ => none
  | fuel + 1, level, input =>
    match skipSpace input with
    | [] => none
    | 0x22 :: rest => (readString? rest).map fun (s, rest) => (.ofText s, rest)
    | 0x5B :: rest =>
      match skipSpace rest with
      | 0x5D :: rest => some (atLevel (level + 1) (.arr []), rest)
      | rest =>
        (readItems? fuel (level + 1) rest).map fun (items, rest) =>
          (atLevel (level + 1) (.arr items), rest)
    | 0x7B :: rest =>
      match skipSpace rest with
      | 0x7D :: rest => some (atLevel (level + 1) (.obj []), rest)
      | rest =>
        (readMembers? fuel (level + 1) rest).map fun (members, rest) =>
          (atLevel (level + 1) (.obj members), rest)
    | 0x6E :: rest => (expect? [0x75, 0x6C, 0x6C] rest).map (.null, ·)
    | 0x74 :: rest => (expect? [0x72, 0x75, 0x65] rest).map (.bool true, ·)
    | 0x66 :: rest => (expect? [0x61, 0x6C, 0x73, 0x65] rest).map (.bool false, ·)
    | 0x2D :: rest => (readNumeral? true rest).map fun (n, rest) => (.ofNumeral n, rest)
    | rest => (readNumeral? false rest).map fun (n, rest) => (.ofNumeral n, rest)

/-- The items of an array from the first one on, through the closing bracket. -/
def readItems? : (fuel : Nat) → (level : Nat) → Bytes → Option (List Document × Bytes)
  | 0, _, _ => none
  | fuel + 1, level, input =>
    match readAt? fuel level input with
    | none => none
    | some (d, rest) =>
      match skipSpace rest with
      | 0x5D :: rest => some ([d], rest)
      | 0x2C :: rest => (readItems? fuel level rest).map fun (ds, rest) => (d :: ds, rest)
      | _ => none

/-- The members of an object from the first one on, through the closing brace. -/
def readMembers? :
    (fuel : Nat) → (level : Nat) → Bytes → Option (List (Option String × Document) × Bytes)
  | 0, _, _ => none
  | fuel + 1, level, input =>
    match skipSpace input with
    | 0x22 :: rest =>
      match readString? rest with
      | none => none
      | some (key, rest) =>
        match skipSpace rest with
        | 0x3A :: rest =>
          match readAt? fuel level rest with
          | none => none
          | some (d, rest) =>
            match skipSpace rest with
            | 0x7D :: rest => some ([(key, d)], rest)
            | 0x2C :: rest =>
              (readMembers? fuel level rest).map fun (ms, rest) => ((key, d) :: ms, rest)
            | _ => none
        | _ => none
    | _ => none

end

def readDocument? (input : Bytes) : Option Document :=
  match readAt? (2 * input.length + 2) 0 input with
  | some (d, rest) => if (skipSpace rest).isEmpty then some d else none
  | none => none

def read? (input : Bytes) : Option Json :=
  (readDocument? input).bind Document.value?

def readText? (s : String) : Option Json :=
  read? (Utf8.encode s)

end ModelGateway.Json
