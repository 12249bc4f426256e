import ModelGateway.Instant
import ModelGateway.Json.Document
import ModelGateway.Number.Word
import ModelGateway.Text.Lines
import ModelGateway.Text.Search

/-!
# TOML scalars

Numbers, truth values and dates, which stand in the text without quotes.  Underscores may part the
digits of a number.  A number out of range can stand in a text, but it denotes nothing.  However a
date is written, it has one text.
-/

namespace ModelGateway.Toml

open Json (Document)

abbrev Chars := List Char

def digitValue? (base : Nat) (c : Char) : Option Nat :=
  let value : Option Nat :=
    if c.isDigit then some (c.toNat - '0'.toNat)
    else if 'a' ≤ c ∧ c ≤ 'f' then some (c.toNat - 'a'.toNat + 10)
    else if 'A' ≤ c ∧ c ≤ 'F' then some (c.toNat - 'A'.toNat + 10)
    else none
  value.filter (· < base)

/-- Digits without their underscores, each of which stands between two digits. -/
def digits? (base : Nat) (cs : Chars) : Option (List Nat) :=
  let groups := Text.splitChars '_' cs
  if groups.any List.isEmpty then none
  else groups.flatten.mapM (digitValue? base)

def valueOf (base : Nat) (digits : List Nat) : Nat :=
  digits.foldl (fun n d => n * base + d) 0

def wholeDigits? (cs : Chars) : Option (List Nat) :=
  match cs with
  | '0' :: _ :: _ => none
  | _ => digits? 10 cs

def splitSign : Chars → Bool × Chars
  | '-' :: rest => (true, rest)
  | '+' :: rest => (false, rest)
  | cs => (false, cs)

/-- The document of a whole number, within 128 bits with or without a sign. -/
def integerDocument (n : Int) : Document :=
  if -0x80000000000000000000000000000000 ≤ n ∧ n < 0x100000000000000000000000000000000 then
    .num (.int n)
  else .unreadable

def integer? (cs : Chars) : Option Document :=
  match cs with
  | '0' :: 'x' :: rest => (digits? 16 rest).map fun ds => integerDocument (valueOf 16 ds)
  | '0' :: 'o' :: rest => (digits? 8 rest).map fun ds => integerDocument (valueOf 8 ds)
  | '0' :: 'b' :: rest => (digits? 2 rest).map fun ds => integerDocument (valueOf 2 ds)
  | _ =>
    let (negative, rest) := splitSign cs
    (wholeDigits? rest).map fun ds =>
      let n := valueOf 10 ds
      integerDocument (if negative then -(n : Int) else n)

def infinity : Float := 1.0 / 0.0

def notANumber : Float := 0.0 / 0.0

def isExponentMark (c : Char) : Bool := c == 'e' || c == 'E'

/-- Digits before and after the point, and the exponent.  At least one of the latter is given. -/
def float? (cs : Chars) : Option Document := do
  let (negative, rest) := splitSign cs
  let mantissa := rest.takeWhile (!isExponentMark ·)
  let power := rest.dropWhile (!isExponentMark ·)
  let exponent : Int ← match power with
    | [] => some 0
    | _ :: power =>
      let (below, ds) := splitSign power
      (digits? 10 ds).map fun ds => if below then -(valueOf 10 ds : Int) else valueOf 10 ds
  let (whole, part) ← match Text.splitAtFirst? ['.'] mantissa with
    | some (whole, part) => do some (← wholeDigits? whole, ← digits? 10 part)
    | none => if power.isEmpty then none else do some (← wholeDigits? mantissa, [])
  let significand := valueOf 10 (whole ++ part)
  let scale := exponent - part.length
  let x := Float.ofScientific significand (scale < 0) scale.natAbs
  if x.isInf then some .unreadable
  else some (.num (.float (if negative then -x else x)))

def specialFloat? (cs : Chars) : Option Document :=
  let (negative, rest) := splitSign cs
  let x : Option Float :=
    if rest = ['i', 'n', 'f'] then some infinity
    else if rest = ['n', 'a', 'n'] then some notANumber
    else none
  x.map fun x => .num (.float (if negative then -x else x))

/-- A date is read as an object with this one key, which holds its text. -/
def dateKey : String := "$__toml_private_datetime"

structure Date where
  year : Nat
  month : Nat
  day : Nat
  deriving DecidableEq, Repr

structure Time where
  hour : Nat
  minute : Nat
  second : Nat
  nanos : Nat
  deriving DecidableEq, Repr

inductive Offset where
  | utc
  | seconds (n : Int)
  deriving DecidableEq, Repr

def date? (cs : Chars) : Option (Date × Chars) := do
  let (year, rest) ← Instant.fourDigits? cs
  let rest ← Instant.mark? (· == '-') rest
  let (month, rest) ← Instant.twoDigits? rest
  let rest ← Instant.mark? (· == '-') rest
  let (day, rest) ← Instant.twoDigits? rest
  if month < 1 ∨ 12 < month ∨ day < 1 ∨ Instant.daysInMonth year month < day then none
  else some (⟨year, month, day⟩, rest)

def time? (cs : Chars) : Option (Time × Chars) := do
  let (hour, rest) ← Instant.twoDigits? cs
  let rest ← Instant.mark? (· == ':') rest
  let (minute, rest) ← Instant.twoDigits? rest
  if 23 < hour ∨ 59 < minute then none
  match rest with
  | ':' :: rest =>
    let (second, rest) ← Instant.twoDigits? rest
    let (nanos, rest) ← Instant.fraction? rest
    if 60 < second then none else some (⟨hour, minute, second, nanos⟩, rest)
  | _ => some (⟨hour, minute, 0, 0⟩, rest)

def offset? (cs : Chars) : Option (Offset × Chars) :=
  match cs with
  | 'Z' :: rest | 'z' :: rest => some (.utc, rest)
  | '+' :: _ | '-' :: _ => (Instant.offset? cs).map fun (n, rest) => (.seconds n, rest)
  | _ => none

def Date.text (d : Date) : String :=
  Instant.padded 4 d.year ++ "-" ++ Instant.padded 2 d.month ++ "-" ++ Instant.padded 2 d.day

/-- Hours, minutes, seconds, and as many fractional digits as are needed. -/
def Time.text (t : Time) : String :=
  let fraction := (Instant.padded 9 t.nanos).toList.reverse.dropWhile (· == '0')
  Instant.padded 2 t.hour ++ ":" ++ Instant.padded 2 t.minute ++ ":" ++
    Instant.padded 2 t.second ++
    if fraction.isEmpty then "" else "." ++ String.ofList fraction.reverse

def Offset.text : Offset → String
  | .utc => "Z"
  | .seconds n =>
    (if n < 0 then "-" else "+") ++ Instant.padded 2 (n.natAbs / 3600) ++ ":" ++
      Instant.padded 2 (n.natAbs / 60 % 60)

/-- The text of a date, of a time, or of both with or without an offset. -/
def dateText? (cs : Chars) : Option String :=
  match date? cs with
  | some (date, []) => some date.text
  | some (date, mark :: rest) => do
    let (time, rest) ← if Instant.isDateMark mark then time? rest else none
    let both := date.text ++ "T" ++ time.text
    if rest.isEmpty then some both
    else
      match ← offset? rest with
      | (offset, []) => some (both ++ offset.text)
      | _ => none
  | none =>
    match time? cs with
    | some (time, []) => some time.text
    | _ => none

def scalar? (cs : Chars) : Option Document :=
  if cs = ['t', 'r', 'u', 'e'] then some (.bool true)
  else if cs = ['f', 'a', 'l', 's', 'e'] then some (.bool false)
  else
    match dateText? cs with
    | some date => some (.obj [(some dateKey, .str date)])
    | none => ((integer? cs).or (specialFloat? cs)).or (float? cs)

end ModelGateway.Toml
