import ModelGateway.Number.Binary64

/-!
# Shortest decimals

The decimal with the fewest digits that a binary number is the nearest one to, and of several such
decimals the one closest to it.  For each count of digits the two neighbours of the value on that
decimal grid are tried, in exact arithmetic.
-/

namespace ModelGateway.Number

structure Decimal where
  digits : Nat
  exponent : Int
  deriving DecidableEq, Repr

/-- The reals that round to one binary number, in units of `2 ^ exponent`: `low`, the number itself
and `high`. -/
structure Interval where
  low : Nat
  value : Nat
  high : Nat
  closed : Bool
  exponent : Int
  deriving DecidableEq, Repr

def Interval.of (significand : Nat) (exponent : Int) : Interval where
  low :=
    if significand = hiddenBit ∧ -1074 < exponent then 4 * significand - 1
    else 4 * significand - 2
  value := 4 * significand
  high := 4 * significand + 2
  closed := significand % 2 = 0
  exponent := exponent - 2

def scale (ten two : Int) : Nat × Nat :=
  (Nat.pow 10 ten.toNat * Nat.pow 2 (-two).toNat, Nat.pow 10 (-ten).toNat * Nat.pow 2 two.toNat)

def Interval.contains (i : Interval) (d : Decimal) : Bool :=
  let (a, b) := scale d.exponent i.exponent
  if i.closed then i.low * b ≤ d.digits * a && d.digits * a ≤ i.high * b
  else i.low * b < d.digits * a && d.digits * a < i.high * b

def Interval.reaches (i : Interval) (power : Int) : Bool :=
  let (a, b) := scale power i.exponent
  a ≤ i.value * b

/-- The power of ten just above the value: it lies in `[10 ^ (p - 1), 10 ^ p)`. -/
def Interval.magnitude (i : Interval) : Int :=
  let guess := ((i.value.log2 : Int) + i.exponent) * 30103 / 100000
  if i.reaches (guess + 1) then guess + 2
  else if i.reaches guess then guess + 1
  else guess

/-- The decimal on the grid of `10 ^ power` closest to the value, if one lies in the interval; a tie
goes to the even one. -/
def Interval.onGrid? (i : Interval) (power : Int) : Option Decimal :=
  let (a, b) := scale power i.exponent
  let below : Decimal := ⟨i.value * b / a, power⟩
  let above : Decimal := ⟨below.digits + 1, power⟩
  match i.contains below && below.digits != 0, i.contains above with
  | true, true =>
    let nearest := roundDiv .even (i.value * b) a
    some ⟨nearest, power⟩
  | true, false => some below
  | false, true => some above
  | false, false => none

def Interval.search (i : Interval) (magnitude : Int) : (left count : Nat) → Decimal
  | 0, count => ⟨roundDiv .even (i.value * (scale (magnitude - count) i.exponent).2)
      (scale (magnitude - count) i.exponent).1, magnitude - count⟩
  | left + 1, count =>
    match i.onGrid? (magnitude - count) with
    | some d => d
    | none => i.search magnitude left (count + 1)

/-- The digits without the zeros at their end; `fuel` bounds how many there can be. -/
def Decimal.strip : (fuel : Nat) → Decimal → Decimal
  | 0, d => d
  | fuel + 1, d =>
    if d.digits ≠ 0 ∧ d.digits % 10 = 0 then Decimal.strip fuel ⟨d.digits / 10, d.exponent + 1⟩
    else d

/-- The shortest decimal for `significand · 2 ^ exponent`, a number above zero. -/
def shortest (significand : Nat) (exponent : Int) : Decimal :=
  let i := Interval.of significand exponent
  Decimal.strip 20 (i.search i.magnitude 16 1)

end ModelGateway.Number
