import ModelGateway.Number.Rounding
import ModelGateway.Number.Word

/-!
# Binary floating point, taken apart

A finite `Float` is a sign, a significand and a power of two.  On these parts, rounding to a whole
number and truncating to a machine integer are exact arithmetic.
-/

namespace ModelGateway.Number

/-- The value `± significand · 2 ^ exponent`. -/
structure Parts where
  negative : Bool
  significand : Nat
  exponent : Int
  deriving DecidableEq, Repr

/-- The significand of the least number with a given exponent, one above the greatest fraction. -/
def hiddenBit : Nat := 0x10000000000000

def signBit (x : Float) : Bool :=
  0x8000000000000000 ≤ x.toBits.toNat

def biasedExponent (x : Float) : Nat :=
  x.toBits.toNat / hiddenBit % 2048

def fraction (x : Float) : Nat :=
  x.toBits.toNat % hiddenBit

def isNaN (x : Float) : Bool :=
  biasedExponent x == 2047 && fraction x != 0

def isInfinite (x : Float) : Bool :=
  biasedExponent x == 2047 && fraction x == 0

def parts? (x : Float) : Option Parts :=
  let biased := biasedExponent x
  if biased = 2047 then none
  else if biased = 0 then some ⟨signBit x, fraction x, -1074⟩
  else some ⟨signBit x, fraction x + hiddenBit, (biased : Int) - 1075⟩

def ofNat (n : Nat) : Float :=
  n.toUInt64.toFloat

/-- The nearest number to an integer from `-2 ^ 63` up to `2 ^ 64`. -/
def ofInt (n : Int) : Float :=
  match n with
  | .ofNat m => ofNat m
  | .negSucc m => -(ofNat (m + 1))

def round (x : Float) : Float :=
  match parts? x with
  | none => x
  | some p =>
    if 0 ≤ p.exponent then x
    else
      let whole := ofNat (roundScaled .away p.significand p.exponent)
      if p.negative then -whole else whole

/-- The whole part as a signed 64-bit integer: out of range it is the nearest bound, and zero for
what is no number. -/
def toInt64 (x : Float) : Int :=
  match parts? x with
  | none => if isNaN x then 0 else if signBit x then minInt64 else maxInt64
  | some p =>
    let whole : Nat :=
      match p.exponent with
      | .ofNat e => p.significand * Nat.pow 2 e
      | .negSucc e => p.significand / Nat.pow 2 (e + 1)
    clampInt64 (if p.negative then -(whole : Int) else whole)

end ModelGateway.Number
