import ModelGateway.Json.Basic
import ModelGateway.Number.Binary64

/-!
# Reading numerals

A numeral without fraction and exponent is a whole number if it fits 64 bits.  Any other becomes a
floating-point number: as many leading digits as 64 bits hold, scaled by powers of ten in
floating-point arithmetic, so the last place may differ from the nearest number.  A numeral beyond
the largest finite number denotes nothing.
-/

namespace ModelGateway.Json

/-- The parts of a numeral, digits as numbers below ten. -/
structure Numeral where
  negative : Bool
  whole : List Nat
  fraction : List Nat
  /-- The exponent's sign (negative or not) and digits. -/
  exponent : Option (Bool × List Nat)
  deriving DecidableEq, Repr

def maxSignificand : Nat := 0xFFFFFFFFFFFFFFFF

def maxExponent : Nat := 0x7FFFFFFF

/-- Appends digits to `n` while the result stays at most `limit`; the digits left over. -/
def takeDigits (limit : Nat) : Nat → List Nat → Nat × List Nat
  | n, [] => (n, [])
  | n, d :: rest =>
    if limit < n * 10 + d then (n, d :: rest) else takeDigits limit (n * 10 + d) rest

def clampExponent (e : Int) : Int :=
  if e < -(maxExponent + 1) then -(maxExponent + 1) else if maxExponent < e then maxExponent else e

/-- `x · 10 ^ exponent`, one scaling by at most `10 ^ 308` at a time. -/
def scaleFloat? : (fuel : Nat) → Float → Int → Option Float
  | 0, x, _ => some x
  | fuel + 1, x, exponent =>
    if exponent.natAbs ≤ 308 then
      let power := Float.ofScientific 1 false exponent.natAbs
      if 0 ≤ exponent then
        let y := x * power
        if Number.isInfinite y then none else some y
      else some (x / power)
    else if x == 0.0 then some x
    else if 0 ≤ exponent then none
    else scaleFloat? fuel (x / Float.ofScientific 1 false 308) (exponent + 308)

def withSign (negative : Bool) (x : Float) : Float :=
  if negative then -x else x

/-- Applies the written exponent to `significand · 10 ^ exponent`. -/
def Numeral.scaled? (n : Numeral) (significand : Nat) (exponent : Int) : Option Float :=
  match n.exponent with
  | none => (scaleFloat? 4 (Number.ofNat significand) exponent).map (withSign n.negative)
  | some (negative, digits) =>
    let (written, left) := takeDigits maxExponent 0 digits
    if left.isEmpty then
      let total := clampExponent (if negative then exponent - written else exponent + written)
      (scaleFloat? 4 (Number.ofNat significand) total).map (withSign n.negative)
    else if significand ≠ 0 ∧ ¬ negative then none
    else some (withSign n.negative 0.0)

def Numeral.number? (n : Numeral) : Option Number :=
  let (significand, left) := takeDigits maxSignificand 0 n.whole
  if left.isEmpty && n.fraction.isEmpty && n.exponent.isNone then
    if !n.negative then some (.int significand)
    else if significand = 0 ∨ -(significand : Int) < Number.minInt64 then
      some (.float (-(Number.ofNat significand)))
    else some (.int (-(significand : Int)))
  else
    let (extended, dropped) := takeDigits maxSignificand significand n.fraction
    let taken := n.fraction.length - dropped.length
    (n.scaled? extended ((left.length : Int) - taken)).map .float

end ModelGateway.Json
