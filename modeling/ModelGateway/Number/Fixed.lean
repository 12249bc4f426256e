import ModelGateway.Number.Binary64

/-!
# Decimals with two places

The value is rounded exactly, a half going to the even neighbour.
-/

namespace ModelGateway.Number

def hundredths (n : Nat) : String :=
  let cents := n % 100
  Nat.repr (n / 100) ++ "." ++ (if cents < 10 then "0" else "") ++ Nat.repr cents

def twoPlaces (x : Float) : String :=
  match parts? x with
  | none => if isNaN x then "NaN" else "inf"
  | some p => hundredths (roundScaled .even (p.significand * 100) p.exponent)

end ModelGateway.Number
