/-!
# Rounding a quotient

One function rounds `num / den` to a whole number; how a half is settled is a parameter.
-/

namespace ModelGateway.Number

/-- Where a quotient exactly between two whole numbers goes. -/
inductive Tie where
  | even
  | away
  deriving DecidableEq, Repr

/-- The whole number nearest to `num / den`, for `den` above zero. -/
def roundDiv (tie : Tie) (num den : Nat) : Nat :=
  let floor := num / den
  let twice := 2 * (num % den)
  if twice < den then floor
  else if den < twice then floor + 1
  else
    match tie with
    | .away => floor + 1
    | .even => if floor % 2 = 0 then floor else floor + 1

theorem roundDiv_eq_floor_or_succ (tie : Tie) (num den : Nat) :
    roundDiv tie num den = num / den ∨ roundDiv tie num den = num / den + 1 := by
  unfold roundDiv
  cases tie <;> grind

def roundScaled (tie : Tie) (num : Nat) (exponent : Int) : Nat :=
  match exponent with
  | .ofNat e => num * Nat.pow 2 e
  | .negSucc e => roundDiv tie num (Nat.pow 2 (e + 1))

end ModelGateway.Number
