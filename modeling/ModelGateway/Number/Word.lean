/-!
# Machine integers

The bounds of signed 64-bit integers.
-/

namespace ModelGateway.Number

def maxInt64 : Int := 0x7FFFFFFFFFFFFFFF

def minInt64 : Int := -0x8000000000000000

def isInt64 (n : Int) : Bool :=
  minInt64 ≤ n && n ≤ maxInt64

def clampInt64 (n : Int) : Int :=
  if n < minInt64 then minInt64 else if maxInt64 < n then maxInt64 else n

end ModelGateway.Number
