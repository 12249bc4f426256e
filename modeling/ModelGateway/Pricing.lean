import ModelGateway.Settings.Basic
import ModelGateway.Usage

/-!
# Prices and quota

A model has a flat price, or a ratio to tokens with a ratio of its own for completions.  The quota
of a call follows from the price and the usage, in floating-point arithmetic with every step
rounded.
-/

namespace ModelGateway

structure Price where
  modelRatio : Float
  completionRatio : Float
  modelPrice : Float
  isFlat : Bool
  deriving DecidableEq, Repr

namespace PricingSettings

def unpriced (model : String) : RelayFailure :=
  ⟨.modelPriceError, "model " ++ model ++ " ratio or price not set", none, none, none⟩

def priceFor (s : PricingSettings) (model : String) : Except RelayFailure Price :=
  match s.modelPrice.lookup model with
  | some price => .ok ⟨0.0, 0.0, price, true⟩
  | none =>
    match (s.modelRatio.lookup model).or s.defaultModelRatio with
    | some ratio => .ok ⟨ratio, (s.completionRatio.lookup model).getD 1.0, 0.0, false⟩
    | none => .error (unpriced model)

end PricingSettings

namespace Price

def tokens (n : UInt32) : Float := Number.ofNat n.toNat

/-- The quota of a call; a model that costs anything costs at least one. -/
def quota (p : Price) (usage : Usage) (quotaPerUnit : Float) : Int :=
  if p.isFlat then Number.toInt64 (p.modelPrice * quotaPerUnit)
  else
    let completion := Number.round (tokens usage.completion * p.completionRatio)
    let total := Number.round (tokens usage.prompt + completion)
    let quota := Number.toInt64 (Number.round (total * p.modelRatio))
    if p.modelRatio != 0.0 && quota ≤ 0 then 1 else quota

end Price

end ModelGateway
