import ModelGateway.Channel.Basic
import ModelGateway.Failure
import ModelGateway.Settings.Basic

/-!
# Choosing a channel and a key

Candidates are the enabled channels that list the model, in their order.  Under round robin a
counter for each model goes round the candidates, and a counter for each channel goes round its
keys.
-/

namespace ModelGateway

structure Rotation where
  /-- Choices made so far, by model. -/
  models : List (String × Nat) := []
  /-- Choices of a key made so far, by channel. -/
  channels : List (Int × Nat) := []
  deriving DecidableEq, Repr

namespace Rotation

def wordLimit : Nat := UInt64.size

def advance [BEq κ] (key : κ) : List (κ × Nat) → List (κ × Nat)
  | [] => [(key, 1)]
  | (k, n) :: rest =>
    if k == key then (k, (n + 1) % wordLimit) :: rest else (k, n) :: advance key rest

def position [BEq κ] (key : κ) (counters : List (κ × Nat)) : Nat :=
  (counters.lookup key).getD 0

end Rotation

namespace Balancer

abbrev Dice := Nat → Nat

def candidates (channels : List Channel) (model : String) : List Channel :=
  channels.filter fun c => c.isEnabled && c.supportsModel model

def channelPlace (strategy : Strategy) (dice : Dice) (model : String) (count : Nat) :
    StateM Rotation Nat := fun r =>
  match strategy with
  | .firstAvailable => (0, r)
  | .roundRobin =>
    (Rotation.position model r.models % count, { r with models := Rotation.advance model r.models })
  | .random => (dice count % count, r)

def keyPlace (strategy : Strategy) (dice : Dice) (channel : Int) (count : Nat) :
    StateM Rotation Nat := fun r =>
  match strategy with
  | .firstAvailable => (0, r)
  | .roundRobin =>
    (Rotation.position channel r.channels % count,
      { r with channels := Rotation.advance channel r.channels })
  | .random => (dice count % count, r)

def select (strategy : Strategy) (dice : Dice) (channels : List Channel) (model : String) :
    StateM Rotation (Except BalanceError (Channel × String)) := do
  let found := candidates channels model
  if found.isEmpty then return .error (.noChannel model)
  match found[← channelPlace strategy dice model found.length]? with
  | none => return .error (.noChannel model)
  | some channel =>
    let keys := channel.keys
    if keys.isEmpty then return .error (.noKeys channel.id)
    match keys[← keyPlace strategy dice channel.id keys.length]? with
    | none => return .error (.noKeys channel.id)
    | some key => return .ok (channel, key)

end Balancer

end ModelGateway
