import ModelGateway.Proofs.Relay.Endings

/-!
# Sums that are not counts

The sum or the product of two counts is a count, or what takes it crashes.
-/

namespace ModelGateway

theorem bind_eq_crashed {α β : Type} {x : Except Halt α} {f : α → Except Halt β} :
    (x >>= f) = .error .crashed ↔
      x = .error .crashed ∨ ∃ a, x = .ok a ∧ f a = .error .crashed := by
  cases x with
  | error halt =>
      change Except.error halt = _ ↔ _
      simp
  | ok a =>
      change f a = _ ↔ _
      simp

namespace Usage

theorem add?_eq_crashed {a b : UInt32} :
    add? a b = .error .crashed ↔ UInt32.size ≤ a.toNat + b.toNat := by
  unfold add?
  split
  · next h => exact iff_of_false nofun (Nat.not_le.mpr h)
  · next h => exact iff_of_true rfl (Nat.not_lt.mp h)

theorem mul?_eq_crashed {a b : UInt32} :
    mul? a b = .error .crashed ↔ UInt32.size ≤ a.toNat * b.toNat := by
  unfold mul?
  split
  · next h => exact iff_of_false nofun (Nat.not_le.mpr h)
  · next h => exact iff_of_true rfl (Nat.not_lt.mp h)

theorem ofCounts_eq_crashed {prompt completion : UInt32} :
    ofCounts prompt completion = .error .crashed ↔
      UInt32.size ≤ prompt.toNat + completion.toNat := by
  rw [ofCounts, bind_eq_crashed, add?_eq_crashed]
  refine or_iff_left ?_
  rintro ⟨_, -, h⟩
  cases h

theorem ofCounts_zero_ne_crashed (prompt : UInt32) : ofCounts prompt 0 ≠ .error .crashed := by
  obtain ⟨usage, h⟩ := exists_ofCounts_zero prompt
  rw [h]
  nofun

theorem ofResponse?_eq_crashed {response : Json} :
    ofResponse? response = .error .crashed ↔ UInt32.size ≤ reportedSum response := by
  unfold ofResponse? reportedSum
  cases response.get? "usage" with
  | none => exact iff_of_false nofun (by decide)
  | some u =>
      dsimp only
      split
      · next hnothing =>
        have hmissing : count? "prompt_tokens" u = none ∧ count? "completion_tokens" u = none := by
          simp only [Bool.and_eq_true, Option.isNone_iff_eq_none] at hnothing
          exact ⟨hnothing.1.1.1.1, hnothing.1.1.1.2⟩
        rw [hmissing.1, hmissing.2]
        exact iff_of_false nofun (by decide)
      · rw [bind_eq_crashed, add?_eq_crashed]
        exact or_iff_left fun ⟨_, _, h⟩ => nomatch h

end Usage

namespace Handled

theorem outcome_after (usage : Except Halt Usage) (writes : Usage → List Write) :
    (after usage writes).outcome = usage := by
  cases usage <;> rfl

def IsWhole (handled : Handled) : Prop :=
  ∃ usage writes, handled = after usage writes

theorem isWhole_fail (f : RelayFailure) : (fail f).IsWhole :=
  ⟨.error (.failed f), fun _ => [], rfl⟩

theorem isWhole_after (usage : Except Halt Usage) (writes : Usage → List Write) :
    (after usage writes).IsWhole := ⟨usage, writes, rfl⟩

theorem IsWhole.writes_of_crashed {handled : Handled} (h : handled.IsWhole)
    (hcrashed : handled.outcome = .error .crashed) : handled.writes = [] := by
  obtain ⟨usage, writes, rfl⟩ := h
  rw [outcome_after] at hcrashed
  rw [hcrashed]
  rfl

end Handled

end ModelGateway
