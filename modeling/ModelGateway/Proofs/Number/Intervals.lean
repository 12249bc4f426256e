import Mathlib.Algebra.Order.Field.Power
import Mathlib.Data.Rat.Cast.Order
import Mathlib.Tactic.FieldSimp
import Mathlib.Tactic.Linarith
import Mathlib.Tactic.Positivity
import Mathlib.Tactic.Ring
import ModelGateway.Number.Shortest

/-!
# Intervals of binary numbers

The interval of a binary number is the set of rationals that round to it.  The intervals of two
numbers have nothing in common: where they meet, one of them is open, as of two neighbours one is
odd.
-/

namespace ModelGateway.Number

theorem scale_pos (ten two : Int) : 0 < (scale ten two).1 ∧ 0 < (scale ten two).2 := by
  constructor <;> exact Nat.mul_pos (Nat.pow_pos (by decide)) (Nat.pow_pos (by decide))

theorem scale_eq (ten two : Int) :
    ((scale ten two).1 : ℚ) * 2 ^ two = (scale ten two).2 * 10 ^ ten := by
  have hzpow : ∀ (b : ℚ) (n : Int), b ≠ 0 → b ^ n * b ^ (-n).toNat = b ^ n.toNat := by
    intro b n hb
    rw [← zpow_natCast, ← zpow_natCast, ← zpow_add₀ hb]
    congr 1
    omega
  have hten := hzpow 10 ten (by norm_num)
  have htwo := hzpow 2 two (by norm_num)
  simp only [scale, Nat.pow_eq, Nat.cast_mul, Nat.cast_pow, Nat.cast_ofNat]
  rw [← hten, ← htwo]
  ring

/-- Products with the factors compare as multiples of the two powers do. -/
theorem exists_scale (ten two : Int) : ∃ c : ℚ, 0 < c ∧
    (∀ m : Nat, ((m * (scale ten two).2 : Nat) : ℚ) = c * (m * 2 ^ two)) ∧
    ∀ n : Nat, ((n * (scale ten two).1 : Nat) : ℚ) = c * (n * 10 ^ ten) := by
  have hb : (0 : ℚ) < (scale ten two).2 := by exact_mod_cast (scale_pos ten two).2
  have htwo : (0 : ℚ) < 2 ^ two := by positivity
  refine ⟨(scale ten two).2 / 2 ^ two, by positivity, fun m => ?_, fun n => ?_⟩
  · rw [Nat.cast_mul]
    field_simp
  · rw [Nat.cast_mul, div_mul_eq_mul_div, eq_div_iff htwo.ne', mul_assoc, scale_eq]
    ring

def Decimal.value (d : Decimal) : ℚ := d.digits * 10 ^ d.exponent

namespace Interval

def bottom (i : Interval) : ℚ := i.low * 2 ^ i.exponent

def middle (i : Interval) : ℚ := i.value * 2 ^ i.exponent

def top (i : Interval) : ℚ := i.high * 2 ^ i.exponent

def Has (i : Interval) (x : ℚ) : Prop :=
  (i.bottom < x ∧ x < i.top) ∨ (i.closed = true ∧ i.bottom ≤ x ∧ x ≤ i.top)

theorem Has.le {i : Interval} {x : ℚ} (h : i.Has x) : i.bottom ≤ x ∧ x ≤ i.top := by
  rcases h with ⟨hlow, hhigh⟩ | ⟨-, hlow, hhigh⟩
  · exact ⟨hlow.le, hhigh.le⟩
  · exact ⟨hlow, hhigh⟩

theorem has_of_contains {i : Interval} {d : Decimal} (h : i.contains d = true) : i.Has d.value := by
  obtain ⟨c, hc, htwo, hten⟩ := exists_scale d.exponent i.exponent
  unfold contains at h
  dsimp only at h
  cases hclosed : i.closed with
  | true =>
      simp only [hclosed, if_true, Bool.and_eq_true, decide_eq_true_eq] at h
      refine .inr ⟨hclosed, ?_, ?_⟩
      · have hlow := h.1
        rw [← Nat.cast_le (α := ℚ), htwo, hten, mul_le_mul_iff_right₀ hc] at hlow
        exact hlow
      · have hhigh := h.2
        rw [← Nat.cast_le (α := ℚ), htwo, hten, mul_le_mul_iff_right₀ hc] at hhigh
        exact hhigh
  | false =>
      simp only [hclosed, Bool.false_eq_true, if_false, Bool.and_eq_true, decide_eq_true_eq] at h
      refine .inl ⟨?_, ?_⟩
      · have hlow := h.1
        rw [← Nat.cast_lt (α := ℚ), htwo, hten, mul_lt_mul_iff_right₀ hc] at hlow
        exact hlow
      · have hhigh := h.2
        rw [← Nat.cast_lt (α := ℚ), htwo, hten, mul_lt_mul_iff_right₀ hc] at hhigh
        exact hhigh

theorem apart {i j : Interval} {x : ℚ} (h : i.top ≤ j.bottom)
    (hopen : i.closed = true → j.closed = true → i.top < j.bottom) (hi : i.Has x) (hj : j.Has x) :
    False := by
  rcases hi with ⟨-, hhigh⟩ | ⟨hclosed, -, hhigh⟩
  · exact absurd hj.le.1 (by linarith)
  · rcases hj with ⟨hlow, -⟩ | ⟨hclosed', hlow, -⟩
    · linarith
    · linarith [hopen hclosed hclosed']

end Interval

structure Proper (significand : Nat) (exponent : Int) : Prop where
  pos : 0 < significand
  lt : significand < 2 * hiddenBit
  least : -1074 ≤ exponent
  greatest : exponent ≤ 971
  normal : -1074 < exponent → hiddenBit ≤ significand

variable {m m' : Nat} {e e' : Int} {x : ℚ}

theorem high_le_low (hp : Proper m e) (hp' : Proper m' e') {k : Nat} (hk : e' = e + k)
    (h : 0 < k ∨ m < m') :
    4 * m + 2 ≤ (Interval.of m' e').low * 2 ^ k ∧
      (m % 2 = 0 → m' % 2 = 0 → 4 * m + 2 < (Interval.of m' e').low * 2 ^ k) := by
  have hbit : hiddenBit = 4503599627370496 := rfl
  have hlow : (Interval.of m' e').low =
      if m' = hiddenBit ∧ -1074 < e' then 4 * m' - 1 else 4 * m' - 2 := rfl
  have hpos := hp'.pos
  have hleast := hp.least
  have hlt := hp.lt
  cases k with
  | zero =>
      have hmm : m < m' := h.resolve_left (Nat.lt_irrefl 0)
      rw [Nat.pow_zero, Nat.mul_one]
      split at hlow <;> omega
  | succ k =>
      have hnormal := hp'.normal (by omega)
      have htwice : (Interval.of m' e').low * 2 ≤ (Interval.of m' e').low * 2 ^ (k + 1) :=
        Nat.mul_le_mul_left _ (by rw [Nat.pow_succ]; have := Nat.one_le_two_pow (n := k); omega)
      split at hlow <;> omega

theorem not_has_of_lt (hp : Proper m e) (hp' : Proper m' e') (h : e < e' ∨ e = e' ∧ m < m')
    (hx : (Interval.of m e).Has x) (hx' : (Interval.of m' e').Has x) : False := by
  obtain ⟨k, hk⟩ : ∃ k : Nat, e' = e + k := ⟨(e' - e).toNat, by omega⟩
  obtain ⟨hle, hlt⟩ := high_le_low hp hp' hk (by omega)
  have hunit : (0 : ℚ) < 2 ^ (e - 2) := by positivity
  have htop : (Interval.of m e).top = ((4 * m + 2 : Nat) : ℚ) * 2 ^ (e - 2) := rfl
  have hbottom : (Interval.of m' e').bottom =
      (((Interval.of m' e').low * 2 ^ k : Nat) : ℚ) * 2 ^ (e - 2) := by
    have hexponent : (Interval.of m' e').exponent = k + (e - 2) := by
      rw [hk]
      simp only [Interval.of]
      omega
    rw [Interval.bottom, hexponent, zpow_add₀ (by norm_num), zpow_natCast, Nat.cast_mul]
    push_cast
    ring
  refine Interval.apart ?_ (fun hclosed hclosed' => ?_) hx hx'
  · rw [htop, hbottom, mul_le_mul_iff_left₀ hunit]
    exact_mod_cast hle
  · rw [htop, hbottom, mul_lt_mul_iff_left₀ hunit]
    exact_mod_cast hlt (by simpa [Interval.of] using hclosed)
      (by simpa [Interval.of] using hclosed')

/-- A rational rounds to one binary number only. -/
theorem eq_of_has (hp : Proper m e) (hp' : Proper m' e') (hx : (Interval.of m e).Has x)
    (hx' : (Interval.of m' e').Has x) : m = m' ∧ e = e' := by
  rcases lt_trichotomy e e' with hlt | rfl | hgt
  · exact (not_has_of_lt hp hp' (.inl hlt) hx hx').elim
  · rcases lt_trichotomy m m' with hlt | rfl | hgt
    · exact (not_has_of_lt hp hp' (.inr ⟨rfl, hlt⟩) hx hx').elim
    · exact ⟨rfl, rfl⟩
    · exact (not_has_of_lt hp' hp (.inr ⟨rfl, hgt⟩) hx' hx).elim
  · exact (not_has_of_lt hp' hp (.inl hgt) hx' hx).elim

end ModelGateway.Number
