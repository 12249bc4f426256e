import ModelGateway.Proofs.Number.Intervals

/-!
# Shortest decimals round back

The shortest decimal of a number lies in the interval of the number: one that is found on a grid was
tested, and one of 17 digits is nearer than the ends of the interval.  So it determines the number.
-/

namespace ModelGateway.Number

theorem value_strip (fuel : Nat) (d : Decimal) : (d.strip fuel).value = d.value := by
  induction fuel generalizing d with
  | zero => rfl
  | succ fuel ih =>
      rw [Decimal.strip]
      split
      · next h =>
        obtain ⟨n, hn⟩ : ∃ n, d.digits = n * 10 := ⟨d.digits / 10, by omega⟩
        rw [ih, Decimal.value, Decimal.value, hn, Nat.mul_div_cancel n (by decide),
          zpow_add_one₀ (by norm_num)]
        push_cast
        ring
      · rfl

theorem roundDiv_near (tie : Tie) (num : Nat) {den : Nat} (h : 0 < den) :
    2 * (roundDiv tie num den * den) ≤ 2 * num + den ∧
      2 * num ≤ 2 * (roundDiv tie num den * den) + den := by
  have hdiv := Nat.div_add_mod num den
  have hmod := Nat.mod_lt num h
  have hsucc : (num / den + 1) * den = den * (num / den) + den := by ring
  have hsame : num / den * den = den * (num / den) := Nat.mul_comm _ _
  unfold roundDiv
  dsimp only
  cases tie <;> split_ifs <;> (try rw [hsucc]) <;> (try rw [hsame]) <;> omega

theorem reaches_iff (i : Interval) (power : Int) :
    i.reaches power = true ↔ (10 : ℚ) ^ power ≤ i.middle := by
  obtain ⟨c, hc, htwo, hten⟩ := exists_scale power i.exponent
  have hone := hten 1
  rw [Nat.one_mul, Nat.cast_one, one_mul] at hone
  simp only [Interval.reaches, decide_eq_true_eq, Interval.middle]
  rw [← Nat.cast_le (α := ℚ), htwo, hone, mul_le_mul_iff_right₀ hc]

theorem ten_pow_le_two_pow {k : Int} (hlow : -1100 ≤ k) (hhigh : k ≤ 1100) :
    (10 : ℚ) ^ (k * 30103 / 100000 - 1) ≤ 2 ^ k := by
  have hup : ∀ n < 1101, 10 ^ (n * 30103 / 100000) ≤ 10 * 2 ^ n := by decide +kernel
  have hdown : ∀ n < 1101, 2 ^ n ≤ 10 ^ ((n * 30103 + 99999) / 100000 + 1) := by decide +kernel
  obtain ⟨n, rfl | rfl⟩ := k.eq_nat_or_neg
  · have hguess : (n : Int) * 30103 / 100000 = ((n * 30103 / 100000 : Nat) : Int) := by omega
    have hn : ((10 : ℚ) ^ (n * 30103 / 100000)) ≤ 10 * 2 ^ n := by
      exact_mod_cast hup n (by omega)
    rw [hguess, zpow_sub_one₀ (by norm_num), zpow_natCast, zpow_natCast,
      mul_inv_le_iff₀ (by norm_num)]
    linarith
  · have hguess : -(n : Int) * 30103 / 100000 - 1 =
        -(((n * 30103 + 99999) / 100000 + 1 : Nat) : Int) := by omega
    have hn : (2 : ℚ) ^ n ≤ 10 ^ ((n * 30103 + 99999) / 100000 + 1) := by
      exact_mod_cast hdown n (by omega)
    rw [hguess, zpow_neg, zpow_neg, zpow_natCast, zpow_natCast]
    exact inv_anti₀ (by positivity) hn

theorem ten_pow_magnitude_le {i : Interval} (hpos : 0 < i.value)
    (hlow : -1100 ≤ (i.value.log2 : Int) + i.exponent)
    (hhigh : (i.value.log2 : Int) + i.exponent ≤ 1100) :
    (10 : ℚ) ^ (i.magnitude - 1) ≤ i.middle := by
  have hlog : (2 : ℚ) ^ ((i.value.log2 : Int) + i.exponent) ≤ i.middle := by
    have hpow : ((2 ^ i.value.log2 : Nat) : ℚ) ≤ i.value := by
      exact_mod_cast Nat.log2_self_le hpos.ne'
    rw [Interval.middle, zpow_add₀ (by norm_num), zpow_natCast]
    have hunit : (0 : ℚ) < 2 ^ i.exponent := by positivity
    rw [mul_le_mul_iff_left₀ hunit]
    exact_mod_cast hpow
  unfold Interval.magnitude
  dsimp only
  split
  · next h =>
    have hreaches := (reaches_iff _ _).mp h
    rwa [show ((i.value.log2 : Int) + i.exponent) * 30103 / 100000 + 2 - 1 =
      ((i.value.log2 : Int) + i.exponent) * 30103 / 100000 + 1 by omega]
  split
  · next h =>
    have hreaches := (reaches_iff _ _).mp h
    rwa [add_sub_cancel_right]
  · exact (ten_pow_le_two_pow hlow hhigh).trans hlog

/-! ## Search -/

theorem has_of_onGrid? {i : Interval} {power : Int} {d : Decimal} (h : i.onGrid? power = some d) :
    i.Has d.value := by
  unfold Interval.onGrid? at h
  dsimp only at h
  split at h
  · next hbelow habove =>
    have hbelow := (Bool.and_eq_true_iff.mp hbelow).1
    obtain rfl := Option.some.inj h
    rcases roundDiv_eq_floor_or_succ .even (i.value * (scale power i.exponent).2)
      (scale power i.exponent).1 with hfloor | hsucc
    · rw [hfloor]
      exact Interval.has_of_contains hbelow
    · rw [hsucc]
      exact Interval.has_of_contains habove
  · next hbelow _ =>
    obtain rfl := Option.some.inj h
    exact Interval.has_of_contains (Bool.and_eq_true_iff.mp hbelow).1
  · next _ habove =>
    obtain rfl := Option.some.inj h
    exact Interval.has_of_contains habove
  · cases h

/-- The nearest number on a grid is a half of its width away at most. -/
theorem nearest_near (i : Interval) (power : Int) :
    |(roundDiv .even (i.value * (scale power i.exponent).2) (scale power i.exponent).1 : ℚ) *
      10 ^ power - i.middle| ≤ 10 ^ power / 2 := by
  obtain ⟨c, hc, htwo, hten⟩ := exists_scale power i.exponent
  obtain ⟨hhigh, hlow⟩ := roundDiv_near .even (i.value * (scale power i.exponent).2)
    (scale_pos power i.exponent).1
  have hone := hten 1
  rw [Nat.one_mul, Nat.cast_one, one_mul] at hone
  rw [← Nat.cast_le (α := ℚ)] at hhigh hlow
  simp only [Nat.cast_add, Nat.cast_mul, Nat.cast_ofNat] at hhigh hlow
  simp only [Nat.cast_mul] at hten htwo
  rw [hten, htwo, hone] at hhigh hlow
  rw [Interval.middle, abs_le]
  generalize (roundDiv .even (i.value * (scale power i.exponent).2)
    (scale power i.exponent).1 : ℚ) = rounded at hhigh hlow ⊢
  have hover : c * (2 * (rounded * 10 ^ power)) ≤
      c * (2 * (i.value * 2 ^ i.exponent) + 10 ^ power) := by linarith
  have hunder : c * (2 * (i.value * 2 ^ i.exponent)) ≤
      c * (2 * (rounded * 10 ^ power) + 10 ^ power) := by linarith
  have hover := le_of_mul_le_mul_left hover hc
  have hunder := le_of_mul_le_mul_left hunder hc
  constructor <;> linarith

theorem has_search {i : Interval} {magnitude : Int} (left count : Nat)
    (hlast : i.Has (i.search magnitude 0 (count + left)).value) :
    i.Has (i.search magnitude left count).value := by
  induction left generalizing count with
  | zero => exact hlast
  | succ left ih =>
      rw [Interval.search]
      split
      · next d hd => exact has_of_onGrid? hd
      · exact ih (count + 1) (by rwa [Nat.add_right_comm])

variable {m : Nat} {e : Int}

/-- With 17 digits, a decimal is nearer to a number than the ends of its interval. -/
theorem has_last (hp : Proper m e) :
    (Interval.of m e).Has
      ((Interval.of m e).search (Interval.of m e).magnitude 0 17).value := by
  obtain ⟨i, hi⟩ : ∃ i, i = Interval.of m e := ⟨_, rfl⟩
  have hbit : hiddenBit = 4503599627370496 := rfl
  have hunit : (0 : ℚ) < 2 ^ (e - 2) := by positivity
  have hmiddle : i.middle = 4 * m * 2 ^ (e - 2) := by
    rw [hi, Interval.middle]
    push_cast [Interval.of]
    ring
  have hmagnitude : (10 : ℚ) ^ (i.magnitude - 1) ≤ i.middle := by
    have hpos := hp.pos
    have hlog : i.value.log2 < 55 := by
      rw [hi]
      refine (Nat.log2_lt (by simp only [Interval.of]; omega)).mpr ?_
      have hlt := hp.lt
      simp only [Interval.of]
      omega
    have hleast := hp.least
    have hgreatest := hp.greatest
    have hexponent : i.exponent = e - 2 := by rw [hi]; rfl
    refine ten_pow_magnitude_le ?_ (by omega) (by omega)
    rw [hi]
    simp only [Interval.of]
    omega
  have hgrid : (10 : ℚ) ^ (i.magnitude - 17) ≤ 4 * m * 2 ^ (e - 2) / 10 ^ 16 := by
    rw [show i.magnitude - 17 = (i.magnitude - 1) - 16 by omega, zpow_sub₀ (by norm_num), ← hmiddle]
    exact div_le_div_of_nonneg_right hmagnitude (by positivity)
  have hnear : |(i.search i.magnitude 0 17).value - 4 * m * 2 ^ (e - 2)| ≤
      2 * m / 10 ^ 16 * 2 ^ (e - 2) := by
    refine (hmiddle ▸ nearest_near i (i.magnitude - 17)).trans ?_
    linarith
  obtain ⟨habove, hbelow⟩ := abs_le.mp hnear
  rw [← hi]
  have hlt : (m : ℚ) < 9007199254740992 := by exact_mod_cast hp.lt
  refine .inl ⟨?_, ?_⟩
  · have hgap : (i.low : ℚ) + 2 * m / 10 ^ 16 < 4 * m := by
      have hpos := hp.pos
      by_cases hnarrow : m = hiddenBit ∧ -1074 < e
      · have hlow : i.low + 1 = 4 * m := by
          rw [hi]
          simp only [Interval.of, if_pos hnarrow]
          omega
        have hlow : (i.low : ℚ) + 1 = 4 * m := by exact_mod_cast hlow
        have hm : (m : ℚ) = 4503599627370496 := by exact_mod_cast hnarrow.1
        linarith
      · have hlow : i.low + 2 = 4 * m := by
          rw [hi]
          simp only [Interval.of, if_neg hnarrow]
          omega
        have hlow : (i.low : ℚ) + 2 = 4 * m := by exact_mod_cast hlow
        linarith
    have hscaled := mul_lt_mul_of_pos_right hgap hunit
    have hbottom : i.bottom = i.low * 2 ^ (e - 2) := by rw [hi]; rfl
    linarith
  · have hgap : 4 * m + 2 * m / 10 ^ 16 < (i.high : ℚ) := by
      have hhigh : (i.high : ℚ) = 4 * m + 2 := by
        rw [hi]
        push_cast [Interval.of]
        rfl
      linarith
    have hscaled := mul_lt_mul_of_pos_right hgap hunit
    have htop : i.top = i.high * 2 ^ (e - 2) := by rw [hi]; rfl
    linarith

theorem has_shortest (hp : Proper m e) : (Interval.of m e).Has (shortest m e).value := by
  rw [shortest, value_strip]
  exact has_search 16 1 (has_last hp)

theorem value_shortest_pos (hp : Proper m e) : 0 < (shortest m e).value := by
  have hlow : 0 < (Interval.of m e).low := by
    have hpos := hp.pos
    simp only [Interval.of]
    split <;> omega
  have hbottom : 0 < (Interval.of m e).bottom :=
    mul_pos (by exact_mod_cast hlow) (by positivity)
  exact hbottom.trans_le (has_shortest hp).le.1

theorem eq_of_shortest {m' : Nat} {e' : Int} (hp : Proper m e) (hp' : Proper m' e')
    (h : (shortest m e).value = (shortest m' e').value) : m = m' ∧ e = e' :=
  eq_of_has hp hp' (has_shortest hp) (h ▸ has_shortest hp')

theorem parts?_eq_some {x : Float} {p : Parts} (h : parts? x = some p) :
    biasedExponent x ≠ 2047 ∧ p.negative = signBit x ∧
      ((biasedExponent x = 0 ∧ p.significand = fraction x ∧ p.exponent = -1074) ∨
        (biasedExponent x ≠ 0 ∧ p.significand = fraction x + hiddenBit ∧
          p.exponent = (biasedExponent x : Int) - 1075)) := by
  unfold parts? at h
  dsimp only at h
  split at h
  · cases h
  next hfinite =>
    split at h
    · next hzero =>
      obtain rfl := Option.some.inj h
      exact ⟨hfinite, rfl, .inl ⟨hzero, rfl, rfl⟩⟩
    · next hzero =>
      obtain rfl := Option.some.inj h
      exact ⟨hfinite, rfl, .inr ⟨hzero, rfl, rfl⟩⟩

theorem zero_or_proper {x : Float} {p : Parts} (h : parts? x = some p) :
    (p.significand = 0 ∧ p.exponent = -1074) ∨ Proper p.significand p.exponent := by
  have hbit : hiddenBit = 4503599627370496 := rfl
  have hfraction : fraction x < hiddenBit := Nat.mod_lt _ (by decide)
  have hbiased : biasedExponent x < 2048 := Nat.mod_lt _ (by decide)
  obtain ⟨hfinite, -, ⟨hzero, hsignificand, hexponent⟩ | ⟨hzero, hsignificand, hexponent⟩⟩ :=
    parts?_eq_some h
  · by_cases hnone : fraction x = 0
    · exact .inl ⟨hsignificand.trans hnone, hexponent⟩
    · exact .inr ⟨by omega, by omega, by omega, by omega, by omega⟩
  · exact .inr ⟨by omega, by omega, by omega, by omega, by omega⟩

theorem toBits_inj {x y : Float} (h : x.toBits = y.toBits) : x = y := by
  obtain ⟨⟨bits, valid⟩⟩ := x
  obtain ⟨⟨bits', valid'⟩⟩ := y
  obtain rfl : bits = bits' := h
  rfl

theorem parts?_inj {x y : Float} {p : Parts} (hx : parts? x = some p) (hy : parts? y = some p) :
    x = y := by
  obtain ⟨-, hsign, hparts⟩ := parts?_eq_some hx
  obtain ⟨-, hsign', hparts'⟩ := parts?_eq_some hy
  have hbits : x.toBits.toNat = y.toBits.toNat := by
    have hlt := x.toBits.toNat_lt
    have hlt' := y.toBits.toNat_lt
    have hbit : hiddenBit = 4503599627370496 := rfl
    have hfraction : fraction x < hiddenBit := Nat.mod_lt _ (by decide)
    have hfraction' : fraction y < hiddenBit := Nat.mod_lt _ (by decide)
    have hsame : fraction x = fraction y ∧ biasedExponent x = biasedExponent y := by omega
    have hsigns : signBit x = signBit y := hsign.symm.trans hsign'
    simp only [signBit, fraction, biasedExponent, hbit, decide_eq_decide] at hsame hsigns
    omega
  exact toBits_inj (UInt64.toNat_inj.mp hbits)

end ModelGateway.Number
