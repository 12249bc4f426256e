import Mathlib.Data.List.TakeWhile
import ModelGateway.Proofs.Json.Figures
import ModelGateway.Proofs.Number.Shortest

/-!
# Numbers determined by their texts

The layout of a decimal decides where the point is written and whether there is an exponent, and its
value can be read off in every case.  As the shortest decimal determines the number, so does its
text.
-/

namespace ModelGateway.Json

def pointed (cs : List Char) : ℚ :=
  Nat.ofDigitChars 10 (cs.filter (· ≠ '.')) 0 / 10 ^ (cs.dropWhile (· ≠ '.')).tail.length

def signedValue (cs : List Char) : Int :=
  match cs with
  | '+' :: digits => Nat.ofDigitChars 10 digits 0
  | '-' :: digits => -(Nat.ofDigitChars 10 digits 0 : Int)
  | _ => 0

def decimalValue (cs : List Char) : ℚ :=
  pointed (cs.takeWhile (· ≠ 'e')) * 10 ^ signedValue (cs.dropWhile (· ≠ 'e')).tail

theorem signedValue_signed (n : Int) : signedValue (signed n) = n := by
  cases n with
  | ofNat n =>
      rw [signed, signedValue, Nat.toList_repr, Nat.ofDigitChars_ten_toDigits]
      rfl
  | negSucc n =>
      rw [signed, signedValue, Nat.toList_repr, Nat.ofDigitChars_ten_toDigits]
      rfl

variable {cs whole fraction : List Char}

theorem decide_ne_of_not_mem {c : Char} (h : c ∉ cs) : ∀ d ∈ cs, decide (d ≠ c) = true :=
  fun _ hd => decide_eq_true fun heq => h (heq ▸ hd)

theorem pointed_of_whole (h : '.' ∉ cs) : pointed cs = Nat.ofDigitChars 10 cs 0 := by
  have hne := decide_ne_of_not_mem h
  have hdrop : cs.dropWhile (· ≠ '.') = [] := List.dropWhile_eq_nil_iff.mpr hne
  rw [pointed, hdrop, List.filter_eq_self.mpr hne]
  exact div_one _

theorem pointed_point (hwhole : '.' ∉ whole) (hfraction : '.' ∉ fraction) :
    pointed (whole ++ '.' :: fraction) =
      Nat.ofDigitChars 10 (whole ++ fraction) 0 / 10 ^ fraction.length := by
  have hdrop : (whole ++ '.' :: fraction).dropWhile (· ≠ '.') = '.' :: fraction := by
    rw [List.dropWhile_append_of_pos (decide_ne_of_not_mem hwhole)]
    rfl
  have hfilter : (whole ++ '.' :: fraction).filter (· ≠ '.') = whole ++ fraction := by
    rw [List.filter_append, List.filter_cons_of_neg (by decide),
      List.filter_eq_self.mpr (decide_ne_of_not_mem hwhole),
      List.filter_eq_self.mpr (decide_ne_of_not_mem hfraction)]
  rw [pointed, hdrop, hfilter]
  rfl

theorem decimalValue_plain (h : 'e' ∉ cs) : decimalValue cs = pointed cs := by
  have hne := decide_ne_of_not_mem h
  rw [decimalValue, List.takeWhile_eq_self_iff.mpr hne, List.dropWhile_eq_nil_iff.mpr hne]
  exact mul_one _

theorem decimalValue_marked (h : 'e' ∉ cs) (n : Int) :
    decimalValue (cs ++ 'e' :: signed n) = pointed cs * 10 ^ n := by
  have hne := decide_ne_of_not_mem h
  rw [decimalValue, List.takeWhile_append_of_pos hne, List.dropWhile_append_of_pos hne,
    List.takeWhile_cons_of_neg (by decide), List.dropWhile_cons_of_neg (by decide), List.append_nil,
    List.tail_cons, signedValue_signed]

/-! ## The layout of a decimal -/

theorem not_mem_of_digits {c : Char} (hc : c.isDigit = false) (h : ∀ d ∈ cs, d.isDigit = true) :
    c ∉ cs := fun hmem => by simp [h c hmem] at hc

theorem isDigit_repr (n : Nat) : ∀ c ∈ (Nat.repr n).toList, c.isDigit = true := by
  intro c hc
  rw [Nat.toList_repr] at hc
  exact Nat.isDigit_of_mem_toDigits (by decide) (by decide) hc

theorem not_mem_around {c mark : Char} (hwhole : c ∉ whole) (hmark : c ≠ mark)
    (hfraction : c ∉ fraction) : c ∉ whole ++ mark :: fraction := by
  rw [List.mem_append, List.mem_cons, not_or, not_or]
  exact ⟨hwhole, hmark, hfraction⟩

theorem shift_tenths (N : ℚ) (k : Nat) (n : Int) : N / 10 ^ k * 10 ^ n = N * 10 ^ (n - k) := by
  rw [zpow_sub₀ (by norm_num), zpow_natCast]
  ring

/-- The value of a decimal can be read off its text. -/
theorem decimalValue_layout (d : Number.Decimal) :
    decimalValue (floatLayout.write d) = d.value := by
  have hdigits := isDigit_repr d.digits
  have hvalue : Nat.ofDigitChars 10 (Nat.repr d.digits).toList 0 = d.digits := by
    rw [Nat.toList_repr, Nat.ofDigitChars_ten_toDigits]
  have hzeros : ∀ n, ∀ c ∈ List.replicate n '0', c.isDigit = true := fun n c hc =>
    List.eq_of_mem_replicate hc ▸ rfl
  have hpoint {ds : List Char} (h : ∀ c ∈ ds, c.isDigit = true) : '.' ∉ ds :=
    not_mem_of_digits rfl h
  have hmark {ds : List Char} (h : ∀ c ∈ ds, c.isDigit = true) : 'e' ∉ ds :=
    not_mem_of_digits rfl h
  rw [Number.Decimal.value, ← hvalue]
  -- The point stands behind the first digit, behind zeros, among the digits, or before zeros.
  unfold FloatLayout.write
  generalize (Nat.repr d.digits).toList = digits at hdigits ⊢
  dsimp only
  split
  · rcases digits with _ | ⟨c, _ | ⟨c', rest⟩⟩
    case nil => simp [decimalValue, pointed]
    case cons.nil =>
        change decimalValue ([c] ++ 'e' :: signed _) = _
        rw [decimalValue_marked (hmark hdigits), pointed_of_whole (hpoint hdigits)]
        congr 2
        simp
    case cons.cons =>
        obtain ⟨hfirst, hrest⟩ := List.forall_mem_cons.mp hdigits
        have hfirst : ∀ d ∈ [c], d.isDigit = true := List.forall_mem_singleton.mpr hfirst
        have hplain : 'e' ∉ [c] ++ '.' :: c' :: rest :=
          not_mem_around (hmark hfirst) (by decide) (hmark hrest)
        change decimalValue (([c] ++ '.' :: c' :: rest) ++ 'e' :: signed _) = _
        rw [decimalValue_marked hplain, pointed_point (hpoint hfirst) (hpoint hrest), shift_tenths]
        congr 2
        simp only [List.length_cons]
        push_cast
        ring
  split
  · next hexponent =>
    have hwhole : ∀ c ∈ digits ++ List.replicate d.exponent.toNat '0', c.isDigit = true :=
      List.forall_mem_append.mpr ⟨hdigits, hzeros _⟩
    obtain ⟨n, hn⟩ := Int.eq_ofNat_of_zero_le hexponent
    rw [decimalValue_plain (not_mem_around (hmark hwhole) (by decide) (by decide)),
      pointed_point (hpoint hwhole) (by decide), Nat.ofDigitChars_append, Nat.ofDigitChars_append,
      Nat.ofDigitChars_replicate_zero, hn, Int.toNat_natCast, zpow_natCast]
    simpa [Nat.ofDigitChars_cons] using mul_comm _ _
  split
  · next hexponent hleading =>
    have htake : ∀ c ∈ digits.take (digits.length + d.exponent - 1 + 1).toNat, c.isDigit = true :=
      fun c hc => hdigits c (List.mem_of_mem_take hc)
    have hdrop : ∀ c ∈ digits.drop (digits.length + d.exponent - 1 + 1).toNat, c.isDigit = true :=
      fun c hc => hdigits c (List.mem_of_mem_drop hc)
    obtain ⟨n, hn⟩ : ∃ n : Nat, d.exponent = -n := ⟨(-d.exponent).toNat, by omega⟩
    rw [decimalValue_plain (not_mem_around (hmark htake) (by decide) (hmark hdrop)),
      pointed_point (hpoint htake) (hpoint hdrop), List.take_append_drop, List.length_drop,
      show digits.length - (digits.length + d.exponent - 1 + 1).toNat = n by omega, hn, zpow_neg,
      zpow_natCast, div_eq_mul_inv]
  · next hexponent hleading =>
    have hfraction : ∀ c ∈ List.replicate (-(digits.length + d.exponent - 1) - 1).toNat '0' ++
        digits, c.isDigit = true := List.forall_mem_append.mpr ⟨hzeros _, hdigits⟩
    obtain ⟨n, hn⟩ : ∃ n : Nat, d.exponent = -n := ⟨(-d.exponent).toNat, by omega⟩
    have hlength : (List.replicate (-(digits.length + d.exponent - 1) - 1).toNat '0' ++
        digits).length = n := by
      rw [List.length_append, List.length_replicate]
      omega
    change decimalValue (['0'] ++ '.' :: (List.replicate _ '0' ++ digits)) = _
    rw [decimalValue_plain (not_mem_around (by decide) (by decide) (hmark hfraction)),
      pointed_point (by decide) (hpoint hfraction), hlength, hn, zpow_neg, zpow_natCast,
      div_eq_mul_inv, Nat.ofDigitChars_append, Nat.ofDigitChars_append,
      Nat.ofDigitChars_replicate_zero]
    simp [Nat.ofDigitChars_cons]

def HasFraction (cs : List Char) : Prop :=
  ∃ c rest, cs = c :: rest ∧ c.isDigit = true ∧ ('.' ∈ rest ∨ 'e' ∈ rest)

theorem hasFraction_layout (d : Number.Decimal) : HasFraction (floatLayout.write d) := by
  have hdigits := isDigit_repr d.digits
  have hsome : (Nat.repr d.digits).toList ≠ [] := by
    rw [Nat.toList_repr]
    exact Nat.toDigits_ne_nil
  obtain ⟨c, rest, hcons⟩ := List.exists_cons_of_ne_nil hsome
  unfold FloatLayout.write
  rw [hcons] at hdigits ⊢
  have hc : c.isDigit = true := hdigits c List.mem_cons_self
  dsimp only
  split
  · cases rest with
    | nil => exact ⟨c, _, rfl, hc, .inr List.mem_cons_self⟩
    | cons c' rest => exact ⟨c, _, rfl, hc, .inl List.mem_cons_self⟩
  split
  · exact ⟨c, _, rfl, hc, .inl (by simp)⟩
  split
  · next hleading =>
    obtain ⟨whole, hwhole⟩ : ∃ n, (((c :: rest).length : Int) + d.exponent - 1 + 1).toNat = n + 1 :=
      ⟨(((c :: rest).length : Int) + d.exponent - 1).toNat, by omega⟩
    rw [hwhole]
    exact ⟨c, _, rfl, hc, .inl (by simp)⟩
  · exact ⟨'0', _, rfl, rfl, .inl List.mem_cons_self⟩

theorem hasFraction_magnitude (p : Number.Parts) : HasFraction (writeMagnitude p) := by
  unfold writeMagnitude
  split
  · exact ⟨'0', _, rfl, rfl, .inl List.mem_cons_self⟩
  · exact hasFraction_layout _

theorem decimalValue_magnitude (p : Number.Parts) :
    decimalValue (writeMagnitude p) =
      if p.significand = 0 then 0 else (Number.shortest p.significand p.exponent).value := by
  unfold writeMagnitude
  split
  · change decimalValue (['0'] ++ '.' :: ['0']) = 0
    rw [decimalValue_plain (by decide), pointed_point (by decide) (by decide)]
    exact zero_div _
  · exact decimalValue_layout _

variable {x y : Float} {p p' : Number.Parts}

theorem magnitude_inj (hx : Number.parts? x = some p) (hy : Number.parts? y = some p')
    (h : writeMagnitude p = writeMagnitude p') :
    p.significand = p'.significand ∧ p.exponent = p'.exponent := by
  have hvalue := congrArg decimalValue h
  rw [decimalValue_magnitude, decimalValue_magnitude] at hvalue
  rcases Number.zero_or_proper hx with ⟨hzero, hleast⟩ | hproper <;>
    rcases Number.zero_or_proper hy with ⟨hzero', hleast'⟩ | hproper'
  · exact ⟨hzero.trans hzero'.symm, hleast.trans hleast'.symm⟩
  · rw [if_pos hzero, if_neg hproper'.pos.ne'] at hvalue
    exact absurd hvalue (Number.value_shortest_pos hproper').ne
  · rw [if_neg hproper.pos.ne', if_pos hzero'] at hvalue
    exact absurd hvalue (Number.value_shortest_pos hproper).ne'
  · rw [if_neg hproper.pos.ne', if_neg hproper'.pos.ne'] at hvalue
    exact Number.eq_of_shortest hproper hproper' hvalue

theorem writeFloat_inj (hx : Number.parts? x = some p) (hy : Number.parts? y = some p')
    (h : writeFloat x = writeFloat y) : x = y := by
  rw [writeFloat_of_parts? hx, writeFloat_of_parts? hy] at h
  have hsign (p p' : Number.Parts) : '-' :: writeMagnitude p ≠ writeMagnitude p' := by
    obtain ⟨c, rest, hcons, hdigit, -⟩ := hasFraction_magnitude p'
    intro heq
    rw [hcons] at heq
    obtain ⟨rfl, -⟩ := List.cons.inj heq
    cases hdigit
  obtain ⟨negative, significand, exponent⟩ := p
  obtain ⟨negative', significand', exponent'⟩ := p'
  have hsame : negative = negative' ∧
      writeMagnitude ⟨negative, significand, exponent⟩ =
        writeMagnitude ⟨negative', significand', exponent'⟩ := by
    cases negative <;> cases negative'
    · exact ⟨rfl, h⟩
    · exact absurd h.symm (hsign _ _)
    · exact absurd h (hsign _ _)
    · exact ⟨rfl, List.tail_eq_of_cons_eq h⟩
  obtain ⟨rfl, hmagnitude⟩ := hsame
  obtain ⟨hsignificand, hexponent⟩ := magnitude_inj hx hy hmagnitude
  dsimp only at hsignificand hexponent
  subst hsignificand hexponent
  exact Number.parts?_inj hx hy

end ModelGateway.Json
