import Mathlib.Data.List.Basic
import ModelGateway.Json.Printer
import ModelGateway.Json.Reader
import ModelGateway.Proofs.Text.Utf8

/-!
# Whole numbers that are read back

The digits of a whole number are read back one by one, and their value is the number as long as it
fits 64 bits.
-/

namespace ModelGateway.Json

open Utf8 (octets octets_nil octets_cons octets_append)

def decimals (n : Nat) : List Nat := (Nat.toDigits 10 n).map fun c => c.toNat - 48

theorem toNat_digitChar {d : Nat} (h : d < 10) : (Nat.digitChar d).toNat = 48 + d := by
  have hall : ∀ d < 10, (Nat.digitChar d).toNat = 48 + d := by decide
  exact hall d h

theorem decimals_eq (n : Nat) :
    decimals n = if n < 10 then [n] else decimals (n / 10) ++ [n % 10] := by
  unfold decimals
  rw [Nat.toDigits_eq_if (by decide)]
  split
  · next h => simp [toNat_digitChar h]
  · simp [toNat_digitChar (Nat.mod_lt n (by decide))]

theorem decimals_induction {motive : Nat → List Nat → Prop}
    (single : ∀ n < 10, motive n [n])
    (more : ∀ n, 10 ≤ n → motive (n / 10) (decimals (n / 10)) →
      motive n (decimals (n / 10) ++ [n % 10])) (n : Nat) : motive n (decimals n) := by
  induction n using Nat.strongRecOn with
  | ind n ih =>
      rw [decimals_eq]
      split
      · next h => exact single n h
      · exact more n (by omega) (ih (n / 10) (by omega))

theorem lt_of_mem_decimals {n d : Nat} : d ∈ decimals n → d < 10 := by
  refine decimals_induction (motive := fun _ ds => d ∈ ds → d < 10) ?_ ?_ n
  · intro n hn hd
    rw [List.mem_singleton.mp hd]
    exact hn
  · intro n _ ih hd
    rcases List.mem_append.mp hd with hfirst | hlast
    · exact ih hfirst
    · rw [List.mem_singleton.mp hlast]
      exact Nat.mod_lt n (by decide)

theorem decimals_ne_nil (n : Nat) : decimals n ≠ [] := by
  rw [decimals_eq]
  split <;> simp

theorem not_leading_zero (n : Nat) : ¬ ((decimals n).head? = some 0 ∧ 1 < (decimals n).length) := by
  have hzero : (decimals n).head? = some 0 → n = 0 := by
    refine decimals_induction (motive := fun n ds => ds.head? = some 0 → n = 0) ?_ ?_ n
    · intro n _ h
      exact Option.some.inj h
    · intro n hn ih h
      obtain ⟨d, ds, hds⟩ := List.exists_cons_of_ne_nil (decimals_ne_nil (n / 10))
      rw [hds] at ih h
      have := ih h
      omega
  rintro ⟨hhead, hlength⟩
  rw [hzero hhead] at hlength
  contradiction

theorem takeDigits_decimals {limit n : Nat} (h : n ≤ limit) (rest : List Nat) :
    takeDigits limit 0 (decimals n ++ rest) = takeDigits limit n rest := by
  refine decimals_induction (motive := fun n ds => n ≤ limit → ∀ rest,
    takeDigits limit 0 (ds ++ rest) = takeDigits limit n rest) ?_ ?_ n h rest
  · intro n _ hle rest
    rw [List.singleton_append, takeDigits, if_neg (by omega), Nat.zero_mul, Nat.zero_add]
  · intro n _ ih hle rest
    rw [List.append_assoc, ih (by omega), List.singleton_append, takeDigits, if_neg (by omega),
      Nat.div_add_mod']

theorem octets_toDigits (n : Nat) :
    octets (Nat.toDigits 10 n) = (decimals n).map fun d => UInt8.ofNat (48 + d) := by
  have hdigit : ∀ c ∈ Nat.toDigits 10 n,
      String.utf8EncodeChar c = [UInt8.ofNat (48 + (c.toNat - 48))] := by
    intro c hc
    obtain ⟨hlow, hhigh⟩ : 48 ≤ c.toNat ∧ c.toNat ≤ 57 :=
      Char.isDigit_iff_toNat.mp (Nat.isDigit_of_mem_toDigits (by decide) (by decide) hc)
    rw [Utf8.utf8EncodeChar_ascii (by omega), Nat.add_sub_of_le hlow]
  rw [decimals, List.map_map, octets, List.flatMap_congr hdigit, ← List.map_eq_flatMap]
  rfl

theorem digit?_ofNat {d : Nat} (h : d < 10) : digit? (UInt8.ofNat (48 + d)) = some d := by
  have hall : ∀ d < 10, digit? (UInt8.ofNat (48 + d)) = some d := by decide
  exact hall d h

def EndsNumeral : Bytes → Prop
  | [] => True
  | b :: _ => digit? b = none ∧ b ≠ 0x2E ∧ b ≠ 0x65 ∧ b ≠ 0x45

variable {rest : Bytes}

theorem takeRow_digits {ds : List Nat} (hds : ∀ d ∈ ds, d < 10) (hrest : EndsNumeral rest) :
    takeRow (ds.map (fun d => UInt8.ofNat (48 + d)) ++ rest) = (ds, rest) := by
  induction ds with
  | nil =>
      cases rest with
      | nil => rfl
      | cons b rest => rw [List.map_nil, List.nil_append, takeRow, hrest.1]
  | cons d ds ih =>
      rw [List.map_cons, List.cons_append, takeRow, digit?_ofNat (hds d List.mem_cons_self)]
      simp only [ih fun d' hd' => hds d' (List.mem_cons_of_mem d hd')]

theorem readExponent?_of_ends (hrest : EndsNumeral rest) : readExponent? rest = some (none, rest) := by
  cases rest with
  | nil => rfl
  | cons b rest =>
      obtain ⟨-, -, hlower, hupper⟩ := hrest
      simp [readExponent?, hlower, hupper]

theorem readNumeral?_decimals (negative : Bool) (n : Nat) (hrest : EndsNumeral rest) :
    readNumeral? negative (octets (Nat.toDigits 10 n) ++ rest) =
      some (⟨negative, decimals n, [], none⟩, rest) := by
  have hdigits : readDigits? (octets (Nat.toDigits 10 n) ++ rest) = some (decimals n, rest) := by
    rw [octets_toDigits, readDigits?, takeRow_digits (fun d => lt_of_mem_decimals) hrest]
    obtain ⟨d, ds, hds⟩ := List.exists_cons_of_ne_nil (decimals_ne_nil n)
    rw [hds]
  have hzero := not_leading_zero n
  simp only [readNumeral?, hdigits, Option.bind_eq_bind, Option.bind_some, if_neg hzero]
  cases rest with
  | nil => rfl
  | cons b rest =>
      have hpoint : b ≠ 0x2E := hrest.2.1
      simp [hpoint, readExponent?_of_ends hrest]

def IsWhole (n : Int) : Prop := Number.minInt64 ≤ n ∧ n < UInt64.size

theorem number?_decimals {n : Nat} (h : n < UInt64.size) :
    (⟨false, decimals n, [], none⟩ : Numeral).number? = some (.int n) := by
  have htake : takeDigits maxSignificand 0 (decimals n) = (n, []) := by
    have hsteps := takeDigits_decimals (Nat.le_pred_of_lt h) []
    rw [List.append_nil] at hsteps
    exact hsteps
  simp [Numeral.number?, htake]

theorem number?_negative {n : Nat} (hpos : 0 < n) (h : Number.minInt64 ≤ -(n : Int)) :
    (⟨true, decimals n, [], none⟩ : Numeral).number? = some (.int (-(n : Int))) := by
  have hle : n ≤ maxSignificand := by
    unfold Number.minInt64 at h
    unfold maxSignificand
    omega
  have htake : takeDigits maxSignificand 0 (decimals n) = (n, []) := by
    have hsteps := takeDigits_decimals hle []
    rw [List.append_nil] at hsteps
    exact hsteps
  have hfits : ¬ (n = 0 ∨ -(n : Int) < Number.minInt64) := by omega
  simp only [Numeral.number?, htake]
  simp [hfits]

theorem readAt?_digit {b : UInt8} {d : Nat} (hb : digit? b = some d) (fuel level : Nat)
    (rest : Bytes) :
    readAt? (fuel + 1) level (b :: rest) =
      (readNumeral? false (b :: rest)).map fun (n, rest) => (.ofNumeral n, rest) := by
  have hrange : 0x30 ≤ b ∧ b ≤ 0x39 := by
    unfold digit? at hb
    split at hb
    · assumption
    · contradiction
  have hspace : isSpace b = false := by
    simp only [isSpace, Bool.or_eq_false_iff, beq_eq_false_iff_ne]
    refine ⟨⟨⟨?_, ?_⟩, ?_⟩, ?_⟩ <;> (rintro rfl; simp at hrange)
  have hskip : skipSpace (b :: rest) = b :: rest := by
    rw [skipSpace, List.dropWhile_cons_of_neg (by simp [hspace])]
  rw [readAt?]
  simp only [hskip]
  split <;> first | rfl | simp_all

theorem toList_ofInt_neg (n : Nat) :
    (Text.ofInt (.negSucc n)).toList = '-' :: Nat.toDigits 10 (n + 1) := by
  rw [Text.ofInt, String.toList_append, Nat.toList_repr]
  rfl

theorem readAt?_int {n : Int} (h : IsWhole n) (hrest : EndsNumeral rest) (fuel level : Nat) :
    readAt? (fuel + 1) level (octets (Number.int n).write ++ rest) =
      some (.num (.int n), rest) := by
  cases n with
  | ofNat n =>
      have hlimit : n < UInt64.size := Int.ofNat_lt.mp h.2
      have hwritten : (Number.int (.ofNat n)).write = Nat.toDigits 10 n := Nat.toList_repr
      obtain ⟨d, ds, hds⟩ := List.exists_cons_of_ne_nil (decimals_ne_nil n)
      have hd : d < 10 := lt_of_mem_decimals (hds ▸ List.mem_cons_self)
      have hread := readNumeral?_decimals false n hrest
      rw [hwritten]
      rw [octets_toDigits, hds, List.map_cons, List.cons_append] at hread ⊢
      rw [readAt?_digit (digit?_ofNat hd), hread, Option.map_some, ← hds]
      simp only [Document.ofNumeral, number?_decimals hlimit]
      rfl
  | negSucc n =>
      have hvalue : Number.minInt64 ≤ -((n + 1 : Nat) : Int) := h.1
      have hwritten : octets (Number.int (.negSucc n)).write =
          0x2D :: octets (Nat.toDigits 10 (n + 1)) := by
        rw [Number.write, toList_ofInt_neg, octets_cons]
        rfl
      have hread := readNumeral?_decimals true (n + 1) hrest
      rw [hwritten, List.cons_append]
      have hnext : readAt? (fuel + 1) level (0x2D :: (octets (Nat.toDigits 10 (n + 1)) ++ rest)) =
          (readNumeral? true (octets (Nat.toDigits 10 (n + 1)) ++ rest)).map
            fun (n, rest) => (.ofNumeral n, rest) := by
        rw [readAt?]
        rfl
      rw [hnext, hread, Option.map_some]
      simp only [Document.ofNumeral, number?_negative (Nat.succ_pos n) hvalue]
      rfl

end ModelGateway.Json
