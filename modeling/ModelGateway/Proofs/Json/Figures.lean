import Mathlib.Data.List.Basic
import ModelGateway.Json.Printer

/-!
# Figures of numbers

A number is written with digits, signs, a point and the mark of an exponent, unless it is a
floating-point number without a decimal, which is written as null.
-/

namespace ModelGateway.Json

theorem forall_mem_of_all {P : Char → Prop} [DecidablePred P] {cs : List Char}
    (h : cs.all (P ·) = true) : ∀ c ∈ cs, P c := fun c hc =>
  of_decide_eq_true (List.all_eq_true.mp h c hc)

def isFigure (c : Char) : Bool :=
  c.isDigit || c == '-' || c == '+' || c == '.' || c == 'e'

theorem isFigure_of_isDigit {c : Char} (h : c.isDigit = true) : isFigure c = true := by
  simp [isFigure, h]

theorem isFigure_repr (n : Nat) : ∀ c ∈ (Nat.repr n).toList, isFigure c = true := by
  intro c hc
  rw [Nat.toList_repr] at hc
  exact isFigure_of_isDigit (Nat.isDigit_of_mem_toDigits (by decide) (by decide) hc)

theorem isFigure_ofInt (n : Int) : ∀ c ∈ (Text.ofInt n).toList, isFigure c = true := by
  intro c hc
  cases n with
  | ofNat n => exact isFigure_repr n c hc
  | negSucc n =>
      rw [Text.ofInt, String.toList_append] at hc
      rcases List.mem_append.mp hc with hsign | hdigit
      · rw [List.mem_singleton.mp hsign]
        rfl
      · exact isFigure_repr (n + 1) c hdigit

theorem isFigure_signed (n : Int) : ∀ c ∈ signed n, isFigure c = true := by
  intro c hc
  cases n with
  | ofNat n =>
      rcases List.mem_cons.mp hc with rfl | hdigit
      · rfl
      · exact isFigure_repr n c hdigit
  | negSucc n =>
      rcases List.mem_cons.mp hc with rfl | hdigit
      · rfl
      · exact isFigure_repr (n + 1) c hdigit

theorem isFigure_layout {layout : FloatLayout} (hmark : isFigure layout.mark = true)
    (d : Number.Decimal) : ∀ c ∈ layout.write d, isFigure c = true := by
  have hpoint : isFigure '.' = true := rfl
  have hzero : isFigure '0' = true := rfl
  have hzeros : ∀ n, ∀ c ∈ List.replicate n '0', isFigure c = true := by
    intro n c hc
    rw [List.eq_of_mem_replicate hc]
    exact hzero
  have hdigits := isFigure_repr d.digits
  unfold FloatLayout.write
  generalize (Nat.repr d.digits).toList = digits at hdigits ⊢
  dsimp only
  split
  · split
    · exact List.forall_mem_nil _
    · rename_i c
      rw [List.forall_mem_singleton] at hdigits
      rw [List.forall_mem_cons, List.forall_mem_cons]
      exact ⟨hdigits, hmark, isFigure_signed _⟩
    · rename_i c rest _
      rw [List.forall_mem_cons] at hdigits
      rw [List.forall_mem_cons, List.forall_mem_cons, List.forall_mem_append, List.forall_mem_cons]
      exact ⟨hdigits.1, hpoint, hdigits.2, hmark, isFigure_signed _⟩
  · split
    · rw [List.forall_mem_append, List.forall_mem_append, List.forall_mem_cons,
        List.forall_mem_singleton]
      exact ⟨⟨hdigits, hzeros _⟩, hpoint, hzero⟩
    · split
      · rw [List.forall_mem_append, List.forall_mem_cons]
        exact ⟨fun c hc => hdigits c (List.mem_of_mem_take hc), hpoint,
          fun c hc => hdigits c (List.mem_of_mem_drop hc)⟩
      · rw [List.forall_mem_append, List.forall_mem_append, List.forall_mem_cons,
          List.forall_mem_singleton]
        exact ⟨⟨⟨hzero, hpoint⟩, hzeros _⟩, hdigits⟩

def writeMagnitude (p : Number.Parts) : List Char :=
  if p.significand = 0 then ['0', '.', '0']
  else floatLayout.write (Number.shortest p.significand p.exponent)

theorem writeFloat_of_parts? {x : Float} {p : Number.Parts} (h : Number.parts? x = some p) :
    writeFloat x = if p.negative then '-' :: writeMagnitude p else writeMagnitude p := by
  rw [writeFloat, h]
  rfl

theorem isFigure_magnitude (p : Number.Parts) : ∀ c ∈ writeMagnitude p, isFigure c = true := by
  unfold writeMagnitude
  split
  · exact forall_mem_of_all rfl
  · exact isFigure_layout rfl _

theorem isFigure_writeFloat {x : Float} {p : Number.Parts} (h : Number.parts? x = some p) :
    ∀ c ∈ writeFloat x, isFigure c = true := by
  rw [writeFloat_of_parts? h]
  split
  · rw [List.forall_mem_cons]
    exact ⟨rfl, isFigure_magnitude p⟩
  · exact isFigure_magnitude p

theorem forall_mem_write_number {P : Char → Prop} (hfigure : ∀ c, isFigure c = true → P c)
    (hnull : ∀ c ∈ ['n', 'u', 'l', 'l'], P c) (n : Number) : ∀ c ∈ n.write, P c := by
  intro c hc
  cases n with
  | int n => exact hfigure c (isFigure_ofInt n c hc)
  | float x =>
      rw [Number.write] at hc
      cases hparts : Number.parts? x with
      | some p => exact hfigure c (isFigure_writeFloat hparts c hc)
      | none =>
          rw [writeFloat, hparts] at hc
          exact hnull c hc

def IsPrinted (c : Char) : Prop := 0x20 ≤ c.toNat

instance : DecidablePred IsPrinted := fun c => inferInstanceAs (Decidable (0x20 ≤ c.toNat))

theorem isPrinted_of_isFigure {c : Char} (h : isFigure c = true) : IsPrinted c := by
  simp only [isFigure, Bool.or_eq_true, beq_iff_eq] at h
  rcases h with (((hdigit | rfl) | rfl) | rfl) | rfl
  · obtain ⟨hlow, -⟩ : 48 ≤ c.toNat ∧ c.toNat ≤ 57 := Char.isDigit_iff_toNat.mp hdigit
    exact Nat.le_trans (by decide) hlow
  all_goals decide

theorem isPrinted_escapeChar (c : Char) : ∀ d ∈ escapeChar c, IsPrinted d := by
  have hcode : ∀ n < 0x20,
      ['\\', 'u', '0', '0', hexDigit (n / 16), hexDigit (n % 16)].all (IsPrinted ·) = true := by
    decide
  unfold escapeChar
  split
  · exact forall_mem_of_all rfl
  split
  · exact forall_mem_of_all rfl
  split
  · exact forall_mem_of_all rfl
  split
  · exact forall_mem_of_all rfl
  split
  · exact forall_mem_of_all rfl
  split
  · exact forall_mem_of_all rfl
  split
  · exact forall_mem_of_all rfl
  split
  · next hcontrol => exact forall_mem_of_all (hcode c.toNat hcontrol)
  · next hprinted =>
    rw [List.forall_mem_singleton]
    exact Nat.le_of_not_lt hprinted

theorem isPrinted_quoted (s : String) : ∀ c ∈ quoted s, IsPrinted c := by
  rw [quoted, List.forall_mem_cons, List.forall_mem_append, List.forall_mem_singleton]
  refine ⟨by decide, ?_, by decide⟩
  intro d hd
  obtain ⟨c, -, hc⟩ := List.mem_flatMap.mp hd
  exact isPrinted_escapeChar c d hc

mutual

theorem isPrinted_write (j : Json) : ∀ c ∈ write j, IsPrinted c := by
  cases j with
  | null => exact forall_mem_of_all rfl
  | bool b => cases b <;> exact forall_mem_of_all rfl
  | num n =>
      exact forall_mem_write_number (fun _ => isPrinted_of_isFigure) (forall_mem_of_all rfl) n
  | str s => exact isPrinted_quoted s
  | arr items =>
      rw [write, List.forall_mem_cons, List.forall_mem_append, List.forall_mem_singleton]
      exact ⟨by decide, isPrinted_writeItems items, by decide⟩
  | obj members =>
      rw [write, List.forall_mem_cons, List.forall_mem_append, List.forall_mem_singleton]
      exact ⟨by decide, isPrinted_writeMembers members, by decide⟩

theorem isPrinted_writeItems (items : List Json) : ∀ c ∈ writeItems items, IsPrinted c := by
  match items with
  | [] => exact List.forall_mem_nil _
  | [x] => exact isPrinted_write x
  | x :: y :: rest =>
      rw [writeItems, List.forall_mem_append, List.forall_mem_cons]
      exact ⟨isPrinted_write x, by decide, isPrinted_writeItems (y :: rest)⟩

theorem isPrinted_writeMembers (members : List (String × Json)) :
    ∀ c ∈ writeMembers members, IsPrinted c := by
  match members with
  | [] => exact List.forall_mem_nil _
  | [(k, x)] =>
      rw [writeMembers, List.forall_mem_append, List.forall_mem_cons]
      exact ⟨isPrinted_quoted k, by decide, isPrinted_write x⟩
  | (k, x) :: m :: rest =>
      rw [writeMembers, List.forall_mem_append, List.forall_mem_cons, List.forall_mem_append,
        List.forall_mem_cons]
      exact ⟨isPrinted_quoted k, by decide, isPrinted_write x, by decide,
        isPrinted_writeMembers (m :: rest)⟩

end

end ModelGateway.Json
