import ModelGateway.Json.Printer
import ModelGateway.Json.Reader
import ModelGateway.Proofs.Text.Utf8

/-!
# Strings that are read back

What is written between quotes is read back as the same text: an octet comes back as an octet, a
short escape as the octet that it stands for and a long one as the code of its control character.
-/

namespace ModelGateway.Json

open Utf8 (octets octets_nil octets_cons octets_append)

def isCoded (c : Char) : Bool :=
  c.toNat < 0x20 && !(c == '\n' || c == '\r' || c == '\t' || c == '\x08' || c == '\x0c')

def unitsOf (c : Char) : List Unit16 :=
  if isCoded c then [.code c.toNat] else (String.utf8EncodeChar c).map .octet

def IsPlain (b : UInt8) : Prop := 0x20 ≤ b ∧ b ≠ 0x22 ∧ b ≠ 0x5C

variable {rest : Bytes}

theorem readUnits?_plain {b : UInt8} (h : IsPlain b) (fuel : Nat) :
    readUnits? (fuel + 1) (b :: rest) =
      (readUnits? fuel rest).map fun (units, rest) => (.octet b :: units, rest) := by
  obtain ⟨hlow, hquote, hslash⟩ := h
  rw [readUnits?]
  · rw [if_neg (by simp [UInt8.not_lt.mpr hlow, hslash])]
    cases readUnits? fuel rest <;> rfl
  · exact hquote
  · exact fun _ heq => absurd heq hslash
  · exact fun _ _ heq => absurd heq hslash

theorem readUnits?_plains {bs : Bytes} (h : ∀ b ∈ bs, IsPlain b) (fuel : Nat) :
    readUnits? (fuel + bs.length) (bs ++ rest) =
      (readUnits? fuel rest).map fun (units, rest) => (bs.map .octet ++ units, rest) := by
  induction bs with
  | nil => simp
  | cons b bs ih =>
      rw [List.length_cons, ← Nat.add_assoc, List.cons_append,
        readUnits?_plain (h b List.mem_cons_self), ih fun b' hb' => h b' (List.mem_cons_of_mem b hb')]
      rw [Option.map_map]
      rfl

theorem readUnits?_short {letter b : UInt8} (h : shortEscape? letter = some b) (fuel : Nat) :
    readUnits? (fuel + 1) (0x5C :: letter :: rest) =
      (readUnits? fuel rest).map fun (units, rest) => (.octet b :: units, rest) := by
  have hne : letter ≠ 0x75 := by
    rintro rfl
    contradiction
  rw [readUnits?]
  · rw [h]
    cases readUnits? fuel rest <;> simp
  · exact hne

theorem readHex4?_append {input left : Bytes} {n : Nat} (h : readHex4? input = some (n, left))
    (rest : Bytes) : readHex4? (input ++ rest) = some (n, left ++ rest) := by
  match input, h with
  | a :: b :: c :: d :: others, h =>
      simp only [readHex4?, Option.bind_eq_bind, Option.bind_eq_some_iff, Option.some.injEq,
        Prod.mk.injEq] at h
      obtain ⟨va, ha, vb, hb, vc, hc, vd, hd, rfl, rfl⟩ := h
      simp [readHex4?, ha, hb, hc, hd]

theorem readUnits?_coded {n : Nat} (h : n < 0x20) (fuel : Nat) :
    readUnits? (fuel + 1)
        (0x5C :: 0x75 :: 0x30 :: 0x30 :: octets [hexDigit (n / 16), hexDigit (n % 16)] ++ rest) =
      (readUnits? fuel rest).map fun (units, rest) => (.code n :: units, rest) := by
  have hall : ∀ n < 0x20,
      readHex4? (0x30 :: 0x30 :: octets [hexDigit (n / 16), hexDigit (n % 16)]) = some (n, []) := by
    decide
  have hhex := readHex4?_append (hall n h) rest
  simp only [List.cons_append, List.nil_append] at hhex ⊢
  rw [readUnits?, hhex]
  cases hunits : readUnits? fuel rest <;> simp [hunits]

theorem isPlain_of_mem_utf8EncodeChar {c : Char} (hlow : 0x20 ≤ c.toNat) (hquote : c ≠ '"')
    (hslash : c ≠ '\\') {b : UInt8} (hb : b ∈ String.utf8EncodeChar c) : IsPlain b := by
  by_cases hascii : c.toNat < 0x80
  · rw [Utf8.utf8EncodeChar_ascii hascii, List.mem_singleton] at hb
    have hvalue : b.toNat = c.toNat := by
      rw [hb, UInt8.toNat_ofNat']
      exact Nat.mod_eq_of_lt (by omega)
    refine ⟨UInt8.le_iff_toNat_le.mpr (hvalue ▸ hlow), ?_, ?_⟩
    · rintro rfl
      exact hquote (Char.toNat_inj.mp hvalue.symm)
    · rintro rfl
      exact hslash (Char.toNat_inj.mp hvalue.symm)
  · have hle := UInt8.le_iff_toNat_le.mp
      (Utf8.le_of_mem_utf8EncodeChar (Nat.le_of_not_lt hascii) hb)
    refine ⟨UInt8.le_iff_toNat_le.mpr (Nat.le_trans (by decide) hle), ?_, ?_⟩
    · rintro rfl
      contradiction
    · rintro rfl
      contradiction

/-- How a character is written between quotes, and what it is read as. -/
inductive Escaping (c : Char) : Prop where
  | short {letter b : UInt8} (hescape : shortEscape? letter = some b)
      (hwritten : octets (escapeChar c) = [0x5C, letter]) (hunits : unitsOf c = [.octet b])
  | coded (hcontrol : c.toNat < 0x20)
      (hwritten : octets (escapeChar c) = 0x5C :: 0x75 :: 0x30 :: 0x30 ::
        octets [hexDigit (c.toNat / 16), hexDigit (c.toNat % 16)])
      (hunits : unitsOf c = [.code c.toNat])
  | plain (hplain : ∀ b ∈ String.utf8EncodeChar c, IsPlain b)
      (hwritten : octets (escapeChar c) = String.utf8EncodeChar c)
      (hunits : unitsOf c = (String.utf8EncodeChar c).map .octet)

theorem escaping (c : Char) : Escaping c := by
  by_cases hquote : c = '"'
  · exact hquote ▸ .short rfl rfl rfl
  by_cases hslash : c = '\\'
  · exact hslash ▸ .short rfl rfl rfl
  by_cases hline : c = '\n'
  · exact hline ▸ .short rfl rfl rfl
  by_cases hreturn : c = '\r'
  · exact hreturn ▸ .short rfl rfl rfl
  by_cases htab : c = '\t'
  · exact htab ▸ .short rfl rfl rfl
  by_cases hback : c = '\x08'
  · exact hback ▸ .short rfl rfl rfl
  by_cases hfeed : c = '\x0c'
  · exact hfeed ▸ .short rfl rfl rfl
  by_cases hcontrol : c.toNat < 0x20
  · refine .coded hcontrol ?_ ?_
    · simp only [escapeChar, hquote, hslash, hline, hreturn, htab, hback, hfeed, hcontrol, if_true,
        if_false]
      rfl
    · simp [unitsOf, isCoded, hcontrol, hline, hreturn, htab, hback, hfeed]
  · refine .plain (fun b hb => ?_) ?_ ?_
    · exact isPlain_of_mem_utf8EncodeChar (Nat.le_of_not_lt hcontrol) hquote hslash hb
    · simp [escapeChar, hquote, hslash, hline, hreturn, htab, hback, hfeed, hcontrol, octets_cons]
    · simp [unitsOf, isCoded, hcontrol]

theorem readUnits?_escapeChar (c : Char) (fuel : Nat) :
    readUnits? (fuel + (unitsOf c).length) (octets (escapeChar c) ++ rest) =
      (readUnits? fuel rest).map fun (units, rest) => (unitsOf c ++ units, rest) := by
  cases escaping c with
  | short hescape hwritten hunits =>
      rw [hwritten, hunits]
      exact readUnits?_short hescape fuel
  | coded hcontrol hwritten hunits =>
      rw [hwritten, hunits]
      exact readUnits?_coded hcontrol fuel
  | plain hplain hwritten hunits =>
      rw [hwritten, hunits, List.length_map]
      exact readUnits?_plains hplain fuel

theorem length_unitsOf_le (c : Char) : (unitsOf c).length ≤ (octets (escapeChar c)).length := by
  cases escaping c with
  | short hescape hwritten hunits => simp [hwritten, hunits]
  | coded hcontrol hwritten hunits => simp [hwritten, hunits]
  | plain hplain hwritten hunits => simp [hwritten, hunits]

theorem length_flatMap_unitsOf_le (cs : List Char) :
    (cs.flatMap unitsOf).length ≤ (octets (cs.flatMap escapeChar)).length := by
  induction cs with
  | nil => exact Nat.le_refl 0
  | cons c cs ih =>
      simp only [List.flatMap_cons, octets_append, List.length_append]
      exact Nat.add_le_add (length_unitsOf_le c) ih

theorem readUnits?_quoted (cs : List Char) (fuel : Nat) :
    readUnits? (fuel + 1 + (cs.flatMap unitsOf).length)
        (octets (cs.flatMap escapeChar) ++ 0x22 :: rest) =
      some (cs.flatMap unitsOf, rest) := by
  induction cs with
  | nil => rfl
  | cons c cs ih =>
      simp only [List.flatMap_cons, octets_append, List.append_assoc, List.length_append]
      rw [Nat.add_comm (unitsOf c).length, ← Nat.add_assoc, readUnits?_escapeChar, ih]
      rfl

theorem joinUnits?_octets (bs : Bytes) (units : List Unit16) :
    joinUnits? (bs.map .octet ++ units) = (joinUnits? units).map (bs ++ ·) := by
  induction bs with
  | nil => simp
  | cons b bs ih =>
      rw [List.map_cons, List.cons_append, joinUnits?, ih, Option.map_map]
      rfl

theorem joinUnits?_code {n : Nat} (h : n < 0xD800) (units : List Unit16) :
    joinUnits? (.code n :: units) = (joinUnits? units).map (encodeCode n ++ ·) := by
  have hhigh : ¬ (0xD800 ≤ n ∧ n < 0xDC00) := by omega
  have hlow : ¬ (0xDC00 ≤ n ∧ n < 0xE000) := by omega
  have hhalf : ¬ (0xD800 ≤ n ∧ n < 0xE000) := by omega
  match units with
  | [] => simp [joinUnits?, hhalf]
  | .octet b :: others => simp [joinUnits?, hhalf]
  | .code low :: others => rw [joinUnits?, if_neg hhigh, if_neg hlow]

theorem joinUnits?_unitsOf (c : Char) (units : List Unit16) :
    joinUnits? (unitsOf c ++ units) =
      (joinUnits? units).map (String.utf8EncodeChar c ++ ·) := by
  cases hcoded : isCoded c with
  | true =>
      have hcontrol : c.toNat < 0x20 := by
        simp only [isCoded, Bool.and_eq_true, decide_eq_true_eq] at hcoded
        exact hcoded.1
      have hencode : encodeCode c.toNat = String.utf8EncodeChar c := by
        rw [encodeCode, Char.ofNat_toNat, Utf8.encode_eq_octets]
        simp [octets]
      rw [unitsOf, if_pos hcoded, List.singleton_append, joinUnits?_code (by omega), hencode]
  | false =>
      rw [unitsOf, hcoded]
      exact joinUnits?_octets _ _

theorem textOfUnits?_flatMap (s : String) : textOfUnits? (s.toList.flatMap unitsOf) = some s := by
  have hjoin : ∀ cs : List Char, joinUnits? (cs.flatMap unitsOf) = some (octets cs) := by
    intro cs
    induction cs with
    | nil => rfl
    | cons c cs ih => rw [List.flatMap_cons, joinUnits?_unitsOf, ih]; rfl
  rw [textOfUnits?, hjoin, Option.bind_some, ← Utf8.encode_eq_octets, Utf8.decode?_encode]

theorem readString?_quoted (s : String) (rest : Bytes) :
    readString? (octets (s.toList.flatMap escapeChar) ++ 0x22 :: rest) = some (some s, rest) := by
  have hle := length_flatMap_unitsOf_le s.toList
  obtain ⟨spare, hspare⟩ := Nat.exists_eq_add_of_le hle
  have hfuel : (octets (s.toList.flatMap escapeChar) ++ 0x22 :: rest).length + 1 =
      spare + rest.length + 1 + 1 + (s.toList.flatMap unitsOf).length := by
    simp only [List.length_append, List.length_cons]
    omega
  rw [readString?, hfuel, readUnits?_quoted, Option.map_some]
  simp only [textOfUnits?_flatMap]

end ModelGateway.Json
