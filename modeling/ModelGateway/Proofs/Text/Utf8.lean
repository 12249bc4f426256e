import ModelGateway.Text.Utf8

/-!
# Reading UTF-8 back

A text is written as the octets of its characters, and the machine reads each character back from
its octets.  So a text is determined by its octets.
-/

namespace ModelGateway.Utf8

def octets (cs : List Char) : Bytes := cs.flatMap String.utf8EncodeChar

@[simp] theorem octets_nil : octets [] = [] := rfl

theorem octets_cons (c : Char) (cs : List Char) :
    octets (c :: cs) = String.utf8EncodeChar c ++ octets cs := rfl

theorem octets_append (cs ds : List Char) : octets (cs ++ ds) = octets cs ++ octets ds :=
  List.flatMap_append

private theorem toList_loop (b : ByteArray) (i : Nat) (acc : Bytes) :
    ByteArray.toList.loop b i acc = acc.reverse ++ b.data.toList.drop i := by
  have hsize : b.data.toList.length = b.size := rfl
  induction hleft : b.size - i generalizing i acc with
  | zero =>
      have hge : ¬ i < b.size := by omega
      rw [ByteArray.toList.loop, if_neg hge, List.drop_eq_nil_of_le (by omega), List.append_nil]
  | succ left ih =>
      have hlt : i < b.size := by omega
      rw [ByteArray.toList.loop, if_pos hlt, ih (i + 1) _ (by omega),
        List.drop_eq_getElem_cons (by omega : i < b.data.toList.length)]
      have hget : b.get! i = b.data.toList.get ⟨i, by omega⟩ :=
        getElem!_pos b.data i (by simpa using hlt)
      simp [hget]

theorem toList_toByteArray (bs : Bytes) : bs.toByteArray.toList = bs := by
  rw [ByteArray.toList, toList_loop, List.data_toByteArray]
  rfl

theorem encode_ofList (cs : List Char) : encode (String.ofList cs) = octets cs := by
  rw [encode, String.toUTF8_eq_toByteArray, String.toByteArray_ofList, List.utf8Encode,
    toList_toByteArray]
  rfl

theorem encode_eq_octets (text : String) : encode text = octets text.toList := by
  rw [← encode_ofList, String.ofList_toList]

private theorem toNat_octet {n : Nat} (h : n < 256) : (UInt8.ofNat n).toNat = n := by
  rw [UInt8.toNat_ofNat']
  exact Nat.mod_eq_of_lt h

theorem utf8EncodeChar_ascii {c : Char} (h : c.toNat < 0x80) :
    String.utf8EncodeChar c = [UInt8.ofNat c.toNat] := by
  unfold String.utf8EncodeChar
  exact if_pos (Nat.le_of_lt_succ h)

private theorem le_octet {n : Nat} (hlow : 0x80 ≤ n) (hhigh : n < 256) : 0x80 ≤ UInt8.ofNat n := by
  rw [UInt8.le_iff_toNat_le, toNat_octet hhigh]
  exact hlow

theorem le_of_mem_utf8EncodeChar {c : Char} (h : 0x80 ≤ c.toNat) {b : UInt8}
    (hb : b ∈ String.utf8EncodeChar c) : 0x80 ≤ b := by
  have hne : ¬ c.val.toNat ≤ 0x7F := Nat.not_le_of_lt h
  simp only [String.utf8EncodeChar, if_neg hne] at hb
  split at hb
  · simp only [List.mem_cons, List.not_mem_nil, or_false] at hb
    rcases hb with rfl | rfl
    · exact le_octet (by omega) (by omega)
    · exact le_octet (by omega) (by omega)
  split at hb
  · simp only [List.mem_cons, List.not_mem_nil, or_false] at hb
    rcases hb with rfl | rfl | rfl
    · exact le_octet (by omega) (by omega)
    · exact le_octet (by omega) (by omega)
    · exact le_octet (by omega) (by omega)
  · simp only [List.mem_cons, List.not_mem_nil, or_false] at hb
    rcases hb with rfl | rfl | rfl | rfl
    · exact le_octet (by omega) (by omega)
    · exact le_octet (by omega) (by omega)
    · exact le_octet (by omega) (by omega)
    · exact le_octet (by omega) (by omega)

theorem next_continuation {p : Pending} {bits : Nat} (hlow : p.low ≤ bits + 0x80)
    (hhigh : bits + 0x80 ≤ p.high) (hbits : bits < 64) :
    p.next (UInt8.ofNat (bits + 0x80)) =
      if p.owed ≤ 1 then .emit (Char.ofNat (p.value * 64 + bits))
      else .await ⟨p.value * 64 + bits, p.owed - 1, 0x80, 0xBF⟩ := by
  simp only [Pending.next, toNat_octet (show bits + 0x80 < 256 by omega), hlow, hhigh, and_self,
    if_true, Nat.add_sub_cancel]

private theorem first_two {lead : Nat} (hlow : 2 ≤ lead) (hhigh : lead < 32) :
    first (UInt8.ofNat (lead + 0xC0)) = .await ⟨lead, 1, 0x80, 0xBF⟩ := by
  simp only [first, toNat_octet (show lead + 0xC0 < 256 by omega)]
  rw [if_neg (by omega), if_neg (by omega), if_pos (by omega), Nat.add_sub_cancel]

private theorem first_three {lead : Nat} (hlead : lead < 16) :
    first (UInt8.ofNat (lead + 0xE0)) =
      .await ⟨lead, 2, if lead = 0 then 0xA0 else 0x80, if lead = 0xD then 0x9F else 0xBF⟩ := by
  have hall : ∀ lead < 16, first (UInt8.ofNat (lead + 0xE0)) =
      .await ⟨lead, 2, if lead = 0 then 0xA0 else 0x80, if lead = 0xD then 0x9F else 0xBF⟩ := by
    decide
  exact hall lead hlead

private theorem first_four {lead : Nat} (hlead : lead < 5) :
    first (UInt8.ofNat (lead + 0xF0)) =
      .await ⟨lead, 3, if lead = 0 then 0x90 else 0x80, if lead = 4 then 0x8F else 0xBF⟩ := by
  have hall : ∀ lead < 5, first (UInt8.ofNat (lead + 0xF0)) =
      .await ⟨lead, 3, if lead = 0 then 0x90 else 0x80, if lead = 4 then 0x8F else 0xBF⟩ := by
    decide
  exact hall lead hlead

/-- The machine reads a character back from its octets. -/
theorem decodeFrom?_utf8EncodeChar (c : Char) (rest : Bytes) :
    decodeFrom? none (String.utf8EncodeChar c ++ rest) = (decodeFrom? none rest).map (c :: ·) := by
  have hvalid : c.val.toNat < 0xD800 ∨ 0xDFFF < c.val.toNat ∧ c.val.toNat < 0x110000 := c.valid
  have hback : Char.ofNat c.val.toNat = c := Char.ofNat_toNat c
  unfold String.utf8EncodeChar
  generalize c.val.toNat = n at hvalid hback ⊢
  dsimp only
  split
  · have hfirst : first (UInt8.ofNat n) = .emit c := by
      simp only [first, toNat_octet (show n < 256 by omega)]
      rw [if_pos (by omega), hback]
    simp only [List.singleton_append, decodeFrom?, hfirst]
  · split
    · have hlead : n / 64 % 0x20 = n / 64 := by omega
      simp only [List.cons_append, List.nil_append, decodeFrom?, hlead,
        first_two (show 2 ≤ n / 64 by omega) (show n / 64 < 32 by omega)]
      rw [next_continuation (by dsimp only; omega) (by dsimp only; omega) (by omega)]
      simp only [Nat.le_refl, if_true, Nat.div_add_mod', hback]
    · split
      · have hlead : n / 4096 % 0x10 = n / 4096 := by omega
        simp only [List.cons_append, List.nil_append, decodeFrom?, hlead,
          first_three (show n / 4096 < 16 by omega)]
        rw [next_continuation (by dsimp only; split <;> omega) (by dsimp only; split <;> omega)
          (by omega)]
        simp only [show ¬ 2 ≤ 1 by omega, if_false]
        rw [next_continuation (by dsimp only; omega) (by dsimp only; omega) (by omega)]
        have hvalue : (n / 4096 * 64 + n / 64 % 64) * 64 + n % 64 = n := by omega
        simp only [Nat.le_refl, if_true, hvalue, hback]
      · have hlead : n / 262144 % 0x08 = n / 262144 := by omega
        simp only [List.cons_append, List.nil_append, decodeFrom?, hlead,
          first_four (show n / 262144 < 5 by omega)]
        rw [next_continuation (by dsimp only; split <;> omega) (by dsimp only; split <;> omega)
          (by omega)]
        simp only [show ¬ 3 ≤ 1 by omega, if_false]
        rw [next_continuation (by dsimp only; omega) (by dsimp only; omega) (by omega)]
        simp only [show ¬ 3 - 1 ≤ 1 by omega, if_false]
        rw [next_continuation (by dsimp only; omega) (by dsimp only; omega) (by omega)]
        have hvalue : ((n / 262144 * 64 + n / 4096 % 64) * 64 + n / 64 % 64) * 64 + n % 64 = n := by
          omega
        simp only [show 3 - 1 - 1 ≤ 1 by omega, if_true, hvalue, hback]

theorem decodeFrom?_octets (cs : List Char) : decodeFrom? none (octets cs) = some cs := by
  induction cs with
  | nil => rfl
  | cons c rest ih => rw [octets_cons, decodeFrom?_utf8EncodeChar, ih, Option.map_some]

theorem decode?_encode (text : String) : decode? (encode text) = some text := by
  rw [encode_eq_octets, decode?, decodeFrom?_octets, Option.map_some, String.ofList_toList]

theorem encode_inj {a b : String} (h : encode a = encode b) : a = b := by
  have hsame := decode?_encode a
  rw [h, decode?_encode] at hsame
  exact (Option.some.inj hsame).symm

end ModelGateway.Utf8
