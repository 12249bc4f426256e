import ModelGateway.Proofs.Json.Numerals
import ModelGateway.Proofs.Json.Strings
import ModelGateway.Proofs.Text.Pieces

/-!
# Values that are read back

A value without floating-point numbers, whose whole numbers fit 64 bits and whose containers are not
nested too deep, is read back from its text as the document that it is.
-/

namespace ModelGateway.Json

open Utf8 (octets octets_nil octets_cons octets_append)

mutual

/-- Inside `level` containers, the value is read as it is written. -/
def Readable (level : Nat) : Json → Prop
  | .null | .bool _ | .str _ => True
  | .num (.int n) => IsWhole n
  | .num (.float _) => False
  | .arr items => level < maxLevel ∧ ReadableItems (level + 1) items
  | .obj members => level < maxLevel ∧ ReadableMembers (level + 1) members

def ReadableItems (level : Nat) : List Json → Prop
  | [] => True
  | x :: xs => Readable level x ∧ ReadableItems level xs

def ReadableMembers (level : Nat) : List (String × Json) → Prop
  | [] => True
  | (_, x) :: xs => Readable level x ∧ ReadableMembers level xs

end

variable {level fuel : Nat} {rest : Bytes}

theorem atLevel_of_lt (h : level < maxLevel) (d : Document) : atLevel (level + 1) d = d :=
  if_neg (Nat.not_lt.mpr h)

theorem skipSpace_of_not_space {b : UInt8} (h : isSpace b = false) (rest : Bytes) :
    skipSpace (b :: rest) = b :: rest := by
  rw [skipSpace, List.dropWhile_cons_of_neg (by simp [h])]

theorem head_write {j : Json} (h : Readable level j) :
    ∃ b bs, octets (write j) = b :: bs ∧ isSpace b = false ∧ b ≠ 0x5D := by
  cases j with
  | null => exact ⟨_, _, rfl, rfl, by decide⟩
  | bool b => cases b <;> exact ⟨_, _, rfl, rfl, by decide⟩
  | str s => exact ⟨_, _, rfl, rfl, by decide⟩
  | arr items => exact ⟨_, _, rfl, rfl, by decide⟩
  | obj members => exact ⟨_, _, rfl, rfl, by decide⟩
  | num n =>
      cases n with
      | float x => exact h.elim
      | int n =>
          cases n with
          | ofNat n =>
              have hwritten : write (.num (.int (.ofNat n))) = Nat.toDigits 10 n := Nat.toList_repr
              obtain ⟨d, ds, hds⟩ := List.exists_cons_of_ne_nil (decimals_ne_nil n)
              have hd : d < 10 := lt_of_mem_decimals (hds ▸ List.mem_cons_self)
              have hall : ∀ d < 10, isSpace (UInt8.ofNat (48 + d)) = false ∧
                  UInt8.ofNat (48 + d) ≠ 0x5D := by decide
              refine ⟨UInt8.ofNat (48 + d), ds.map fun d => UInt8.ofNat (48 + d), ?_, hall d hd⟩
              rw [hwritten, octets_toDigits, hds, List.map_cons]
          | negSucc n =>
              refine ⟨0x2D, octets (Nat.toDigits 10 (n + 1)), ?_, rfl, by decide⟩
              rw [write, Number.write, toList_ofInt_neg, octets_cons]
              rfl

theorem head_writeItems {x : Json} {xs : List Json} (h : ReadableItems level (x :: xs)) :
    ∃ b bs, octets (writeItems (x :: xs)) = b :: bs ∧ isSpace b = false ∧ b ≠ 0x5D := by
  obtain ⟨b, bs, hhead, hb⟩ := head_write h.1
  cases xs with
  | nil => exact ⟨b, bs, hhead, hb⟩
  | cons y ys =>
      refine ⟨b, bs ++ octets (',' :: writeItems (y :: ys)), ?_, hb⟩
      rw [writeItems, octets_append, hhead, List.cons_append]

theorem head_writeMembers (k : String) (x : Json) (ms : List (String × Json)) :
    ∃ bs, octets (writeMembers ((k, x) :: ms)) = 0x22 :: bs := by
  cases ms with
  | nil => exact ⟨_, rfl⟩
  | cons m ms => exact ⟨_, rfl⟩

theorem octets_quoted (s : String) :
    octets (quoted s) = 0x22 :: (octets (s.toList.flatMap escapeChar) ++ [0x22]) := by
  rw [quoted, octets_cons, octets_append]
  rfl

/-! ## Reading back -/

theorem readAt?_str (s : String) :
    readAt? (fuel + 1) level (octets (write (.str s)) ++ rest) = some (.str s, rest) := by
  rw [write, octets_quoted, List.cons_append, List.append_assoc, readAt?]
  simp only [skipSpace_of_not_space (show isSpace 0x22 = false from rfl), List.singleton_append,
    readString?_quoted, Option.map_some, Document.ofText]

theorem readAt?_items {b : UInt8} (hspace : isSpace b = false) (hclose : b ≠ 0x5D)
    (fuel level : Nat) (rest : Bytes) :
    readAt? (fuel + 1) level (0x5B :: b :: rest) =
      (readItems? fuel (level + 1) (b :: rest)).map fun (items, rest) =>
        (atLevel (level + 1) (.arr items), rest) := by
  rw [readAt?]
  simp only [skipSpace_of_not_space (show isSpace 0x5B = false from rfl),
    skipSpace_of_not_space hspace]
  split
  · next heq => exact absurd (List.cons.inj heq).1 hclose
  · rfl

theorem readAt?_members (fuel level : Nat) (rest : Bytes) :
    readAt? (fuel + 1) level (0x7B :: 0x22 :: rest) =
      (readMembers? fuel (level + 1) (0x22 :: rest)).map fun (members, rest) =>
        (atLevel (level + 1) (.obj members), rest) := by
  rw [readAt?]
  rfl

section

variable {x : Json} {d : Document}

theorem readItems?_last (hread : readAt? fuel level (octets (write x) ++ 0x5D :: rest) =
    some (d, 0x5D :: rest)) :
    readItems? (fuel + 1) level (octets (write x) ++ 0x5D :: rest) = some ([d], rest) := by
  rw [readItems?, hread]
  rfl

theorem readItems?_more (hread : readAt? fuel level (octets (write x) ++ 0x2C :: rest) =
    some (d, 0x2C :: rest)) :
    readItems? (fuel + 1) level (octets (write x) ++ 0x2C :: rest) =
      (readItems? fuel level rest).map fun (ds, rest) => (d :: ds, rest) := by
  rw [readItems?, hread]
  rfl

private theorem octets_member (k : String) (x : Json) :
    octets (quoted k ++ ':' :: write x) ++ rest =
      0x22 :: (octets (k.toList.flatMap escapeChar) ++ 0x22 :: 0x3A :: (octets (write x) ++ rest)) := by
  rw [octets_append, octets_quoted, octets_cons, List.cons_append, List.cons_append,
    List.append_assoc, List.append_assoc, List.append_assoc]
  rfl

theorem readMembers?_last (k : String)
    (hread : readAt? fuel level (octets (write x) ++ 0x7D :: rest) = some (d, 0x7D :: rest)) :
    readMembers? (fuel + 1) level (octets (quoted k ++ ':' :: write x) ++ 0x7D :: rest) =
      some ([(some k, d)], rest) := by
  rw [octets_member, readMembers?]
  simp only [skipSpace_of_not_space (show isSpace 0x22 = false from rfl), readString?_quoted,
    skipSpace_of_not_space (show isSpace 0x3A = false from rfl), hread]
  rfl

theorem readMembers?_more (k : String)
    (hread : readAt? fuel level (octets (write x) ++ 0x2C :: rest) = some (d, 0x2C :: rest)) :
    readMembers? (fuel + 1) level (octets (quoted k ++ ':' :: write x) ++ 0x2C :: rest) =
      (readMembers? fuel level rest).map fun (ms, rest) => ((some k, d) :: ms, rest) := by
  rw [octets_member, readMembers?]
  simp only [skipSpace_of_not_space (show isSpace 0x22 = false from rfl), readString?_quoted,
    skipSpace_of_not_space (show isSpace 0x3A = false from rfl), hread]
  rfl

end

private theorem endsNumeral_of_mem {b : UInt8} (h : b ∈ [0x2C, 0x5D, 0x7D]) (rest : Bytes) :
    EndsNumeral (b :: rest) := by
  simp only [List.mem_cons, List.not_mem_nil, or_false] at h
  rcases h with rfl | rfl | rfl <;> exact ⟨rfl, by decide, by decide, by decide⟩

mutual

theorem readAt?_write (j : Json) (level fuel : Nat) (rest : Bytes) (h : Readable level j)
    (hrest : EndsNumeral rest) (hfuel : 2 * (octets (write j)).length ≤ fuel) :
    readAt? fuel level (octets (write j) ++ rest) = some (j.document, rest) := by
  obtain ⟨b, bs, hhead, hspace, hclose⟩ := head_write h
  obtain ⟨fuel, rfl⟩ : ∃ f, fuel = f + 1 := by
    refine Nat.exists_eq_add_one.mpr ?_
    rw [hhead, List.length_cons] at hfuel
    omega
  cases j with
  | null => rfl
  | bool b => cases b <;> rfl
  | str s => exact readAt?_str s
  | num n =>
      cases n with
      | float x => exact h.elim
      | int n => exact readAt?_int h hrest fuel level
  | arr items =>
      obtain ⟨hlevel, hitems⟩ := h
      cases items with
      | nil => exact congrArg (fun d => some (d, rest)) (atLevel_of_lt hlevel (.arr []))
      | cons x xs =>
          have hwritten : octets (write (.arr (x :: xs))) =
              0x5B :: (octets (writeItems (x :: xs)) ++ [0x5D]) := by
            rw [write, octets_cons, octets_append]
            rfl
          obtain ⟨b, bs, hfirst, hspace, hclose⟩ := head_writeItems hitems
          rw [hwritten, List.length_cons, List.length_append, List.length_singleton] at hfuel
          have hread := readItems?_write x xs (level + 1) fuel rest hitems (by omega)
          rw [hwritten, List.cons_append, List.append_assoc, List.singleton_append]
          rw [hfirst, List.cons_append] at hread ⊢
          rw [readAt?_items hspace hclose, hread, Option.map_some]
          exact congrArg (fun d => some (d, rest)) (atLevel_of_lt hlevel _)
  | obj members =>
      obtain ⟨hlevel, hmembers⟩ := h
      cases members with
      | nil => exact congrArg (fun d => some (d, rest)) (atLevel_of_lt hlevel (.obj []))
      | cons m ms =>
          obtain ⟨k, x⟩ := m
          have hwritten : octets (write (.obj ((k, x) :: ms))) =
              0x7B :: (octets (writeMembers ((k, x) :: ms)) ++ [0x7D]) := by
            rw [write, octets_cons, octets_append]
            rfl
          obtain ⟨bs, hfirst⟩ := head_writeMembers k x ms
          rw [hwritten, List.length_cons, List.length_append, List.length_singleton] at hfuel
          have hread := readMembers?_write k x ms (level + 1) fuel rest hmembers (by omega)
          rw [hwritten, List.cons_append, List.append_assoc, List.singleton_append]
          rw [hfirst, List.cons_append] at hread ⊢
          rw [readAt?_members, hread, Option.map_some]
          exact congrArg (fun d => some (d, rest)) (atLevel_of_lt hlevel _)
termination_by fuel

theorem readItems?_write (x : Json) (xs : List Json) (level fuel : Nat) (rest : Bytes)
    (h : ReadableItems level (x :: xs))
    (hfuel : 2 * (octets (writeItems (x :: xs))).length + 1 ≤ fuel) :
    readItems? fuel level (octets (writeItems (x :: xs)) ++ 0x5D :: rest) =
      some (documents (x :: xs), rest) := by
  obtain ⟨hx, hxs⟩ := h
  obtain ⟨fuel, rfl⟩ : ∃ f, fuel = f + 1 := Nat.exists_eq_add_one.mpr (by omega)
  cases xs with
  | nil =>
      rw [writeItems] at hfuel ⊢
      exact readItems?_last (readAt?_write x level fuel (0x5D :: rest) hx
        (endsNumeral_of_mem (by decide) rest) (by omega))
  | cons y ys =>
      have hwritten : octets (writeItems (x :: y :: ys)) =
          octets (write x) ++ 0x2C :: octets (writeItems (y :: ys)) := by
        rw [writeItems, octets_append, octets_cons]
        rfl
      rw [hwritten, List.length_append, List.length_cons] at hfuel
      have hfirst := readAt?_write x level fuel (0x2C :: (octets (writeItems (y :: ys)) ++ 0x5D :: rest))
        hx (endsNumeral_of_mem (by decide) _) (by omega)
      have hothers := readItems?_write y ys level fuel rest hxs (by omega)
      rw [hwritten, List.append_assoc, List.cons_append, readItems?_more hfirst, hothers]
      rfl
termination_by fuel

theorem readMembers?_write (k : String) (x : Json) (ms : List (String × Json)) (level fuel : Nat)
    (rest : Bytes) (h : ReadableMembers level ((k, x) :: ms))
    (hfuel : 2 * (octets (writeMembers ((k, x) :: ms))).length + 1 ≤ fuel) :
    readMembers? fuel level (octets (writeMembers ((k, x) :: ms)) ++ 0x7D :: rest) =
      some (memberDocuments ((k, x) :: ms), rest) := by
  obtain ⟨hx, hms⟩ := h
  obtain ⟨fuel, rfl⟩ : ∃ f, fuel = f + 1 := Nat.exists_eq_add_one.mpr (by omega)
  cases ms with
  | nil =>
      rw [writeMembers] at hfuel ⊢
      refine readMembers?_last k (readAt?_write x level fuel (0x7D :: rest) hx
        (endsNumeral_of_mem (by decide) rest) ?_)
      rw [octets_append, octets_cons, List.length_append, List.length_append] at hfuel
      omega
  | cons m ms =>
      obtain ⟨l, y⟩ := m
      have hwritten : octets (writeMembers ((k, x) :: (l, y) :: ms)) =
          octets (quoted k ++ ':' :: write x) ++ 0x2C :: octets (writeMembers ((l, y) :: ms)) := by
        have hsplit : writeMembers ((k, x) :: (l, y) :: ms) =
            (quoted k ++ ':' :: write x) ++ ',' :: writeMembers ((l, y) :: ms) := by
          simp [writeMembers]
        rw [hsplit, octets_append, octets_cons]
        rfl
      have hvalue : (octets (write x)).length ≤ (octets (quoted k ++ ':' :: write x)).length := by
        rw [octets_append, octets_cons, List.length_append, List.length_append]
        omega
      rw [hwritten, List.length_append, List.length_cons] at hfuel
      have hfirst := readAt?_write x level fuel
        (0x2C :: (octets (writeMembers ((l, y) :: ms)) ++ 0x7D :: rest)) hx
        (endsNumeral_of_mem (by decide) _) (by omega)
      have hothers := readMembers?_write l y ms level fuel rest hms (by omega)
      rw [hwritten, List.append_assoc, List.cons_append, readMembers?_more k hfirst, hothers]
      rfl
termination_by fuel

end

/-- A readable value is read back from its text. -/
theorem readDocument?_text {j : Json} (h : Readable 0 j) :
    readDocument? (Utf8.encode j.text) = some j.document := by
  have hread := readAt?_write j 0 (2 * (octets j.write).length + 2) [] h trivial (by omega)
  rw [List.append_nil] at hread
  rw [text, Utf8.encode_ofList, readDocument?, hread]
  rfl

theorem readText?_text {j : Json} (h : Readable 0 j) : readText? j.text = j.document.value? := by
  rw [readText?, read?, readDocument?_text h, Option.bind_some]

theorem nonBlank?_text_obj (members : List (String × Json)) :
    Text.nonBlank? (text (.obj members)) = some (text (.obj members)) := by
  have hwritten : text (.obj members) =
      String.ofList ('\x7b' :: (writeMembers members ++ ['\x7d'])) := rfl
  rw [hwritten]
  refine Text.nonBlank?_eq_some_iff.mpr
    ⟨Text.trim_of_ends (writeMembers members) (by decide) (by decide), fun h => ?_⟩
  exact List.cons_ne_nil _ _ (String.ofList_eq_empty_iff.mp h)

end ModelGateway.Json
