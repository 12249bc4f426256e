import ModelGateway.Proofs.Json.Decimals
import ModelGateway.Proofs.Json.Strings

/-!
# Values determined by their texts

A floating-point number that is not finite is written as null.  Every other value is determined by
its text, also with further text behind it that does not continue a number.
-/

namespace ModelGateway.Json

open Utf8 (octets octets_append)

def Number.IsFinite : Json.Number → Prop
  | .int _ => True
  | .float x => ∃ p, Number.parts? x = some p

mutual

def IsFinite : Json → Prop
  | .null | .bool _ | .str _ => True
  | .num n => n.IsFinite
  | .arr items => ItemsFinite items
  | .obj members => MembersFinite members

def ItemsFinite : List Json → Prop
  | [] => True
  | x :: xs => x.IsFinite ∧ ItemsFinite xs

def MembersFinite : List (String × Json) → Prop
  | [] => True
  | (_, x) :: xs => x.IsFinite ∧ MembersFinite xs

end

theorem isDigit_toDigits {n : Nat} : ∀ c ∈ Nat.toDigits 10 n, c.isDigit = true := fun _ hc =>
  Nat.isDigit_of_mem_toDigits (by decide) (by decide) hc

theorem toDigits_inj {n n' : Nat} (h : Nat.toDigits 10 n = Nat.toDigits 10 n') : n = n' := by
  rw [← Nat.ofDigitChars_ten_toDigits (n := n), h, Nat.ofDigitChars_ten_toDigits]

theorem toDigits_ne_signed {n : Nat} {cs : List Char} : Nat.toDigits 10 n ≠ '-' :: cs := by
  intro h
  have hsign : '-'.isDigit = true := isDigit_toDigits '-' (h ▸ List.mem_cons_self)
  cases hsign

theorem toList_ofInt (n : Int) :
    (Text.ofInt n).toList = Nat.toDigits 10 n.natAbs ∧ 0 ≤ n ∨
      (Text.ofInt n).toList = '-' :: Nat.toDigits 10 n.natAbs ∧ n < 0 := by
  cases n with
  | ofNat n => exact .inl ⟨Nat.toList_repr, Int.natCast_nonneg n⟩
  | negSucc n =>
      refine .inr ⟨?_, Int.negSucc_lt_zero n⟩
      rw [Text.ofInt, String.toList_append, Nat.toList_repr]
      rfl

theorem ofInt_inj {n n' : Int} (h : (Text.ofInt n).toList = (Text.ofInt n').toList) : n = n' := by
  rcases toList_ofInt n with ⟨htext, hsign⟩ | ⟨htext, hsign⟩ <;>
    rcases toList_ofInt n' with ⟨htext', hsign'⟩ | ⟨htext', hsign'⟩ <;>
    rw [htext, htext'] at h
  · have habs := toDigits_inj h
    omega
  · exact absurd h toDigits_ne_signed
  · exact absurd h.symm toDigits_ne_signed
  · have habs := toDigits_inj (List.tail_eq_of_cons_eq h)
    omega

theorem not_mem_ofInt {c : Char} (hdigit : c.isDigit = false) (hsign : c ≠ '-') (n : Int) :
    c ∉ (Text.ofInt n).toList := by
  have hplain : c ∉ Nat.toDigits 10 n.natAbs := not_mem_of_digits hdigit isDigit_toDigits
  rcases toList_ofInt n with ⟨htext, -⟩ | ⟨htext, -⟩ <;> rw [htext]
  · exact hplain
  · exact List.not_mem_cons_of_ne_of_not_mem hsign hplain

theorem ofInt_ne_writeFloat (n : Int) {x : Float} {p : Number.Parts}
    (h : Number.parts? x = some p) : (Text.ofInt n).toList ≠ writeFloat x := by
  obtain ⟨c, rest, hcons, -, hmark⟩ := hasFraction_magnitude p
  have hmark : '.' ∈ writeFloat x ∨ 'e' ∈ writeFloat x := by
    rw [writeFloat_of_parts? h, hcons]
    split
    · exact hmark.imp (by simp +contextual) (by simp +contextual)
    · exact hmark.imp (List.mem_cons_of_mem c) (List.mem_cons_of_mem c)
  intro heq
  rw [← heq] at hmark
  exact hmark.elim (not_mem_ofInt rfl (by decide) n) (not_mem_ofInt rfl (by decide) n)

theorem Number.write_inj {n n' : Json.Number} (hn : n.IsFinite) (hn' : n'.IsFinite)
    (h : n.write = n'.write) : n = n' := by
  cases n with
  | int n =>
      cases n' with
      | int n' => rw [ofInt_inj h]
      | float y =>
          obtain ⟨p, hy⟩ := hn'
          exact absurd h (ofInt_ne_writeFloat n hy)
  | float x =>
      obtain ⟨p, hx⟩ := hn
      cases n' with
      | int n' => exact absurd h.symm (ofInt_ne_writeFloat n' hx)
      | float y =>
          obtain ⟨p', hy⟩ := hn'
          rw [writeFloat_inj hx hy h]

theorem Number.isFigure_write {n : Json.Number} (hn : n.IsFinite) :
    ∀ c ∈ n.write, isFigure c = true := by
  cases n with
  | int n => exact isFigure_ofInt n
  | float x =>
      obtain ⟨p, hx⟩ := hn
      exact isFigure_writeFloat hx

def kindOf (c : Char) : Char := if c.isDigit || c == '-' then '0' else c

def kind : Json → Char
  | .null => 'n'
  | .bool true => 't'
  | .bool false => 'f'
  | .num _ => '0'
  | .str _ => '"'
  | .arr _ => '['
  | .obj _ => '\x7b'

theorem head_number {n : Json.Number} (hn : n.IsFinite) :
    ∃ c cs, n.write = c :: cs ∧ kindOf c = '0' := by
  cases n with
  | int n =>
      obtain ⟨c, cs, hcons⟩ := List.exists_cons_of_ne_nil
        (Nat.toDigits_ne_nil (b := 10) (n := n.natAbs))
      have hdigit : c.isDigit = true := isDigit_toDigits c (hcons ▸ List.mem_cons_self)
      rcases toList_ofInt n with ⟨htext, -⟩ | ⟨htext, -⟩
      · exact ⟨c, cs, htext.trans hcons, by simp [kindOf, hdigit]⟩
      · exact ⟨'-', _, htext, rfl⟩
  | float x =>
      obtain ⟨p, hx⟩ := hn
      obtain ⟨c, cs, hcons, hdigit, -⟩ := hasFraction_magnitude p
      rw [Number.write, writeFloat_of_parts? hx, hcons]
      cases p.negative with
      | true => exact ⟨'-', _, rfl, rfl⟩
      | false => exact ⟨c, cs, rfl, by simp [kindOf, hdigit]⟩

theorem head_text {j : Json} (hj : j.IsFinite) :
    ∃ c cs, write j = c :: cs ∧ kindOf c = kind j := by
  cases j with
  | null => exact ⟨_, _, rfl, rfl⟩
  | bool b => cases b <;> exact ⟨_, _, rfl, rfl⟩
  | num n => exact head_number hj
  | str s => exact ⟨_, _, rfl, rfl⟩
  | arr items => exact ⟨_, _, rfl, rfl⟩
  | obj members => exact ⟨_, _, rfl, rfl⟩

theorem kind_eq {j j' : Json} {rest rest' : List Char} (hj : j.IsFinite) (hj' : j'.IsFinite)
    (h : write j ++ rest = write j' ++ rest') : kind j = kind j' := by
  obtain ⟨c, cs, hcons, hkind⟩ := head_text hj
  obtain ⟨c', cs', hcons', hkind'⟩ := head_text hj'
  rw [hcons, hcons'] at h
  rw [← hkind, ← hkind', (List.cons.inj h).1]

theorem kind_ne_closing (j : Json) : kind j ≠ ']' := by
  cases j with
  | bool b => cases b <;> decide
  | _ => simp [kind]

theorem write_ne_closing {j : Json} (hj : j.IsFinite) (rest rest' : List Char) :
    write j ++ rest ≠ ']' :: rest' := by
  obtain ⟨c, cs, hcons, hkind⟩ := head_text hj
  rw [hcons]
  intro h
  obtain ⟨rfl, -⟩ := List.cons.inj h
  exact kind_ne_closing j hkind.symm

inductive SameKind : Json → Json → Prop
  | null : SameKind .null .null
  | bool (b : Bool) : SameKind (.bool b) (.bool b)
  | num (n n' : Json.Number) : SameKind (.num n) (.num n')
  | str (s s' : String) : SameKind (.str s) (.str s')
  | arr (items items' : List Json) : SameKind (.arr items) (.arr items')
  | obj (members members' : List (String × Json)) : SameKind (.obj members) (.obj members')

theorem sameKind_of_kind {j j' : Json} (h : kind j = kind j') : SameKind j j' := by
  unfold kind at h
  split at h <;> split at h <;> first | constructor | exact absurd h (by decide)

def Ends (rest : List Char) : Prop := ∀ c ∈ rest.head?, isFigure c = false

variable {rest rest' : List Char}

theorem ends_nil : Ends [] := fun _ hc => by cases hc

theorem ends_cons {c : Char} (h : isFigure c = false) (rest : List Char) : Ends (c :: rest) :=
  fun _ hc => Option.some.inj hc ▸ h

theorem takeWhile_figures {cs : List Char} (hcs : ∀ c ∈ cs, isFigure c = true) (hrest : Ends rest) :
    (cs ++ rest).takeWhile isFigure = cs := by
  rw [List.takeWhile_append_of_pos hcs]
  cases rest with
  | nil => exact List.append_nil cs
  | cons c rest =>
      have hc : ¬ isFigure c = true := by simp [hrest c rfl]
      rw [List.takeWhile_cons_of_neg hc, List.append_nil]

theorem number_append_inj {n n' : Json.Number} (hn : n.IsFinite) (hn' : n'.IsFinite)
    (hrest : Ends rest) (hrest' : Ends rest') (h : n.write ++ rest = n'.write ++ rest') :
    n = n' ∧ rest = rest' := by
  have hwritten : n.write = n'.write := by
    rw [← takeWhile_figures (Number.isFigure_write hn) hrest, h,
      takeWhile_figures (Number.isFigure_write hn') hrest']
  rw [hwritten] at h
  exact ⟨Number.write_inj hn hn' hwritten, List.append_cancel_left h⟩

theorem quoted_append_inj {s s' : String} (h : quoted s ++ rest = quoted s' ++ rest') :
    s = s' ∧ rest = rest' := by
  have hoctets (s : String) (rest : List Char) :
      octets (s.toList.flatMap escapeChar) ++ 0x22 :: octets rest =
        octets (s.toList.flatMap escapeChar ++ '"' :: rest) := by
    rw [octets_append, Utf8.octets_cons]
    rfl
  have hquoted (s : String) (rest : List Char) :
      quoted s ++ rest = '"' :: (s.toList.flatMap escapeChar ++ '"' :: rest) := by
    simp [quoted]
  rw [hquoted, hquoted] at h
  have hread := readString?_quoted s (octets rest)
  rw [hoctets, List.tail_eq_of_cons_eq h, ← hoctets, readString?_quoted] at hread
  obtain ⟨rfl, -⟩ : s' = s ∧ octets rest' = octets rest := by simpa using hread
  exact ⟨rfl, by simpa using h⟩

/-! ## Values -/

def writeTail : List Json → List Char
  | [] => []
  | x :: xs => ',' :: (write x ++ writeTail xs)

def writeMemberTail : List (String × Json) → List Char
  | [] => []
  | (k, x) :: ms => ',' :: (quoted k ++ ':' :: (write x ++ writeMemberTail ms))

theorem writeItems_cons (x : Json) (xs : List Json) :
    writeItems (x :: xs) = write x ++ writeTail xs := by
  induction xs generalizing x with
  | nil => simp [writeItems, writeTail]
  | cons y ys ih => rw [writeItems, ih, writeTail]

theorem writeMembers_cons (k : String) (x : Json) (ms : List (String × Json)) :
    writeMembers ((k, x) :: ms) = quoted k ++ ':' :: (write x ++ writeMemberTail ms) := by
  induction ms generalizing k x with
  | nil => simp [writeMembers, writeMemberTail]
  | cons m ms ih =>
      obtain ⟨l, y⟩ := m
      rw [writeMembers, ih, writeMemberTail]

theorem ends_tail (xs : List Json) : Ends (writeTail xs ++ ']' :: rest) := by
  cases xs <;> exact ends_cons rfl _

theorem ends_memberTail (ms : List (String × Json)) :
    Ends (writeMemberTail ms ++ '\x7d' :: rest) := by
  cases ms with
  | nil => exact ends_cons rfl _
  | cons m ms => exact ends_cons rfl _

theorem tails_of_items {xs ys : List Json} (hxs : ItemsFinite xs) (hys : ItemsFinite ys)
    (h : writeItems xs ++ ']' :: rest = writeItems ys ++ ']' :: rest') :
    writeTail xs ++ ']' :: rest = writeTail ys ++ ']' :: rest' := by
  cases xs with
  | nil =>
      cases ys with
      | nil => exact h
      | cons y ys =>
          rw [writeItems_cons, List.append_assoc] at h
          exact absurd h.symm (write_ne_closing hys.1 _ _)
  | cons x xs =>
      cases ys with
      | nil =>
          rw [writeItems_cons, List.append_assoc] at h
          exact absurd h (write_ne_closing hxs.1 _ _)
      | cons y ys =>
          rw [writeItems_cons, writeItems_cons] at h
          rw [writeTail, writeTail, List.cons_append, List.cons_append, h]

theorem tails_of_members {ms ns : List (String × Json)}
    (h : writeMembers ms ++ '\x7d' :: rest = writeMembers ns ++ '\x7d' :: rest') :
    writeMemberTail ms ++ '\x7d' :: rest = writeMemberTail ns ++ '\x7d' :: rest' := by
  cases ms with
  | nil =>
      cases ns with
      | nil => exact h
      | cons n ns =>
          rw [writeMembers_cons] at h
          exact absurd (List.cons.inj h).1 (by decide)
  | cons m ms =>
      cases ns with
      | nil =>
          rw [writeMembers_cons] at h
          exact absurd (List.cons.inj h).1 (by decide)
      | cons n ns =>
          rw [writeMembers_cons, writeMembers_cons] at h
          rw [writeMemberTail, writeMemberTail, List.cons_append, List.cons_append, h]

mutual

/-- A value is told by its text, and so is what stands behind it. -/
theorem write_append_inj (j j' : Json) {rest rest' : List Char} (hj : j.IsFinite)
    (hj' : j'.IsFinite) (hrest : Ends rest) (hrest' : Ends rest')
    (h : write j ++ rest = write j' ++ rest') : j = j' ∧ rest = rest' := by
  -- The first character tells the constructor; a text ends where it closes what it opened, or, for
  -- a number, with its last figure.
  match j, j', sameKind_of_kind (kind_eq hj hj' h) with
  | _, _, .null => exact ⟨rfl, List.append_cancel_left h⟩
  | _, _, .bool b => exact ⟨rfl, List.append_cancel_left h⟩
  | .num n, .num n', .num _ _ =>
      obtain ⟨rfl, hrests⟩ := number_append_inj hj hj' hrest hrest' h
      exact ⟨rfl, hrests⟩
  | .str s, .str s', .str _ _ =>
      obtain ⟨rfl, hrests⟩ := quoted_append_inj h
      exact ⟨rfl, hrests⟩
  | .arr items, .arr items', .arr _ _ =>
      rw [write, write, List.cons_append, List.cons_append, List.append_assoc,
        List.append_assoc] at h
      have htails := tails_of_items hj hj' (List.tail_eq_of_cons_eq h)
      obtain ⟨rfl, hrests⟩ := writeTail_append_inj items items' hj hj' htails
      exact ⟨rfl, hrests⟩
  | .obj members, .obj members', .obj _ _ =>
      rw [write, write, List.cons_append, List.cons_append, List.append_assoc,
        List.append_assoc] at h
      have htails := tails_of_members (List.tail_eq_of_cons_eq h)
      obtain ⟨rfl, hrests⟩ := writeMemberTail_append_inj members members' hj hj' htails
      exact ⟨rfl, hrests⟩

theorem writeTail_append_inj (xs ys : List Json) {rest rest' : List Char} (hxs : ItemsFinite xs)
    (hys : ItemsFinite ys) (h : writeTail xs ++ ']' :: rest = writeTail ys ++ ']' :: rest') :
    xs = ys ∧ rest = rest' := by
  match xs, ys with
  | [], [] => exact ⟨rfl, List.tail_eq_of_cons_eq h⟩
  | [], y :: ys => cases h
  | x :: xs, [] => cases h
  | x :: xs, y :: ys =>
      rw [writeTail, writeTail, List.cons_append, List.cons_append, List.append_assoc,
        List.append_assoc] at h
      obtain ⟨rfl, htail⟩ := write_append_inj x y hxs.1 hys.1 (ends_tail xs) (ends_tail ys)
        (List.tail_eq_of_cons_eq h)
      obtain ⟨rfl, hrest⟩ := writeTail_append_inj xs ys hxs.2 hys.2 htail
      exact ⟨rfl, hrest⟩

theorem writeMemberTail_append_inj (ms ns : List (String × Json)) {rest rest' : List Char}
    (hms : MembersFinite ms) (hns : MembersFinite ns)
    (h : writeMemberTail ms ++ '\x7d' :: rest = writeMemberTail ns ++ '\x7d' :: rest') :
    ms = ns ∧ rest = rest' := by
  match ms, ns with
  | [], [] => exact ⟨rfl, List.tail_eq_of_cons_eq h⟩
  | [], (l, y) :: ns => cases h
  | (k, x) :: ms, [] => cases h
  | (k, x) :: ms, (l, y) :: ns =>
      simp only [writeMemberTail, List.cons_append, List.append_assoc, List.cons.injEq,
        true_and] at h
      obtain ⟨rfl, hvalue⟩ := quoted_append_inj h
      obtain ⟨rfl, htail⟩ := write_append_inj x y hms.1 hns.1 (ends_memberTail ms)
        (ends_memberTail ns) (List.tail_eq_of_cons_eq hvalue)
      obtain ⟨rfl, hrest⟩ := writeMemberTail_append_inj ms ns hms.2 hns.2 htail
      exact ⟨rfl, hrest⟩

end

theorem text_inj {j j' : Json} (hj : j.IsFinite) (hj' : j'.IsFinite) (h : j.text = j'.text) :
    j = j' := by
  have hwritten : write j ++ [] = write j' ++ [] := by
    rw [List.append_nil, List.append_nil]
    exact String.ofList_injective h
  exact (write_append_inj j j' hj hj' ends_nil ends_nil hwritten).1

end ModelGateway.Json
