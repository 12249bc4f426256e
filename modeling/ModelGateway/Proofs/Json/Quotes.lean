import ModelGateway.Proofs.Json.Figures

/-!
# Quotes in written values

In the text of a value, a backslash or a bar stands between quotes only.  So a bar in front of the
text of a value can be told from the bars in the text: what follows a bar between quotes is read
with inside and outside exchanged, and is not the text of a value.
-/

namespace ModelGateway.Json

/-- The state of a reader that looks for the quotes of a text. -/
inductive Place where
  | outside
  | inside
  | escaped
  deriving DecidableEq, Repr

def Place.next? : Place → Char → Option Place
  | .outside, c =>
    if c = '"' then some .inside else if c = '\\' ∨ c = '|' then none else some .outside
  | .inside, c => some (if c = '"' then .outside else if c = '\\' then .escaped else .inside)
  | .escaped, _ => some .inside

def scan? (p : Place) (cs : List Char) : Option Place :=
  cs.foldlM Place.next? p

@[simp] theorem scan?_nil (p : Place) : scan? p [] = some p := rfl

theorem scan?_cons (p : Place) (c : Char) (cs : List Char) :
    scan? p (c :: cs) = (p.next? c).bind (scan? · cs) := rfl

theorem scan?_append (p : Place) (cs ds : List Char) :
    scan? p (cs ++ ds) = (scan? p cs).bind (scan? · ds) :=
  List.foldlM_append

def IsBare (c : Char) : Prop := c ≠ '"' ∧ c ≠ '\\' ∧ c ≠ '|'

instance : DecidablePred IsBare := fun c => inferInstanceAs (Decidable (c ≠ '"' ∧ c ≠ '\\' ∧ c ≠ '|'))

theorem next?_bare {c : Char} (h : IsBare c) : Place.outside.next? c = some .outside := by
  obtain ⟨hquote, hslash, hbar⟩ := h
  simp [Place.next?, hquote, hslash, hbar]

theorem scan?_bares {cs : List Char} (h : ∀ c ∈ cs, IsBare c) :
    scan? .outside cs = some .outside := by
  induction cs with
  | nil => rfl
  | cons c cs ih =>
      rw [scan?_cons, next?_bare (h c List.mem_cons_self), Option.bind_some]
      exact ih fun d hd => h d (List.mem_cons_of_mem c hd)

theorem isBare_of_isFigure {c : Char} (h : isFigure c = true) : IsBare c := by
  refine ⟨?_, ?_, ?_⟩ <;> rintro rfl <;> contradiction

theorem isBare_write (n : Json.Number) : ∀ c ∈ n.write, IsBare c :=
  forall_mem_write_number (fun _ => isBare_of_isFigure) (forall_mem_of_all rfl) n

theorem scan?_escapeChar (c : Char) : scan? .inside (escapeChar c) = some .inside := by
  have hcode : ∀ n < 0x20, scan? .inside
      ['\\', 'u', '0', '0', hexDigit (n / 16), hexDigit (n % 16)] = some .inside := by
    decide
  by_cases hquote : c = '"'
  · exact hquote ▸ rfl
  by_cases hslash : c = '\\'
  · exact hslash ▸ rfl
  unfold escapeChar
  rw [if_neg hquote, if_neg hslash]
  split
  · rfl
  split
  · rfl
  split
  · rfl
  split
  · rfl
  split
  · rfl
  split
  · next hcontrol => exact hcode c.toNat hcontrol
  · simp [scan?_cons, Place.next?, hquote, hslash]

theorem scan?_quoted (s : String) : scan? .outside (quoted s) = some .outside := by
  have hchars : ∀ cs : List Char, scan? .inside (cs.flatMap escapeChar) = some .inside := by
    intro cs
    induction cs with
    | nil => rfl
    | cons c cs ih => rw [List.flatMap_cons, scan?_append, scan?_escapeChar, Option.bind_some, ih]
  rw [quoted, scan?_cons]
  change scan? .inside _ = _
  rw [scan?_append, hchars]
  rfl

mutual

/-- The quotes of a value are closed at its end, and no bar stands outside of them. -/
theorem scan?_write (j : Json) : scan? .outside (write j) = some .outside := by
  cases j with
  | null => rfl
  | bool b => cases b <;> rfl
  | num n => exact scan?_bares (isBare_write n)
  | str s => exact scan?_quoted s
  | arr items =>
      rw [write, scan?_cons]
      change scan? .outside _ = _
      rw [scan?_append, scan?_writeItems items]
      rfl
  | obj members =>
      rw [write, scan?_cons]
      change scan? .outside _ = _
      rw [scan?_append, scan?_writeMembers members]
      rfl

theorem scan?_writeItems (items : List Json) :
    scan? .outside (writeItems items) = some .outside := by
  match items with
  | [] => rfl
  | [x] => exact scan?_write x
  | x :: y :: rest =>
      rw [writeItems, scan?_append, scan?_write x, Option.bind_some, scan?_cons]
      exact scan?_writeItems (y :: rest)

theorem scan?_writeMembers (members : List (String × Json)) :
    scan? .outside (writeMembers members) = some .outside := by
  match members with
  | [] => rfl
  | [(k, x)] =>
      rw [writeMembers, scan?_append, scan?_quoted, Option.bind_some, scan?_cons]
      exact scan?_write x
  | (k, x) :: m :: rest =>
      rw [writeMembers, scan?_append, scan?_quoted, Option.bind_some, scan?_cons]
      change scan? .outside _ = _
      rw [scan?_append, scan?_write x, Option.bind_some, scan?_cons]
      exact scan?_writeMembers (m :: rest)

end

/-- Two readers, one inside and one outside of quotes. -/
inductive Place.Turned : Place → Place → Prop
  | outside : Turned .outside .inside
  | inside : Turned .inside .outside

theorem Place.Turned.symm {p q : Place} (h : p.Turned q) : q.Turned p := by
  cases h with
  | outside => exact .inside
  | inside => exact .outside

theorem Place.turned_next {p q : Place} {c : Char} (hp : Place.outside.next? c = some p)
    (hq : Place.inside.next? c = some q) : p.Turned q := by
  by_cases hquote : c = '"'
  · simp only [Place.next?, hquote, if_true, Option.some.injEq] at hp hq
    exact hp ▸ hq ▸ .inside
  · simp only [Place.next?, hquote, if_false, Option.some.injEq] at hp hq
    split at hp
    · cases hp
    · next hbare =>
      rw [if_neg fun hslash => hbare (.inl hslash)] at hq
      cases hp
      exact hq ▸ .outside

theorem Place.Turned.next {p q p' q' : Place} {c : Char} (h : p.Turned q)
    (hp : p.next? c = some p') (hq : q.next? c = some q') : p'.Turned q' := by
  cases h with
  | outside => exact turned_next hp hq
  | inside => exact (turned_next hq hp).symm

theorem Place.Turned.scan {p q p' q' : Place} {cs : List Char} (h : p.Turned q)
    (hp : scan? p cs = some p') (hq : scan? q cs = some q') : p'.Turned q' := by
  induction cs generalizing p q with
  | nil =>
      cases hp
      cases hq
      exact h
  | cons c cs ih =>
      rw [scan?_cons] at hp hq
      obtain ⟨p₁, hp₁, hp⟩ := Option.bind_eq_some_iff.mp hp
      obtain ⟨q₁, hq₁, hq⟩ := Option.bind_eq_some_iff.mp hq
      exact ih (h.next hp₁ hq₁) hp hq

/-- Behind a bar between quotes there is no text with all its quotes closed. -/
theorem not_closed_behind_bar {before rest : List Char}
    (h : scan? .outside (before ++ '|' :: rest) = some .outside) :
    scan? .outside rest ≠ some .outside := by
  intro hrest
  -- The whole text is read from inside of quotes behind the bar, `rest` alone from outside.
  rw [scan?_append] at h
  obtain ⟨p, -, hp⟩ := Option.bind_eq_some_iff.mp h
  have hinside : scan? .inside rest = some .outside := by
    cases p with
    | outside => cases hp
    | inside => exact hp
    | escaped => exact hp
  cases Place.Turned.outside.scan hrest hinside

theorem append_bar_inj {before before' rest rest' : List Char}
    (hrest : scan? .outside rest = some .outside) (hrest' : scan? .outside rest' = some .outside)
    (h : before ++ '|' :: rest = before' ++ '|' :: rest') : before = before' ∧ rest = rest' := by
  rcases List.append_eq_append_iff.mp h with ⟨between, hbefore, hbar⟩ | ⟨between, hbefore, hbar⟩
  · cases between with
    | nil => exact ⟨by simpa using hbefore.symm, by simpa using hbar⟩
    | cons c between =>
        obtain ⟨rfl, rfl⟩ := List.cons.inj hbar
        exact absurd hrest' (not_closed_behind_bar hrest)
  · cases between with
    | nil => exact ⟨by simpa using hbefore, by simpa using hbar.symm⟩
    | cons c between =>
        obtain ⟨rfl, rfl⟩ := List.cons.inj hbar
        exact absurd hrest (not_closed_behind_bar hrest')

end ModelGateway.Json
