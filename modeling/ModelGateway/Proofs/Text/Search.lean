import ModelGateway.Text.Search

/-!
# Searching a text

The results of searches for affixes and marks, as iffs.
-/

namespace ModelGateway.Text

theorem afterChars?_eq_some_iff {affix cs rest : List Char} :
    afterChars? affix cs = some rest ↔ cs = affix ++ rest := by
  induction affix generalizing cs with
  | nil => simp [afterChars?]
  | cons a affix ih =>
      cases cs with
      | nil => simp [afterChars?]
      | cons c cs =>
          rw [afterChars?]
          split
          · next heq => simp [ih, heq]
          · next hne => simp [Ne.symm hne]

theorem afterChars?_eq_none_iff {affix cs : List Char} :
    afterChars? affix cs = none ↔ ¬ affix <+: cs := by
  rw [Option.eq_none_iff_forall_ne_some, List.IsPrefix, not_exists]
  exact forall_congr' fun rest => by rw [ne_eq, afterChars?_eq_some_iff, eq_comm]

theorem after?_eq_some_iff {affix s rest : String} :
    after? affix s = some rest ↔ s = affix ++ rest := by
  rw [after?, Option.map_eq_some_iff]
  constructor
  · rintro ⟨cs, hcs, rfl⟩
    rw [← String.toList_inj, String.toList_append, String.toList_ofList]
    exact afterChars?_eq_some_iff.mp hcs
  · rintro rfl
    refine ⟨rest.toList, afterChars?_eq_some_iff.mpr ?_, String.ofList_toList⟩
    rw [String.toList_append]

theorem beforeChars?_eq_some_iff {affix cs base : List Char} :
    beforeChars? affix cs = some base ↔ cs = base ++ affix := by
  rw [beforeChars?, Option.map_eq_some_iff]
  constructor
  · rintro ⟨rest, hrest, rfl⟩
    have hcs := congrArg List.reverse (afterChars?_eq_some_iff.mp hrest)
    simpa using hcs
  · rintro rfl
    exact ⟨base.reverse, afterChars?_eq_some_iff.mpr List.reverse_append, List.reverse_reverse base⟩

theorem before?_eq_some_iff {affix s base : String} :
    before? affix s = some base ↔ s = base ++ affix := by
  rw [before?, Option.map_eq_some_iff]
  constructor
  · rintro ⟨cs, hcs, rfl⟩
    rw [← String.toList_inj, beforeChars?_eq_some_iff.mp hcs, String.toList_append,
      String.toList_ofList]
  · rintro rfl
    refine ⟨base.toList, ?_, String.ofList_toList⟩
    rw [beforeChars?_eq_some_iff, String.toList_append]

section

variable {c : Char} {mark before rest cs : List Char}

theorem eq_of_splitAtFirst? (h : splitAtFirst? mark cs = some (before, rest)) :
    cs = before ++ mark ++ rest := by
  induction cs generalizing before with
  | nil =>
      rw [splitAtFirst?] at h
      split at h
      · next hempty => cases h; simpa using hempty
      · cases h
  | cons d cs ih =>
      rw [splitAtFirst?] at h
      split at h
      · next found hfound =>
        cases h
        exact afterChars?_eq_some_iff.mp hfound
      · obtain ⟨⟨later, found⟩, hfound, hpair⟩ := Option.map_eq_some_iff.mp h
        obtain ⟨rfl, rfl⟩ := Prod.mk.inj hpair
        exact congrArg (d :: ·) (ih hfound)

theorem splitAtFirst?_of_head (h : c ∉ before) (mark rest : List Char) :
    splitAtFirst? (c :: mark) (before ++ (c :: mark) ++ rest) = some (before, rest) := by
  induction before with
  | nil =>
      have hfound : afterChars? (c :: mark) (c :: (mark ++ rest)) = some rest :=
        afterChars?_eq_some_iff.mpr rfl
      simp [splitAtFirst?, hfound]
  | cons d before ih =>
      obtain ⟨hne, hrest⟩ : c ≠ d ∧ c ∉ before := by simpa using h
      have hmissed : afterChars? (c :: mark) (d :: (before ++ (c :: mark) ++ rest)) = none :=
        if_neg hne
      rw [List.cons_append, List.cons_append, splitAtFirst?, hmissed, ih hrest]
      rfl

theorem splitAtFirst?_of_not_mem (h : c ∉ before) (rest : List Char) :
    splitAtFirst? [c] (before ++ c :: rest) = some (before, rest) := by
  simpa using splitAtFirst?_of_head h [] rest

theorem splitAtFirst?_eq_some_iff :
    splitAtFirst? [c] cs = some (before, rest) ↔ cs = before ++ c :: rest ∧ c ∉ before := by
  constructor
  · intro h
    have hcs : cs = before ++ c :: rest := by simpa using eq_of_splitAtFirst? h
    refine ⟨hcs, fun hmem => ?_⟩
    obtain ⟨front, back, hbefore, hfront⟩ := List.eq_append_cons_of_mem hmem
    have hsplit : cs = front ++ c :: (back ++ c :: rest) := by simp [hcs, hbefore]
    rw [hsplit, splitAtFirst?_of_not_mem hfront] at h
    obtain ⟨rfl, -⟩ := Prod.mk.inj (Option.some.inj h)
    simp at hbefore
  · rintro ⟨rfl, h⟩
    exact splitAtFirst?_of_not_mem h rest

theorem eq_of_splitAtLast? (h : splitAtLast? mark cs = some (before, rest)) :
    cs = before ++ mark ++ rest := by
  obtain ⟨⟨after, start⟩, hfound, hpair⟩ := Option.map_eq_some_iff.mp h
  obtain ⟨rfl, rfl⟩ := Prod.mk.inj hpair
  have hcs := congrArg List.reverse (eq_of_splitAtFirst? hfound)
  simpa using hcs

theorem splitAtLast?_of_last (before mark : List Char) (h : c ∉ rest) :
    splitAtLast? (mark ++ [c]) (before ++ (mark ++ [c]) ++ rest) = some (before, rest) := by
  have hfound := splitAtFirst?_of_head (by simpa using h : c ∉ rest.reverse) mark.reverse
    before.reverse
  have hreverse : (before ++ (mark ++ [c]) ++ rest).reverse =
      rest.reverse ++ (c :: mark.reverse) ++ before.reverse := by simp
  rw [splitAtLast?, hreverse, List.reverse_concat, hfound]
  simp

theorem splitAtLast?_of_not_mem (before : List Char) (h : c ∉ rest) :
    splitAtLast? [c] (before ++ c :: rest) = some (before, rest) := by
  simpa using splitAtLast?_of_last before [] h

end

end ModelGateway.Text
