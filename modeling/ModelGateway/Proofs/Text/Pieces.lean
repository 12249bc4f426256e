import Mathlib.Data.List.Basic
import ModelGateway.Text.Blank
import ModelGateway.Text.Lines

/-!
# Pieces of texts

Texts that are joined and split again give the pieces of each of them in turn.  Once blanks are
trimmed and blank pieces are left out, it makes no difference whether a text is split at its line
feeds or read line by line.
-/

namespace ModelGateway.Text

theorem splitChars_cons_self (separator : Char) (cs : List Char) :
    splitChars separator (separator :: cs) = [] :: splitChars separator cs :=
  if_pos rfl

theorem splitChars_cons_of_ne {separator c : Char} {cs piece : List Char}
    {pieces : List (List Char)} (hc : c ≠ separator)
    (hpieces : splitChars separator cs = piece :: pieces) :
    splitChars separator (c :: cs) = (c :: piece) :: pieces := by
  rw [splitChars, if_neg hc, hpieces]

theorem exists_splitChars_eq_cons (separator : Char) (cs : List Char) :
    ∃ piece pieces, splitChars separator cs = piece :: pieces := by
  induction cs with
  | nil => exact ⟨[], [], rfl⟩
  | cons c cs ih =>
      obtain ⟨piece, pieces, hpieces⟩ := ih
      by_cases hc : c = separator
      · subst hc
        exact ⟨[], _, splitChars_cons_self c cs⟩
      · exact ⟨c :: piece, pieces, splitChars_cons_of_ne hc hpieces⟩

theorem flatMap_splitChars (separator : Char) (cs : List Char) :
    (splitChars separator cs).flatMap (· ++ [separator]) = cs ++ [separator] := by
  induction cs with
  | nil => rfl
  | cons c cs ih =>
      by_cases hc : c = separator
      · subst hc
        rw [splitChars_cons_self, List.flatMap_cons, ih]
        rfl
      · obtain ⟨piece, pieces, hpieces⟩ := exists_splitChars_eq_cons separator cs
        rw [hpieces, List.flatMap_cons] at ih
        rw [splitChars_cons_of_ne hc hpieces, List.flatMap_cons, List.cons_append,
          List.cons_append, ih]
        rfl

theorem mem_of_mem_splitChars {separator c : Char} {cs piece : List Char}
    (hpiece : piece ∈ splitChars separator cs) (hc : c ∈ piece) : c ∈ cs ∧ c ≠ separator := by
  induction cs generalizing piece with
  | nil =>
      rw [List.mem_singleton.mp hpiece] at hc
      cases hc
  | cons d cs ih =>
      by_cases hd : d = separator
      · subst hd
        rw [splitChars_cons_self] at hpiece
        rcases List.mem_cons.mp hpiece with rfl | hlater
        · cases hc
        · exact (ih hlater hc).imp_left (List.mem_cons_of_mem d)
      · obtain ⟨first, pieces, hpieces⟩ := exists_splitChars_eq_cons separator cs
        rw [splitChars_cons_of_ne hd hpieces] at hpiece
        rcases List.mem_cons.mp hpiece with rfl | hlater
        · rcases List.mem_cons.mp hc with rfl | hrest
          · exact ⟨List.mem_cons_self, hd⟩
          · exact (ih (hpieces ▸ List.mem_cons_self) hrest).imp_left (List.mem_cons_of_mem d)
        · exact (ih (hpieces ▸ List.mem_cons_of_mem first hlater) hc).imp_left
            (List.mem_cons_of_mem d)

theorem splitChars_of_not_mem {separator : Char} {cs : List Char} (h : separator ∉ cs) :
    splitChars separator cs = [cs] := by
  induction cs with
  | nil => rfl
  | cons c cs ih =>
      obtain ⟨hc, hcs⟩ := List.ne_and_not_mem_of_not_mem_cons h
      exact splitChars_cons_of_ne hc.symm (ih hcs)

theorem splitChars_append (separator : Char) (cs ds : List Char) :
    splitChars separator (cs ++ separator :: ds) =
      splitChars separator cs ++ splitChars separator ds := by
  induction cs with
  | nil => exact splitChars_cons_self separator ds
  | cons c cs ih =>
      by_cases hc : c = separator
      · subst hc
        rw [List.cons_append, splitChars_cons_self, splitChars_cons_self, ih, List.cons_append]
      · obtain ⟨piece, pieces, hpieces⟩ := exists_splitChars_eq_cons separator cs
        rw [hpieces, List.cons_append] at ih
        rw [List.cons_append, splitChars_cons_of_ne hc ih, splitChars_cons_of_ne hc hpieces,
          List.cons_append]

theorem splitChars_intercalate (separator : Char) {texts : List (List Char)} (h : texts ≠ []) :
    splitChars separator ([separator].intercalate texts) =
      texts.flatMap (splitChars separator) := by
  induction texts with
  | nil => exact absurd rfl h
  | cons text texts ih =>
      cases texts with
      | nil => simp
      | cons other texts =>
          rw [List.intercalate_cons_cons, List.append_assoc, List.singleton_append,
            splitChars_append, ih (List.cons_ne_nil _ _)]
          rfl

theorem intercalate_splitChars (separator : Char) (cs : List Char) :
    [separator].intercalate (splitChars separator cs) = cs := by
  induction cs with
  | nil => rfl
  | cons c cs ih =>
      obtain ⟨piece, pieces, hpieces⟩ := exists_splitChars_eq_cons separator cs
      by_cases hc : c = separator
      · rw [hc, splitChars_cons_self, hpieces, List.intercalate_cons_cons, ← hpieces, ih]
        rfl
      · rw [splitChars_cons_of_ne hc hpieces]
        rw [hpieces] at ih
        cases pieces with
        | nil => simpa using ih
        | cons other pieces =>
            rw [List.intercalate_cons_cons] at ih ⊢
            rw [← ih]
            rfl

/-- The pieces of a text are the last ones of another exactly if it is all of it, or what follows a
separator to its end. -/
theorem splitChars_suffix_iff {separator : Char} {cs ds : List Char} :
    splitChars separator ds <:+ splitChars separator cs ↔
      cs = ds ∨ separator :: ds <:+ cs := by
  constructor
  · rintro ⟨before, hsplit⟩
    by_cases hnil : before = []
    · subst hnil
      have hjoined := congrArg ([separator].intercalate) hsplit
      rw [List.nil_append, intercalate_splitChars, intercalate_splitChars] at hjoined
      exact .inl hjoined.symm
    · have hwhole : ∀ piece ∈ before, separator ∉ piece := fun piece hpiece hmem =>
        (mem_of_mem_splitChars (hsplit ▸ List.mem_append_left _ hpiece) hmem).2 rfl
      have hbefore : splitChars separator ([separator].intercalate before) = before := by
        rw [splitChars_intercalate separator hnil,
          List.flatMap_congr fun piece hpiece => splitChars_of_not_mem (hwhole piece hpiece),
          List.flatMap_singleton']
      have hjoined := congrArg ([separator].intercalate) hsplit
      rw [← hbefore, ← splitChars_append, intercalate_splitChars,
        intercalate_splitChars] at hjoined
      exact .inr ⟨_, hjoined⟩
  · rintro (rfl | ⟨front, rfl⟩)
    · exact List.suffix_rfl
    · rw [splitChars_append]
      exact List.suffix_append _ _

theorem mapM_eq_some_iff {α β : Type} {f : α → Option β} {pieces : List α} {results : List β} :
    pieces.mapM f = some results ↔ pieces.map f = results.map some := by
  induction pieces generalizing results with
  | nil => cases results <;> simp
  | cons piece rest ih =>
      simp only [List.mapM_cons, Option.pure_def, Option.bind_eq_bind, Option.bind_eq_some_iff,
        Option.some.injEq, ih]
      cases results with
      | nil => simp
      | cons result results => simp [and_comm, eq_comm]

theorem dropReturn_of_not_mem {line : List Char} (h : '\r' ∉ line) : dropReturn line = line := by
  unfold dropReturn
  split
  · next rest hrest =>
    exact absurd (List.mem_reverse.mp (hrest ▸ List.mem_cons_self)) h
  · rfl

theorem dropReturn_eq_or (line : List Char) :
    dropReturn line = line ∨ line = dropReturn line ++ ['\r'] := by
  unfold dropReturn
  split
  · next rest hrest =>
    refine .inr ?_
    rw [← List.reverse_cons, ← hrest, List.reverse_reverse]
  · exact .inl rfl

theorem linesOfPieces_eq {pieces : List (List Char)} (hreturn : ∀ piece ∈ pieces, '\r' ∉ piece)
    (hlast : pieces.getLast? ≠ some []) : linesOfPieces pieces = pieces := by
  induction pieces with
  | nil => rfl
  | cons piece pieces ih =>
      cases pieces with
      | nil =>
          have hpiece : piece.isEmpty = false := by simpa using hlast
          simp [linesOfPieces, hpiece]
      | cons other pieces =>
          rw [linesOfPieces, dropReturn_of_not_mem (hreturn piece List.mem_cons_self),
            ih (fun p hp => hreturn p (List.mem_cons_of_mem _ hp)) (by simpa using hlast)]
          exact List.cons_ne_nil _ _

theorem getLast?_splitChars {separator : Char} {cs : List Char}
    (h : (splitChars separator cs).getLast? = some []) :
    cs = [] ∨ cs.getLast? = some separator := by
  induction cs with
  | nil => exact .inl rfl
  | cons c cs ih =>
      have hmore : (splitChars separator cs).getLast? = some [] →
          (c = separator ∨ cs ≠ []) → (c :: cs).getLast? = some separator := by
        intro hlast hcs
        rcases ih hlast with rfl | hend
        · rcases hcs with rfl | hne
          · rfl
          · exact absurd rfl hne
        · rw [List.getLast?_cons, hend]
          rfl
      right
      obtain ⟨piece, pieces, hpieces⟩ := exists_splitChars_eq_cons separator cs
      by_cases hc : c = separator
      · rw [hc, splitChars_cons_self, hpieces, List.getLast?_cons_cons, ← hpieces] at h
        exact hmore h (.inl hc)
      · rw [splitChars_cons_of_ne hc hpieces] at h
        cases pieces with
        | nil => simp at h
        | cons other pieces =>
            rw [List.getLast?_cons_cons] at h
            refine hmore (by rw [hpieces, List.getLast?_cons_cons]; exact h) (.inr ?_)
            rintro rfl
            cases hpieces

theorem trim_of_ends {first last : Char} (middle : List Char) (hfirst : isBlank first = false)
    (hlast : isBlank last = false) :
    trim (String.ofList (first :: (middle ++ [last]))) =
      String.ofList (first :: (middle ++ [last])) := by
  rw [trim, String.toList_ofList, trimChars, trimLeft, List.dropWhile_cons_of_neg (by simp [hfirst]),
    dropEnd, ← List.cons_append, List.reverse_append, List.reverse_singleton,
    List.singleton_append, List.dropWhile_cons_of_neg (by simp [hlast]), List.reverse_cons,
    List.reverse_reverse]

theorem trimChars_append_blank (cs : List Char) {b : Char} (h : isBlank b = true) :
    trimChars (cs ++ [b]) = trimChars cs := by
  have hleft : trimLeft (cs ++ [b]) = trimLeft cs ∨ trimLeft (cs ++ [b]) = trimLeft cs ++ [b] := by
    rw [trimLeft, trimLeft, List.dropWhile_append]
    cases hrest : cs.dropWhile isBlank with
    | nil => exact .inl (by simp [h])
    | cons c rest => exact .inr rfl
  rcases hleft with hleft | hleft
  · rw [trimChars, hleft, trimChars]
  · rw [trimChars, hleft, dropEnd, List.reverse_append, List.reverse_singleton,
      List.singleton_append, List.dropWhile_cons_of_pos h, trimChars, dropEnd]

theorem nonBlank?_eq_some_iff {s t : String} : nonBlank? s = some t ↔ trim s = t ∧ t ≠ "" := by
  unfold nonBlank?
  dsimp only
  constructor
  · intro h
    split at h
    · cases h
    · next hempty =>
      obtain rfl := Option.some.inj h
      exact ⟨rfl, fun heq => hempty (heq ▸ rfl)⟩
  · rintro ⟨rfl, hne⟩
    rw [if_neg fun hempty => hne (String.isEmpty_iff.mp hempty)]

theorem nonBlank?_ofList_dropReturn (line : List Char) :
    nonBlank? (String.ofList (dropReturn line)) = nonBlank? (String.ofList line) := by
  rcases dropReturn_eq_or line with hline | hline
  · rw [hline]
  · have htrim : trim (String.ofList line) = trim (String.ofList (dropReturn line)) := by
      have hchars := trimChars_append_blank (dropReturn line) (b := '\r') rfl
      rw [← hline] at hchars
      rw [trim, trim, String.toList_ofList, String.toList_ofList, hchars]
    rw [nonBlank?, nonBlank?, htrim]

/-- What stands between the separators, trimmed, without what is blank. -/
def nonBlankPieces (separator : Char) (s : String) : List String :=
  (split separator s).filterMap nonBlank?

def nonBlankLines (s : String) : List String :=
  (lines s).filterMap nonBlank?

theorem nonBlankLines_eq (s : String) : nonBlankLines s = nonBlankPieces '\n' s := by
  have hpieces (pieces : List (List Char)) :
      ((linesOfPieces pieces).map String.ofList).filterMap nonBlank? =
        (pieces.map String.ofList).filterMap nonBlank? := by
    induction pieces with
    | nil => rfl
    | cons piece pieces ih =>
        cases pieces with
        | nil =>
            cases piece with
            | nil => rfl
            | cons c cs => rfl
        | cons other pieces =>
            rw [linesOfPieces, List.map_cons, List.map_cons, List.filterMap_cons,
              List.filterMap_cons, nonBlank?_ofList_dropReturn, ih]
            exact List.cons_ne_nil _ _
  exact hpieces (splitChars '\n' s.toList)

theorem nonBlankPieces_intercalate {joiner : String} {separator : Char}
    (hjoiner : joiner.toList = [separator]) (texts : List String) :
    nonBlankPieces separator (joiner.intercalate texts) =
      texts.flatMap (nonBlankPieces separator) := by
  by_cases hnil : texts = []
  · subst hnil
    rfl
  · have hchars : texts.map String.toList ≠ [] := fun h => hnil (List.map_eq_nil_iff.mp h)
    rw [nonBlankPieces, split, String.toList_intercalate, hjoiner,
      splitChars_intercalate separator hchars, List.flatMap_map, List.map_flatMap,
      List.filterMap_flatMap]
    rfl

/-- A trimmed text without the separator. -/
structure IsPiece (separator : Char) (s : String) : Prop where
  whole : separator ∉ s.toList
  trimmed : trim s = s
  nonblank : isBlankText s = false

instance (separator : Char) : DecidablePred (IsPiece separator) := fun s =>
  decidable_of_iff (separator ∉ s.toList ∧ trim s = s ∧ isBlankText s = false)
    ⟨fun h => ⟨h.1, h.2.1, h.2.2⟩, fun h => ⟨h.whole, h.trimmed, h.nonblank⟩⟩

theorem ne_empty_of_nonblank {s : String} (h : isBlankText s = false) : s ≠ "" := by
  rintro rfl
  cases h

theorem IsPiece.nonBlankPieces_eq {separator : Char} {s : String} (h : IsPiece separator s) :
    nonBlankPieces separator s = [s] := by
  have hs : nonBlank? s = some s :=
    nonBlank?_eq_some_iff.mpr ⟨h.trimmed, ne_empty_of_nonblank h.nonblank⟩
  rw [nonBlankPieces, split, splitChars_of_not_mem h.whole, List.map_singleton,
    String.ofList_toList, List.filterMap_cons, hs]
  rfl

theorem flatMap_nonBlankPieces {separator : Char} {texts : List String}
    (h : ∀ s ∈ texts, IsPiece separator s) : texts.flatMap (nonBlankPieces separator) = texts := by
  rw [List.flatMap_congr fun s hs => (h s hs).nonBlankPieces_eq, List.flatMap_singleton']

end ModelGateway.Text
