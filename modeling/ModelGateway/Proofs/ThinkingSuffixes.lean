import Mathlib.Data.Nat.Digits.Defs
import ModelGateway.ModelName
import ModelGateway.Proofs.Text.Search

/-!
# Suffixes for thinking

A name has at most one of the suffixes that control thinking, in one way.  What a name is parsed
into is what comes before its suffix and what the suffix asks for.
-/

namespace ModelGateway.ModelName

/-- A number as it is written in base ten, leading zeros included. -/
structure Digits where
  chars : List Char
  nonempty : chars ≠ []
  decimal : ∀ c ∈ chars, c.isDigit

namespace Digits

def text (d : Digits) : String := String.ofList d.chars

@[simp] theorem toList_text (d : Digits) : d.text.toList = d.chars := String.toList_ofList

def value (d : Digits) : Nat :=
  Nat.ofDigits 10 (d.chars.reverse.map fun c => c.toNat - '0'.toNat)

def word? (d : Digits) : Option Nat :=
  if d.value < 2 ^ 32 then some d.value else none

theorem digitsValue?_chars (d : Digits) : Text.digitsValue? d.chars = some d.value := by
  have hdigits : (d.chars.isEmpty || !d.chars.all Char.isDigit) = false := by
    simpa [d.nonempty] using d.decimal
  rw [Text.digitsValue?, hdigits, value, Nat.ofDigits_eq_foldr, List.foldr_map, List.foldr_reverse]
  simp only [Bool.false_eq_true, if_false, Nat.cast_id, Nat.add_comm, Nat.mul_comm]

theorem budget?_chars (d : Digits) : budget? d.chars = d.word? := by
  have hmax : d.value ≤ maxBudget ↔ d.value < 2 ^ 32 := by
    rw [maxBudget, UInt32.size]
    omega
  rw [budget?, digitsValue?_chars, word?]
  simp only [hmax]

theorem dash_not_mem (d : Digits) : '-' ∉ d.chars :=
  fun hmem => absurd (d.decimal _ hmem) (by decide)

theorem append_chars_ne (d : Digits) (before before' : List Char) :
    before ++ d.chars ≠ before' ++ ['g'] := by
  intro heq
  obtain ⟨start, last, hchars⟩ := (List.eq_nil_or_concat d.chars).resolve_left d.nonempty
  have hlast := congrArg List.getLast? heq
  rw [hchars, List.concat_eq_append, ← List.append_assoc, List.getLast?_concat,
    List.getLast?_concat] at hlast
  have hdigit := d.decimal last (by simp [hchars])
  rw [Option.some.inj hlast] at hdigit
  exact absurd hdigit (by decide)

end Digits

inductive Suffix where
  | nothinking
  | thinking
  | budget (d : Digits)

namespace Suffix

def text : Suffix → String
  | .nothinking => "-nothinking"
  | .thinking => "-thinking"
  | .budget d => "-thinking-" ++ d.text

def asks : Suffix → Thinking
  | .nothinking => .off
  | .thinking => .on none
  | .budget d => .on d.word?

end Suffix

def IsSuffixed (name : String) : Prop :=
  ∃ (base : String) (x : Suffix), name = base ++ x.text

section

variable {base base' : String}

theorem append_nothinking_ne_thinking (base base' : String) :
    base ++ Suffix.nothinking.text ≠ base' ++ Suffix.thinking.text := by
  intro heq
  have hchars := congrArg String.toList heq
  have hsplit : (base.toList ++ ['-', 'n', 'o']) ++ "thinking".toList =
      (base'.toList ++ ['-']) ++ "thinking".toList := by
    simpa [Suffix.text, String.toList_append] using hchars
  have hlast := congrArg List.getLast? (List.append_cancel_right hsplit)
  simp at hlast

theorem append_budget_ne (base base' : String) (d : Digits) {x : Suffix}
    (hx : ∃ before, x.text.toList = before ++ ['g']) :
    base ++ (Suffix.budget d).text ≠ base' ++ x.text := by
  intro heq
  obtain ⟨before, hbefore⟩ := hx
  have hchars := congrArg String.toList heq
  rw [String.toList_append, String.toList_append, hbefore, Suffix.text, String.toList_append,
    Digits.toList_text, ← List.append_assoc, ← List.append_assoc] at hchars
  exact d.append_chars_ne _ _ hchars

theorem splitAtLast?_budget (before : List Char) (d : Digits) :
    Text.splitAtLast? "-thinking-".toList (before ++ "-thinking-".toList ++ d.chars) =
      some (before, d.chars) :=
  Text.splitAtLast?_of_last before "-thinking".toList d.dash_not_mem

theorem suffix_unique {x y : Suffix} (h : base ++ x.text = base' ++ y.text) :
    base = base' ∧ x = y := by
  have hsame (affix : String) (h : base ++ affix = base' ++ affix) : base = base' := by
    rw [← String.toList_inj] at h ⊢
    rw [String.toList_append, String.toList_append] at h
    exact List.append_cancel_right h
  have hnothinking : ∃ before, Suffix.nothinking.text.toList = before ++ ['g'] :=
    ⟨"-nothinkin".toList, by decide⟩
  have hthinking : ∃ before, Suffix.thinking.text.toList = before ++ ['g'] :=
    ⟨"-thinkin".toList, by decide⟩
  cases x with
  | nothinking =>
      cases y with
      | nothinking => exact ⟨hsame _ h, rfl⟩
      | thinking => exact absurd h (append_nothinking_ne_thinking base base')
      | budget d => exact absurd h.symm (append_budget_ne base' base d hnothinking)
  | thinking =>
      cases y with
      | nothinking => exact absurd h.symm (append_nothinking_ne_thinking base' base)
      | thinking => exact ⟨hsame _ h, rfl⟩
      | budget d => exact absurd h.symm (append_budget_ne base' base d hthinking)
  | budget d =>
      cases y with
      | nothinking => exact absurd h (append_budget_ne base base' d hnothinking)
      | thinking => exact absurd h (append_budget_ne base base' d hthinking)
      | budget d' =>
          have hchars := congrArg (fun s => Text.splitAtLast? "-thinking-".toList s.toList) h
          simp only [Suffix.text, Digits.toList_text, String.toList_append,
            ← List.append_assoc, splitAtLast?_budget, Option.some.injEq, Prod.mk.injEq] at hchars
          obtain ⟨hbase, hdigits⟩ := hchars
          obtain rfl : d = d' := by
            cases d
            cases d'
            cases hdigits
            rfl
          exact ⟨String.toList_inj.mp hbase, rfl⟩

end

/-! ## What a name is parsed into -/

variable {name base : String} {x : Suffix} {t : Thinking}

theorem splitBudget?_eq_some_iff {cs before digits : List Char} :
    splitBudget? cs = some (before, digits) ↔
      ∃ d : Digits, d.chars = digits ∧ cs = before ++ "-thinking-".toList ++ d.chars := by
  constructor
  · intro h
    unfold splitBudget? at h
    split at h
    · next found rest hfound =>
        split at h
        · next hdigits =>
            obtain ⟨rfl, rfl⟩ := Prod.mk.inj (Option.some.inj h)
            obtain ⟨hnonempty, hdecimal⟩ : rest ≠ [] ∧ ∀ c ∈ rest, c.isDigit := by
              simpa using hdigits
            exact ⟨⟨rest, hnonempty, hdecimal⟩, rfl, Text.eq_of_splitAtLast? hfound⟩
        · cases h
    · cases h
  · rintro ⟨d, rfl, rfl⟩
    have hdigits : (!d.chars.isEmpty && d.chars.all Char.isDigit) = true := by
      simpa [d.nonempty] using d.decimal
    simp only [splitBudget?, splitAtLast?_budget, hdigits, if_true]

theorem eq_of_splitBudget? {before digits : List Char}
    (h : splitBudget? name.toList = some (before, digits)) :
    ∃ d : Digits, d.chars = digits ∧ name = String.ofList before ++ (Suffix.budget d).text := by
  obtain ⟨d, hd, hname⟩ := splitBudget?_eq_some_iff.mp h
  refine ⟨d, hd, String.toList_inj.mp ?_⟩
  simpa [Suffix.text, String.toList_append] using hname

theorem parseThinking_append (base : String) (x : Suffix) :
    parseThinking (base ++ x.text) = (base, x.asks) := by
  -- Each shape is looked for where the ones before it are not found, as no name has two.
  have hbefore (other : Suffix) (hne : x ≠ other) :
      Text.before? other.text (base ++ x.text) = none := by
    rw [Option.eq_none_iff_forall_ne_some]
    intro found hfound
    exact hne (suffix_unique (Text.before?_eq_some_iff.mp hfound)).2
  have hbudget (hne : ∀ d, x ≠ .budget d) : splitBudget? (base ++ x.text).toList = none := by
    rw [Option.eq_none_iff_forall_ne_some]
    rintro ⟨before, digits⟩ hfound
    obtain ⟨d, -, hname⟩ := eq_of_splitBudget? hfound
    exact hne d (suffix_unique hname).2
  have hfound : Text.before? x.text (base ++ x.text) = some base := Text.before?_eq_some_iff.mpr rfl
  unfold parseThinking
  cases x with
  | nothinking =>
      rw [show Text.before? "-nothinking" _ = some base from hfound]
      rfl
  | thinking =>
      rw [show Text.before? "-nothinking" _ = none from hbefore .nothinking nofun,
        hbudget nofun, show Text.before? "-thinking" _ = some base from hfound]
      rfl
  | budget d =>
      have hsplit : splitBudget? (base ++ (Suffix.budget d).text).toList =
          some (base.toList, d.chars) := by
        refine splitBudget?_eq_some_iff.mpr ⟨d, rfl, ?_⟩
        simp [Suffix.text, String.toList_append]
      rw [show Text.before? "-nothinking" _ = none from hbefore .nothinking nofun, hsplit]
      simp only [String.ofList_toList, d.budget?_chars, Suffix.asks]

theorem parseThinking_of_not_isSuffixed (h : ¬ IsSuffixed name) :
    parseThinking name = (name, .unspecified) := by
  have hbefore (x : Suffix) : Text.before? x.text name = none := by
    rw [Option.eq_none_iff_forall_ne_some]
    exact fun found hfound => h ⟨found, x, Text.before?_eq_some_iff.mp hfound⟩
  have hbudget : splitBudget? name.toList = none := by
    rw [Option.eq_none_iff_forall_ne_some]
    rintro ⟨before, digits⟩ hfound
    obtain ⟨d, -, hname⟩ := eq_of_splitBudget? hfound
    exact h ⟨_, _, hname⟩
  unfold parseThinking
  rw [show Text.before? "-nothinking" name = none from hbefore .nothinking, hbudget,
    show Text.before? "-thinking" name = none from hbefore .thinking]

/-- A name is parsed into its base and what its suffix asks for; without one it is its own base. -/
theorem parseThinking_eq_iff : parseThinking name = (base, t) ↔
    (∃ x : Suffix, name = base ++ x.text ∧ t = x.asks) ∨
      ¬ IsSuffixed name ∧ base = name ∧ t = .unspecified := by
  by_cases h : IsSuffixed name
  · obtain ⟨base', x, rfl⟩ := h
    rw [parseThinking_append, Prod.mk.injEq]
    constructor
    · rintro ⟨rfl, rfl⟩
      exact .inl ⟨x, rfl, rfl⟩
    · rintro (⟨y, hname, rfl⟩ | ⟨hnone, -, -⟩)
      · obtain ⟨rfl, rfl⟩ := suffix_unique hname
        exact ⟨rfl, rfl⟩
      · exact absurd ⟨base', x, rfl⟩ hnone
  · rw [parseThinking_of_not_isSuffixed h, Prod.mk.injEq]
    constructor
    · rintro ⟨rfl, rfl⟩
      exact .inr ⟨h, rfl, rfl⟩
    · rintro (⟨x, hname, -⟩ | ⟨-, rfl, rfl⟩)
      · exact absurd ⟨base, x, hname⟩ h
      · exact ⟨rfl, rfl⟩

theorem parseThinking_eq_off_iff :
    parseThinking name = (base, .off) ↔ name = base ++ "-nothinking" := by
  rw [parseThinking_eq_iff]
  constructor
  · rintro (⟨_ | _ | d, hname, hasks⟩ | ⟨-, -, hasks⟩)
    · exact hname
    all_goals cases hasks
  · exact fun hname => .inl ⟨.nothinking, hname, rfl⟩

theorem parseThinking_eq_on_iff {budget : Option Nat} :
    parseThinking name = (base, .on budget) ↔
      name = base ++ "-thinking" ∧ budget = none ∨
        ∃ d : Digits, name = base ++ "-thinking-" ++ d.text ∧ budget = d.word? := by
  rw [parseThinking_eq_iff]
  constructor
  · rintro (⟨_ | _ | d, hname, hasks⟩ | ⟨-, -, hasks⟩)
    · cases hasks
    · exact .inl ⟨hname, Thinking.on.inj hasks⟩
    · exact .inr ⟨d, hname.trans String.append_assoc.symm, Thinking.on.inj hasks⟩
    · cases hasks
  · rintro (⟨hname, rfl⟩ | ⟨d, hname, rfl⟩)
    · exact .inl ⟨.thinking, hname, rfl⟩
    · exact .inl ⟨.budget d, hname.trans String.append_assoc, rfl⟩

theorem parseThinking_eq_unspecified_iff :
    parseThinking name = (base, .unspecified) ↔ base = name ∧ ¬ IsSuffixed name := by
  rw [parseThinking_eq_iff]
  constructor
  · rintro (⟨_ | _ | d, -, hasks⟩ | ⟨hnone, hbase, -⟩)
    case inr => exact ⟨hbase, hnone⟩
    all_goals cases hasks
  · exact fun ⟨hbase, hnone⟩ => .inr ⟨hnone, hbase, rfl⟩

end ModelGateway.ModelName
