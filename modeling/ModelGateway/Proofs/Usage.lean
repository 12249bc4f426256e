import ModelGateway.Tokens
import ModelGateway.Usage

/-!
# Usage from words

Where a provider reports no usage, the words of the text that it sent are counted.
-/

namespace ModelGateway

namespace Text

/-- The longest pieces of a text without blanks. -/
def words (text : String) : List (List Char) :=
  (text.toList.splitOnP isBlank).filter (· ≠ [])

theorem countWords_eq (cs : List Char) :
    ∃ first rest, cs.splitOnP isBlank = first :: rest ∧
      countWords true cs = (rest.filter (· ≠ [])).length ∧
      countWords false cs = ((first :: rest).filter (· ≠ [])).length := by
  induction cs with
  | nil => exact ⟨[], [], rfl, rfl, rfl⟩
  | cons c cs ih =>
      obtain ⟨first, rest, hsplit, hinside, houtside⟩ := ih
      rw [List.splitOnP_cons_eq_if_modifyHead, hsplit]
      by_cases hblank : isBlank c
      · refine ⟨[], first :: rest, if_pos hblank, ?_, ?_⟩
        · rw [countWords, if_pos hblank, houtside]
        · rw [countWords, if_pos hblank, houtside]
          rfl
      · refine ⟨c :: first, rest, if_neg hblank, ?_, ?_⟩
        · rw [countWords, if_neg hblank, if_pos rfl, hinside]
        · rw [countWords, if_neg hblank, if_neg Bool.false_ne_true, hinside]
          simp

end Text

theorem Tokens.ofText_eq (text : String) : Tokens.ofText text = (Text.words text).length := by
  obtain ⟨first, rest, hsplit, -, houtside⟩ := Text.countWords_eq text.toList
  rw [Tokens.ofText, houtside, Text.words, hsplit]

namespace Usage

theorem add?_of_lt {a b : UInt32} (h : a.toNat + b.toNat < UInt32.size) : add? a b = .ok (a + b) :=
  if_pos h

/-- The usage that is estimated from the words of a text. -/
structure IsEstimate (prompt : UInt32) (text : String) (usage : Usage) : Prop where
  prompt_eq : usage.prompt = prompt
  completion_eq : usage.completion.toNat = (Text.words text).length
  total_eq : usage.total.toNat = prompt.toNat + (Text.words text).length
  no_details : usage.cached = none ∧ usage.reasoning = none

theorem IsEstimate.unique {prompt : UInt32} {text : String} {usage usage' : Usage}
    (h : IsEstimate prompt text usage) (h' : IsEstimate prompt text usage') : usage = usage' := by
  have hcompletion := UInt32.toNat_inj.mp (h.completion_eq.trans h'.completion_eq.symm)
  have htotal := UInt32.toNat_inj.mp (h.total_eq.trans h'.total_eq.symm)
  have hcached := h.no_details.1.trans h'.no_details.1.symm
  have hreasoning := h.no_details.2.trans h'.no_details.2.symm
  cases usage
  cases usage'
  exact Usage.mk.injEq .. ▸
    ⟨h.prompt_eq.trans h'.prompt_eq.symm, hcompletion, htotal, hcached, hreasoning⟩

theorem exists_ofCounts {prompt : UInt32} {text : String}
    (h : prompt.toNat + (Text.words text).length < UInt32.size) :
    ∃ usage, ofCounts prompt (Tokens.count [text]) = .ok usage ∧ IsEstimate prompt text usage := by
  have hwords : (Tokens.count [text]).toNat = (Text.words text).length := by
    have hone : Tokens.ofTexts [text] = (Text.words text).length := Tokens.ofText_eq text
    rw [Tokens.count, hone, Nat.toUInt32_eq, UInt32.toNat_ofNat']
    exact Nat.mod_eq_of_lt (Nat.lt_of_le_of_lt (Nat.le_add_left _ _) h)
  have hsum : prompt.toNat + (Tokens.count [text]).toNat < UInt32.size := by rwa [hwords]
  refine ⟨⟨prompt, Tokens.count [text], prompt + Tokens.count [text], none, none⟩, ?_, ?_⟩
  · rw [ofCounts, add?_of_lt hsum]
    rfl
  · refine ⟨rfl, hwords, ?_, rfl, rfl⟩
    rw [UInt32.toNat_add, hwords]
    exact Nat.mod_eq_of_lt h

end Usage

end ModelGateway
