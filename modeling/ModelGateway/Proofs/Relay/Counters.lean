import ModelGateway.Proofs.Relay.Overflow

/-!
# Counters that are reported

A provider reports up to five counters of 64 bits, and a usage has room for 32 bits of each.  What
does not fit is taken modulo `2 ^ 32`; the prompt and the completion are added before it is asked
whether a total is reported.
-/

namespace ModelGateway

/-- The counters that a provider reports. -/
structure Tally where
  prompt : Option Nat := none
  completion : Option Nat := none
  total : Option Nat := none
  cached : Option Nat := none
  reasoning : Option Nat := none
  deriving DecidableEq, Repr

namespace Tally

variable {t : Tally} {u response : Json} {usage : Usage}

def counts (t : Tally) : List Nat :=
  [t.prompt, t.completion, t.total, t.cached, t.reasoning].filterMap id

def sum (t : Tally) : Nat := t.prompt.getD 0 + t.completion.getD 0

/-- The object has these counters and no others, each a word of 64 bits. -/
structure IsIn (t : Tally) (u : Json) : Prop where
  prompt : u.get? "prompt_tokens" = t.prompt.map Json.nat
  completion : u.get? "completion_tokens" = t.completion.map Json.nat
  total : u.get? "total_tokens" = t.total.map Json.nat
  cached : (u.get? "prompt_tokens_details").bind (Json.get? "cached_tokens") =
    t.cached.map Json.nat
  reasoning : (u.get? "completion_tokens_details").bind (Json.get? "reasoning_tokens") =
    t.reasoning.map Json.nat
  words : ∀ n ∈ t.counts, n < UInt64.size

/-- The usage has the reported counters.  A prompt or a completion that is absent is zero, and a
total that is absent is their sum. -/
structure ShownIn (t : Tally) (usage : Usage) : Prop where
  prompt : usage.prompt.toNat = t.prompt.getD 0
  completion : usage.completion.toNat = t.completion.getD 0
  total : usage.total.toNat = t.total.getD t.sum
  cached : usage.cached.map UInt32.toNat = t.cached
  reasoning : usage.reasoning.map UInt32.toNat = t.reasoning

def ToldBy (t : Tally) (outcome : Except Halt (Option Usage)) : Prop :=
  if t.counts = [] then outcome = .ok none
  else ∃ usage, outcome = .ok (some usage) ∧ t.ShownIn usage

/-- Each counter has 32 bits, and so has the sum of the prompt and the completion. -/
structure Fits (t : Tally) : Prop where
  counts : ∀ n ∈ t.counts, n < UInt32.size
  sum : t.sum < UInt32.size

/-- The counters modulo `2 ^ 32`. -/
def cut (t : Tally) : Tally where
  prompt := t.prompt.map (· % UInt32.size)
  completion := t.completion.map (· % UInt32.size)
  total := t.total.map (· % UInt32.size)
  cached := t.cached.map (· % UInt32.size)
  reasoning := t.reasoning.map (· % UInt32.size)

theorem counts_eq_nil_iff : t.counts = [] ↔
    t.prompt = none ∧ t.completion = none ∧ t.total = none ∧ t.cached = none ∧
      t.reasoning = none := by
  simp [counts]

theorem mem_counts_iff {n : Nat} : n ∈ t.counts ↔
    t.prompt = some n ∨ t.completion = some n ∨ t.total = some n ∨ t.cached = some n ∨
      t.reasoning = some n := by
  simp [counts, eq_comm]

theorem count?_of_get? {key : String} {n : Option Nat} (h : u.get? key = n.map Json.nat) :
    Usage.count? key u = n.map Nat.toUInt32 := by
  cases n <;> simp [Usage.count?, h, Json.nat, Json.nat?]

theorem detail?_of_bind {group key : String} {n : Option Nat}
    (h : (u.get? group).bind (Json.get? key) = n.map Json.nat) :
    Usage.detail? group key u = n.map Nat.toUInt32 := by
  cases hgroup : u.get? group with
  | none =>
      rw [hgroup] at h
      cases n with
      | none => simp [Usage.detail?, hgroup]
      | some n => simp at h
  | some j =>
      rw [hgroup] at h
      simpa [Usage.detail?, hgroup] using count?_of_get? h

theorem sum_cut (t : Tally) :
    t.cut.sum = ((t.prompt.map Nat.toUInt32).getD 0).toNat +
      ((t.completion.map Nat.toUInt32).getD 0).toNat := by
  cases hp : t.prompt <;> cases hc : t.completion <;> simp [sum, cut, hp, hc]

theorem IsIn.ofResponse? (h : t.IsIn u) (husage : response.get? "usage" = some u) :
    (t.counts = [] ∧ Usage.ofResponse? response = .ok none) ∨
    (t.counts ≠ [] ∧ UInt32.size ≤ t.cut.sum ∧ Usage.ofResponse? response = .error .crashed) ∨
    (t.counts ≠ [] ∧ t.cut.sum < UInt32.size ∧
      ∃ usage, Usage.ofResponse? response = .ok (some usage) ∧ t.cut.ShownIn usage) := by
  simp only [Usage.ofResponse?, husage, count?_of_get? h.prompt, count?_of_get? h.completion,
    count?_of_get? h.total, detail?_of_bind h.cached, detail?_of_bind h.reasoning]
  by_cases hnone : t.counts = []
  · obtain ⟨hp, hc, ht, hcached, hreasoning⟩ := counts_eq_nil_iff.mp hnone
    exact .inl ⟨hnone, by simp [hp, hc, ht, hcached, hreasoning]⟩
  right
  rw [if_neg (by simpa [counts_eq_nil_iff, and_assoc] using hnone)]
  by_cases hsum : UInt32.size ≤ t.cut.sum
  · refine .inl ⟨hnone, hsum, ?_⟩
    rw [sum_cut] at hsum
    rw [Usage.add?_eq_crashed.mpr hsum]
    rfl
  · have hsum := Nat.not_le.mp hsum
    refine .inr ⟨hnone, hsum, ?_⟩
    have hadd := hsum
    rw [sum_cut] at hadd
    rw [Usage.add?_of_lt hadd]
    refine ⟨_, rfl, ?_, ?_, ?_, ?_, ?_⟩
    · cases hp : t.prompt <;> simp [cut, hp]
    · cases hc : t.completion <;> simp [cut, hc]
    · cases ht : t.total with
      | none =>
          simp only [cut, ht, Option.map_none, Option.getD_none]
          rw [UInt32.toNat_add, ← sum_cut]
          exact Nat.mod_eq_of_lt hsum
      | some n => simp [cut, ht]
    · cases hcached : t.cached <;> simp [cut, hcached]
    · cases hreasoning : t.reasoning <;> simp [cut, hreasoning]

/-! ## Counters that fit -/

theorem ShownIn.lt (h : t.ShownIn usage) : ∀ n ∈ t.counts, n < UInt32.size := by
  intro n hn
  rcases mem_counts_iff.mp hn with hn | hn | hn | hn | hn
  · have hprompt := h.prompt
    rw [hn, Option.getD_some] at hprompt
    exact hprompt ▸ usage.prompt.toNat_lt
  · have hcompletion := h.completion
    rw [hn, Option.getD_some] at hcompletion
    exact hcompletion ▸ usage.completion.toNat_lt
  · have htotal := h.total
    rw [hn, Option.getD_some] at htotal
    exact htotal ▸ usage.total.toNat_lt
  · have hcached := h.cached
    rw [hn] at hcached
    obtain ⟨count, -, rfl⟩ := Option.map_eq_some_iff.mp hcached
    exact count.toNat_lt
  · have hreasoning := h.reasoning
    rw [hn] at hreasoning
    obtain ⟨count, -, rfl⟩ := Option.map_eq_some_iff.mp hreasoning
    exact count.toNat_lt

theorem cut_eq_self (h : ∀ n ∈ t.counts, n < UInt32.size) : t.cut = t := by
  have hcut : ∀ {count : Option Nat}, (∀ n, count = some n → n ∈ t.counts) →
      count.map (· % UInt32.size) = count := by
    intro count hmem
    cases count with
    | none => rfl
    | some n => simp [Nat.mod_eq_of_lt (h n (hmem n rfl))]
  obtain ⟨prompt, completion, total, cached, reasoning⟩ := t
  simp only [cut, mk.injEq]
  refine ⟨hcut ?_, hcut ?_, hcut ?_, hcut ?_, hcut ?_⟩ <;>
    · intro n hn
      simp [mem_counts_iff, hn]

theorem toldBy_iff_fits (h : t.IsIn u) (husage : response.get? "usage" = some u) :
    t.ToldBy (Usage.ofResponse? response) ↔ t.Fits := by
  rcases h.ofResponse? husage with
    ⟨hnone, hread⟩ | ⟨hsome, hsum, hread⟩ | ⟨hsome, hsum, usage, hread, hshown⟩ <;>
    rw [ToldBy, hread]
  · rw [if_pos hnone]
    obtain ⟨hp, hc, -⟩ := counts_eq_nil_iff.mp hnone
    exact iff_of_true rfl ⟨by simp [hnone], by simp [sum, hp, hc]⟩
  · rw [if_neg hsome]
    refine iff_of_false (by simp) fun hfits => ?_
    have hlt := hfits.sum
    rw [cut_eq_self hfits.counts] at hsum
    omega
  · rw [if_neg hsome]
    constructor
    · rintro ⟨usage', hsame, hshown'⟩
      have hcounts := hshown'.lt
      rw [cut_eq_self hcounts] at hsum
      exact ⟨hcounts, hsum⟩
    · intro hfits
      rw [cut_eq_self hfits.counts] at hshown
      exact ⟨usage, rfl, hshown⟩

/-- A usage that was read has fewer tokens than were reported exactly if the prompt or the
completion does not fit. -/
theorem ShownIn.fewer_iff (h : t.cut.ShownIn usage) :
    usage.prompt.toNat + usage.completion.toNat < t.sum ↔
      UInt32.size ≤ t.prompt.getD 0 ∨ UInt32.size ≤ t.completion.getD 0 := by
  have hmod : ∀ count : Option Nat,
      (count.map (· % UInt32.size)).getD 0 = count.getD 0 % UInt32.size := by
    intro count
    cases count <;> simp
  rw [h.prompt, h.completion, sum]
  simp only [cut, hmod, UInt32.size]
  omega

/-- Reported counters are read as they are exactly if they fit.  Otherwise the reading crashes, or
each counter is taken modulo `2 ^ 32`. -/
theorem told_iff_fits (h : t.IsIn u) (husage : response.get? "usage" = some u) :
    (t.ToldBy (Usage.ofResponse? response) ↔ t.Fits) ∧
    (Usage.ofResponse? response = .ok none ↔ t.counts = []) ∧
    (Usage.ofResponse? response = .error .crashed ↔ UInt32.size ≤ t.cut.sum) ∧
    ∀ usage, Usage.ofResponse? response = .ok (some usage) →
      t.cut.ShownIn usage ∧
      (usage.prompt.toNat + usage.completion.toNat < t.sum ↔
        UInt32.size ≤ t.prompt.getD 0 ∨ UInt32.size ≤ t.completion.getD 0) := by
  refine ⟨toldBy_iff_fits h husage, ?_⟩
  rcases h.ofResponse? husage with
    ⟨hnone, hread⟩ | ⟨hsome, hsum, hread⟩ | ⟨hsome, hsum, usage, hread, hshown⟩ <;> rw [hread]
  · obtain ⟨hp, hc, -⟩ := counts_eq_nil_iff.mp hnone
    have hcut : t.cut.sum = 0 := by simp [sum, cut, hp, hc]
    exact ⟨iff_of_true rfl hnone, iff_of_false (by simp) (by simp [hcut, UInt32.size]), by simp⟩
  · exact ⟨iff_of_false (by simp) hsome, iff_of_true rfl hsum, by simp⟩
  · refine ⟨iff_of_false (by simp) hsome, iff_of_false (by simp) (Nat.not_le.mpr hsum), ?_⟩
    rintro usage' hsame
    obtain rfl : usage = usage' := by simpa using hsame
    exact ⟨hshown, hshown.fewer_iff⟩

def usageObject (prompt completion cached : Nat) : Json :=
  .obj [("prompt_tokens", .nat prompt), ("completion_tokens", .nat completion),
    ("prompt_tokens_details", .obj [("cached_tokens", .nat cached)])]

def reported (prompt completion cached : Nat) : Tally :=
  { prompt := some prompt, completion := some completion, cached := some cached }

theorem isIn_usageObject {prompt completion cached : Nat}
    (h : ∀ n ∈ (reported prompt completion cached).counts, n < UInt64.size) :
    (reported prompt completion cached).IsIn (usageObject prompt completion cached) :=
  ⟨rfl, rfl, rfl, rfl, rfl, h⟩

theorem told_iff_fits_largest :
    let t := reported (2 ^ 32 - 6) 5 4
    t.IsIn (usageObject (2 ^ 32 - 6) 5 4) ∧ t.Fits ∧
      t.ToldBy (Usage.ofResponse? (.obj [("usage", usageObject (2 ^ 32 - 6) 5 4)])) := by
  intro t
  have hin : t.IsIn (usageObject (2 ^ 32 - 6) 5 4) := isIn_usageObject (by decide)
  have hfits : t.Fits := ⟨by decide, by decide⟩
  exact ⟨hin, hfits, (told_iff_fits hin rfl).1.mpr hfits⟩

/-- A prompt of `2 ^ 32 + 1` tokens is read as one token. -/
theorem prompt_cut_short :
    (reported (2 ^ 32 + 1) 5 0).IsIn (usageObject (2 ^ 32 + 1) 5 0) ∧
      Usage.ofResponse? (.obj [("usage", usageObject (2 ^ 32 + 1) 5 0)]) =
        .ok (some ⟨1, 5, 6, some 0, none⟩) :=
  ⟨isIn_usageObject (by decide), by decide +kernel⟩

end Tally

end ModelGateway
