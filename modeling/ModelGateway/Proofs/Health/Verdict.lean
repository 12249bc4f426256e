import ModelGateway.Health.Monitor

/-!
# Verdicts and what they decide

A verdict exists for every result as long as the threshold is a duration, and it depends on the
channel only through its provider.  What it decides about the status is stated on its own and then
shown to be what the jobs of a batch write.
-/

namespace ModelGateway

namespace Policy

variable {s : HealthSettings} {c c' : Channel} {r : TestResult} {v : Verdict}

/-- The only result without a verdict is one that has to be held against a threshold that is no
duration. -/
theorem judge?_eq_none_iff :
    judge? s c r = none ↔ (s.automaticDisable = true ∧ s.threshold = .unrepresentable) ∧
      r.failure.any (shouldDisable s c.provider) = false := by
  unfold judge?
  split
  · next hban => simp [hban]
  · next hban =>
    split
    · next hdisable => simp_all
    · next hdisable =>
      cases hthreshold : s.threshold with
      | off => simp
      | unrepresentable => simp_all
      | nanos threshold =>
          dsimp only
          split <;> simp

theorem exists_judge? (h : s.threshold ≠ .unrepresentable) (c : Channel) (r : TestResult) :
    ∃ v, judge? s c r = some v :=
  Option.ne_none_iff_exists'.mp fun hnone => h (judge?_eq_none_iff.mp hnone).1.2

def verdict (s : HealthSettings) (c : Channel) (r : TestResult) : Verdict :=
  (judge? s c r).getD ⟨false, r.failure⟩

theorem judge?_eq_verdict (h : s.threshold ≠ .unrepresentable) (c : Channel) (r : TestResult) :
    judge? s c r = some (verdict s c r) := by
  obtain ⟨v, hv⟩ := exists_judge? h c r
  simp [verdict, hv]

theorem verdict_congr (h : c'.provider = c.provider) : verdict s c' r = verdict s c r := by
  simp [verdict, judge?, h]

theorem isSome_failure_of_ban (h : judge? s c r = some v) (hban : v.ban = true) :
    v.failure.isSome = true := by
  unfold judge? at h
  split at h
  · next hany =>
      obtain rfl := Option.some.inj h
      exact Option.isSome_of_any hany
  · split at h
    · obtain rfl := Option.some.inj h
      contradiction
    · split at h
      · obtain rfl := Option.some.inj h
        contradiction
      · contradiction
      · split at h
        · obtain rfl := Option.some.inj h
          rfl
        · obtain rfl := Option.some.inj h
          contradiction

theorem automaticDisable_of_ban (h : judge? s c r = some v) (hban : v.ban = true) :
    s.automaticDisable = true := by
  unfold judge? at h
  split at h
  · next hany =>
      obtain ⟨f, -, hf⟩ := Option.any_eq_true _ _ |>.mp hany
      exact (Bool.and_eq_true_iff.mp hf).1
  · split at h
    · obtain rfl := Option.some.inj h
      contradiction
    · next hdisable => simpa using hdisable

theorem threshold_of_pass (h : judge? s c r = some v) (hpass : v.failure = none)
    (hdisable : s.automaticDisable = true) : s.threshold ≠ .unrepresentable := by
  intro hthreshold
  unfold judge? at h
  split at h
  · next hany =>
      obtain rfl := Option.some.inj h
      have hfailed := Option.isSome_of_any hany
      rw [show r.failure = none from hpass] at hfailed
      contradiction
  · simp [hdisable, hthreshold] at h

end Policy

namespace Monitor

variable {s : HealthSettings} {c : Channel} {v : Verdict}

/-- The status that a channel is to have after a verdict. -/
def decided (s : HealthSettings) (c : Channel) (v : Verdict) : ChannelStatus :=
  if c.status = .enabled ∧ c.autoBan = true ∧ v.ban = true then .autoDisabled
  else if c.status = .autoDisabled ∧ s.automaticEnable = true ∧ v.failure = none then .enabled
  else c.status

def failureText (v : Verdict) : String :=
  (v.failure.map (·.message)).getD ""

def change (c : Channel) (v : Verdict) : Job :=
  if c.status = .enabled then .disable c.id c.name (failureText v) else .enable c.id c.name

def changeNotice (c : Channel) (v : Verdict) : Notice :=
  if c.status = .enabled then .disabled c.id c.name (failureText v) else .enabled c.id c.name

def changeReason (c : Channel) (v : Verdict) : Option String :=
  if c.status = .enabled then some (failureText v) else none

theorem consequences_eq (s : HealthSettings) (c : Channel) (v : Verdict) :
    consequences s c v = if decided s c v = c.status then [] else [change c v] := by
  unfold consequences decided change failureText Channel.isEnabled Policy.shouldEnable
  cases c.status with
  | enabled => cases c.autoBan <;> cases v.ban <;> simp
  | manuallyDisabled => simp
  | autoDisabled => cases s.automaticEnable <;> cases v.failure <;> simp

theorem decided_decided (h : v.ban = true → v.failure.isSome = true) {c' : Channel}
    (hstatus : c'.status = decided s c v) (hban : c'.autoBan = c.autoBan) :
    decided s c' v = c'.status := by
  have hpassed : v.ban = false ∨ v.failure ≠ none := by
    cases hv : v.ban with
    | false => exact .inl rfl
    | true => exact .inr (Option.isSome_iff_ne_none.mp (h hv))
  unfold decided at hstatus ⊢
  rw [hstatus, hban]
  cases c.status with
  | enabled => rcases hpassed with hpassed | hpassed <;> cases c.autoBan <;> simp [hpassed]
  | manuallyDisabled => simp
  | autoDisabled =>
      rcases hpassed with hpassed | hpassed <;> cases s.automaticEnable <;> simp [hpassed]

/-- Some result of a test changes the status of the channel. -/
def Movable (s : HealthSettings) (c : Channel) : Prop :=
  (c.status = .enabled ∧ c.autoBan = true ∧ s.automaticDisable = true) ∨
    (c.status = .autoDisabled ∧ s.automaticEnable = true ∧
      (s.automaticDisable = true → s.threshold ≠ .unrepresentable))

theorem movable_of_consequences {r : TestResult} (hv : Policy.judge? s c r = some v)
    (h : consequences s c v ≠ []) : Movable s c := by
  rw [consequences_eq, ne_eq, ite_eq_left_iff, Classical.not_imp] at h
  obtain ⟨hdecided, -⟩ := h
  unfold decided at hdecided
  split at hdecided
  · next hban =>
      obtain ⟨hstatus, hauto, hban⟩ := hban
      exact .inl ⟨hstatus, hauto, Policy.automaticDisable_of_ban hv hban⟩
  · split at hdecided
    · next hpass =>
        obtain ⟨hstatus, hauto, hpass⟩ := hpass
        exact .inr ⟨hstatus, hauto, Policy.threshold_of_pass hv hpass⟩
    · contradiction

theorem not_movable_of_manuallyDisabled (h : c.status = .manuallyDisabled) : ¬ Movable s c := by
  simp [Movable, h]

def moving (s : HealthSettings) (c : Channel) : TestResult where
  model := ""
  elapsedNanos := 0
  failure :=
    if c.status = .autoDisabled ∧ (s.automaticDisable = true → s.threshold ≠ .unrepresentable) then
      none
    else some ⟨.responseTimeExceeded, "", none, none, none⟩

theorem judge?_moving (s : HealthSettings) (c : Channel) :
    ∃ v, Policy.judge? s c (moving s c) = some v ∧ (Movable s c → consequences s c v ≠ []) := by
  unfold moving
  split
  · next hpass =>
      obtain ⟨hstatus, hthreshold⟩ := hpass
      refine ⟨⟨false, none⟩, ?_, fun hmovable => ?_⟩
      · unfold Policy.judge?
        cases hdisable : s.automaticDisable with
        | false => rfl
        | true =>
            cases hvalue : s.threshold with
            | off => rfl
            | nanos n => simp
            | unrepresentable => exact absurd hvalue (hthreshold hdisable)
      · obtain ⟨henabled, -⟩ | ⟨-, henable, -⟩ := hmovable
        · rw [hstatus] at henabled
          contradiction
        · simp [consequences_eq, decided, hstatus, henable]
  · next hnot =>
      refine ⟨⟨s.automaticDisable, some ⟨.responseTimeExceeded, "", none, none, none⟩⟩, ?_,
        fun hmovable => ?_⟩
      · unfold Policy.judge? Policy.shouldDisable
        cases hdisable : s.automaticDisable <;> simp
      · obtain ⟨hstatus, hauto, hdisable⟩ | ⟨hstatus, -, hthreshold⟩ := hmovable
        · simp [consequences_eq, decided, hstatus, hauto, hdisable]
        · exact absurd ⟨hstatus, hthreshold⟩ hnot

end Monitor

end ModelGateway
