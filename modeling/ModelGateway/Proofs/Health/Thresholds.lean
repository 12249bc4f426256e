import ModelGateway.Proofs.Health.Isolation
import ModelGateway.Proofs.Number.Shortest
import ModelGateway.Settings.Load

/-!
# Thresholds that are no duration

A threshold above zero becomes a duration when a test is compared with it.  Durations have less than
`2 ^ 64` seconds.  With an infinite threshold, or one of as many seconds, a test cannot be judged,
and a batch ends at its first channel unless the failure of the test decides.
-/

namespace ModelGateway

namespace Number

def Parts.magnitude (p : Parts) : ℚ := p.significand * 2 ^ p.exponent

theorem significand_lt {x : Float} {p : Parts} (h : parts? x = some p) :
    p.significand < 2 ^ 53 := by
  rcases zero_or_proper h with ⟨hzero, -⟩ | hproper
  · rw [hzero]
    decide
  · exact hproper.lt

/-- What is rounded to nanoseconds is out of range exactly if the seconds are. -/
theorem le_roundScaled_iff {x : Float} {p : Parts} (h : parts? x = some p) :
    UInt64.size * 1000000000 ≤ roundScaled .even (p.significand * 1000000000) p.exponent ↔
      2 ^ 64 ≤ p.magnitude := by
  obtain ⟨negative, m, e⟩ := p
  have hm : m < 2 ^ 53 := significand_lt h
  cases e with
  | ofNat e =>
      have hscaled : roundScaled .even (m * 1000000000) (.ofNat e) = m * 2 ^ e * 1000000000 :=
        Nat.mul_right_comm ..
      have hsize : (2 : ℚ) ^ 64 = UInt64.size := by norm_num [UInt64.size]
      rw [hscaled, Nat.mul_le_mul_right_iff (by decide), Parts.magnitude, hsize, Int.ofNat_eq_natCast,
        zpow_natCast]
      exact_mod_cast Iff.rfl
  | negSucc e =>
      have hrounded : roundScaled .even (m * 1000000000) (.negSucc e) ≤ m * 1000000000 + 1 := by
        have hfew := Nat.div_le_self (m * 1000000000) (Nat.pow 2 (e + 1))
        rw [roundScaled]
        rcases roundDiv_eq_floor_or_succ .even (m * 1000000000) (Nat.pow 2 (e + 1)) with heq | heq
        · exact heq ▸ Nat.le_succ_of_le hfew
        · exact heq ▸ Nat.succ_le_succ hfew
      have hscale : (2 : ℚ) ^ Int.negSucc e ≤ 1 :=
        zpow_le_one_of_nonpos₀ one_le_two (Int.negSucc_lt_zero e).le
      have hsmall : (m : ℚ) * 2 ^ Int.negSucc e < 2 ^ 64 :=
        calc (m : ℚ) * 2 ^ Int.negSucc e
            ≤ m := mul_le_of_le_one_right (Nat.cast_nonneg m) hscale
          _ < 2 ^ 53 := by exact_mod_cast hm
          _ < 2 ^ 64 := by norm_num
      refine iff_of_false (fun hle => ?_) (not_le.mpr hsmall)
      simp only [UInt64.size] at hle
      omega

end Number

namespace HealthSettings

variable {s : HealthSettings}

/-- The threshold has no more seconds than a duration can have. -/
def Measurable (s : HealthSettings) : Prop :=
  ∃ p, Number.parts? s.disableThresholdSecs = some p ∧ p.magnitude < 2 ^ 64

theorem threshold_eq_unrepresentable_iff :
    s.threshold = .unrepresentable ↔ s.disableThresholdSecs > 0.0 ∧ ¬ s.Measurable := by
  unfold threshold Measurable
  split
  · next hpos =>
    cases hparts : Number.parts? s.disableThresholdSecs with
    | none => simp [hpos]
    | some p => simp [hpos, Number.le_roundScaled_iff hparts]
  · next hpos => simp [hpos]

/-- Slow tests are failures, and the threshold for them is no duration. -/
structure Overlong (s : HealthSettings) : Prop where
  disables : s.automaticDisable = true
  positive : s.disableThresholdSecs > 0.0
  immeasurable : ¬ s.Measurable

theorem overlong_iff :
    s.Overlong ↔ s.automaticDisable = true ∧ s.threshold = .unrepresentable := by
  rw [threshold_eq_unrepresentable_iff]
  exact ⟨fun h => ⟨h.disables, h.positive, h.immeasurable⟩, fun h => ⟨h.1, h.2.1, h.2.2⟩⟩

end HealthSettings

namespace Policy

variable {s : HealthSettings} {c : Channel} {r : TestResult}

theorem judge?_eq_none_iff_overlong :
    judge? s c r = none ↔
      s.Overlong ∧ r.failure.any (shouldDisable s c.provider) = false := by
  rw [HealthSettings.overlong_iff, judge?_eq_none_iff]

theorem judge?_of_not_positive (h : ¬ s.disableThresholdSecs > 0.0) (c : Channel) (r : TestResult) :
    judge? s c r = some ⟨r.failure.any (shouldDisable s c.provider), r.failure⟩ := by
  have hthreshold : s.threshold = .off := if_neg h
  unfold judge?
  split
  · next hban => rw [hban]
  · next hban =>
    rw [Bool.not_eq_true] at hban
    rw [hban, hthreshold, ite_self]

end Policy

/-! ## Batches -/

namespace Monitor

variable {σ : Type} {s : HealthSettings} {probe : Probe σ} {outcome : Int → TestResult}
  {notifies : Bool} {channels : List Channel} {events : List Event}
  {m m₁ : Monitor (List Channel × σ)}

theorem crashes_outcome_iff {c : Channel} :
    Crashes s (fun id => some (outcome id)) c ↔
      s.Overlong ∧ (outcome c.id).failure.any (Policy.shouldDisable s c.provider) = false := by
  rw [Crashes, judged?, Option.bind_some, Option.map_eq_none_iff, Policy.judge?_eq_none_iff_overlong]

structure WentThrough (s : HealthSettings) (outcome : Int → TestResult) (channels : List Channel)
    (events : List Event) (m m₁ : Monitor (List Channel × σ)) : Prop where
  probes : m₁.world.1 = m.world.1 ++ channels
  verdicts : ∀ c ∈ channels, ∃ v, Policy.judge? s c (outcome c.id) = some v ∧
    m₁.statusOf c.id = some (if statusFails c.id events then c.status else decided s c v)
  times : ∀ c ∈ channels, m₁.timeOf c.id =
    some (if timeFails s c.id events then c.responseTimeMs else keptMs (outcome c.id))

structure EndedAt (first : Channel) (m m₁ : Monitor (List Channel × σ)) : Prop where
  probes : m₁.world.1 = m.world.1 ++ [first]
  rows : ∀ id, m₁.store.table.find? id = m.store.table.find? id
  notices : m₁.notices = m.notices

section

variable (hbrings : Brings probe outcome) (hordered : m.store.table.Ordered)
include hbrings hordered

theorem Completes.wentThrough (hlist : m.store.table.list = .ok channels)
    (hcomplete : Completes s (logged probe) notifies m events m₁) (h : ¬ s.Overlong) :
    WentThrough s outcome channels events m m₁ := by
  have hreached : reached s (fun id => some (outcome id)) channels = channels :=
    reached_of_not_crashes fun c _ hcrash => h (crashes_outcome_iff.mp hcrash).1
  have hcourse := hcomplete.course hbrings.results hordered hlist
  have hjudged (c : Channel) : ∃ v, Policy.judge? s c (outcome c.id) = some v ∧
      judged? s c (some (outcome c.id)) = some (outcome c.id, v) := by
    obtain ⟨v, hv⟩ := Option.ne_none_iff_exists'.mp
      fun hnone => h (Policy.judge?_eq_none_iff_overlong (c := c) (r := outcome c.id).mp hnone).1
    exact ⟨v, hv, by rw [judged?, Option.bind_some, hv, Option.map_some]⟩
  refine ⟨hreached ▸ hcourse.probes, fun c hc => ?_, fun c hc => ?_⟩
  · obtain ⟨v, hv, hboth⟩ := hjudged c
    exact ⟨v, hv, hcourse.statuses c (hreached.symm ▸ hc) _ v hboth⟩
  · obtain ⟨v, -, hboth⟩ := hjudged c
    exact hcourse.times c (hreached.symm ▸ hc) _ v hboth

theorem Completes.endedAt {first : Channel} {rest : List Channel}
    (hlist : m.store.table.list = .ok (first :: rest))
    (hcomplete : Completes s (logged probe) notifies m events m₁) (h : s.Overlong)
    (hfirst : (outcome first.id).failure.any (Policy.shouldDisable s first.provider) = false) :
    EndedAt first m m₁ := by
  have hcrash : Crashes s (fun id => some (outcome id)) first := crashes_outcome_iff.mpr ⟨h, hfirst⟩
  have hreached : reached s (fun id => some (outcome id)) (first :: rest) = [first] := by
    rw [reached, if_pos hcrash]
  have hcourse := hcomplete.course hbrings.results hordered hlist
  refine ⟨hreached ▸ hcourse.probes, fun id => hcourse.rows id fun c hc _ => ?_, ?_⟩
  · rw [hreached] at hc
    exact List.mem_singleton.mp hc ▸ hcrash
  · obtain ⟨sent, hsent, hperm⟩ := hcourse.notices
    have hjudged : judged? s first (some (outcome first.id)) = none := hcrash
    rw [hreached, List.flatMap_singleton, hjudged,
      if_pos ⟨first, List.mem_cons_self, hcrash⟩] at hperm
    rw [hsent, List.perm_nil.mp hperm, List.append_nil]

end

/-- A result has no verdict exactly if its latency is to be compared with a threshold that is no
duration.  A batch goes through all its channels unless the settings have such a threshold, and with
one it ends at the first channel unless the failure of that test decides. -/
theorem judges_unless_overlong (s : HealthSettings) :
    (∀ (c : Channel) (r : TestResult), Policy.judge? s c r = none ↔
      s.Overlong ∧ r.failure.any (Policy.shouldDisable s c.provider) = false) ∧
    (¬ s.disableThresholdSecs > 0.0 → ∀ (c : Channel) (r : TestResult), Policy.judge? s c r =
      some ⟨r.failure.any (Policy.shouldDisable s c.provider), r.failure⟩) ∧
    ∀ (probe : Probe σ) (outcome : Int → TestResult) (notifies : Bool)
      (m : Monitor (List Channel × σ)) (channels : List Channel), Brings probe outcome →
      m.store.table.Ordered → m.store.table.list = .ok channels → m.Quiet → m.running = false →
      (∃ events m₁, Completes s (logged probe) notifies m events m₁ ∧
        ∀ event ∈ events, event.smooth) ∧
      ∀ events m₁, Completes s (logged probe) notifies m events m₁ →
        (¬ s.Overlong → WentThrough s outcome channels events m m₁) ∧
        (s.Overlong → ∀ first rest, channels = first :: rest →
          (outcome first.id).failure.any (Policy.shouldDisable s first.provider) = false →
          EndedAt first m m₁) := by
  refine ⟨fun c r => Policy.judge?_eq_none_iff_overlong, Policy.judge?_of_not_positive, ?_⟩
  intro probe outcome notifies m channels hbrings hordered hlist hquiet hrunning
  refine ⟨exists_completes hbrings.results.logged hquiet hrunning hlist notifies, ?_⟩
  intro events m₁ hcomplete
  refine ⟨Completes.wentThrough hbrings hordered hlist hcomplete, ?_⟩
  rintro hoverlong first rest rfl hfirst
  exact Completes.endedAt hbrings hordered hlist hcomplete hoverlong hfirst

def vast : HealthSettings := { disableThresholdSecs := 1e30 }

theorem overlong_vast : vast.Overlong :=
  HealthSettings.overlong_iff.mpr (by decide +kernel)

def swift (_ : Int) : TestResult := ⟨"", 1000, none⟩

theorem judges_unless_overlong_vast :
    Policy.judge? vast (plainChannel 1 .enabled) (swift 1) = none ∧
    Policy.judge? { disableThresholdSecs := -1.0 } (plainChannel 1 .enabled) (swift 1) =
      some ⟨false, none⟩ ∧
    (∃ events m₁, Completes vast (logged (fixed swift)) true
        (pool [plainChannel 1 .enabled, plainChannel 2 .enabled]) events m₁ ∧
      m₁.world.1 = [plainChannel 1 .enabled] ∧ m₁.notices = []) ∧
    ∃ events m₁, Completes {} (logged (fixed swift)) true
        (pool [plainChannel 1 .enabled, plainChannel 2 .enabled]) events m₁ ∧
      m₁.world.1 = [plainChannel 1 .enabled, plainChannel 2 .enabled] := by
  have hbrings := brings_fixed swift
  have hordered := ordered_pool_two .enabled .enabled
  have hlist := list_pool_two .enabled .enabled
  obtain ⟨hnone, -, hbatch⟩ := @judges_unless_overlong Unit vast
  obtain ⟨⟨events, m₁, hcomplete, -⟩, hends⟩ :=
    hbatch (fixed swift) swift true _ _ hbrings hordered hlist ⟨rfl, rfl⟩ rfl
  have hended := (hends events m₁ hcomplete).2 overlong_vast _ _ rfl rfl
  obtain ⟨-, hunchecked, -⟩ := @judges_unless_overlong Unit { disableThresholdSecs := -1.0 }
  obtain ⟨-, -, hbatch'⟩ := @judges_unless_overlong Unit {}
  obtain ⟨⟨events', m₁', hcomplete', -⟩, hgoes⟩ :=
    hbatch' (fixed swift) swift true _ _ hbrings hordered hlist ⟨rfl, rfl⟩ rfl
  have hdefault : ¬ ({} : HealthSettings).Overlong := fun h =>
    absurd (HealthSettings.overlong_iff.mp h).2 (by decide +kernel)
  exact ⟨(hnone _ _).mpr ⟨overlong_vast, rfl⟩, hunchecked (by decide +kernel) _ _,
    ⟨events, m₁, hcomplete, hended.probes, hended.notices⟩,
    ⟨events', m₁', hcomplete', ((hgoes events' m₁' hcomplete').1 hdefault).probes⟩⟩

/-- A file with such a threshold is accepted, and then a batch ends at the first of two channels
that answer at once. -/
theorem accepted_threshold_ends_batch :
    ∃ settings, Settings.ofToml
        (Utf8.encode "[health]\nchannel_disable_threshold_secs = 1e30\n") = .ok settings ∧
      Policy.judge? settings.health (plainChannel 1 .enabled) (swift 1) = none ∧
      ∃ events m₁, Completes settings.health (logged (fixed swift)) true
          (pool [plainChannel 1 .enabled, plainChannel 2 .enabled]) events m₁ ∧
        m₁.world.1 = [plainChannel 1 .enabled] := by
  have hbrings := brings_fixed swift
  have hordered := ordered_pool_two .enabled .enabled
  have hlist := list_pool_two .enabled .enabled
  obtain ⟨events, m₁, hcomplete, -⟩ :=
    exists_completes (s := vast) hbrings.results.logged ⟨rfl, rfl⟩ rfl hlist true
  have hended := Completes.endedAt hbrings hordered hlist hcomplete overlong_vast rfl
  exact ⟨{ health := vast }, by decide +kernel,
    Policy.judge?_eq_none_iff_overlong.mpr ⟨overlong_vast, rfl⟩, events, m₁, hcomplete, hended.probes⟩

end Monitor

end ModelGateway
