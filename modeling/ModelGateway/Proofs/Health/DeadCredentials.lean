import ModelGateway.Proofs.Health.BatchEffect
import ModelGateway.Proofs.Health.TestRequests
import ModelGateway.Proofs.Relay.Faults

/-!
# Refused credentials

A provider that refuses a key answers with a status that is configured to disable channels.  The
status becomes the failure of the test and then the verdict, which orders the channel to be
disabled; the order waits for its turn, and with its turn the channel is disabled.
-/

namespace ModelGateway

namespace Policy

variable {s : HealthSettings} {f : RelayFailure}

theorem shouldDisable_of_status (hdisable : s.automaticDisable = true) {status : Nat}
    (hstatus : f.status = some status) (hcode : status ∈ s.disableStatusCodes)
    (provider : Provider) : shouldDisable s provider f = true := by
  have hbans : hasBanningStatus s provider f = true := by simp [hasBanningStatus, hstatus, hcode]
  simp [shouldDisable, hdisable, hbans]

theorem judge?_of_shouldDisable {c : Channel} (h : shouldDisable s c.provider f = true)
    (model : String) (elapsedNanos : Nat) :
    judge? s c ⟨model, elapsedNanos, some f⟩ = some ⟨true, some f⟩ :=
  if_pos h

end Policy

theorem Tester.result_of_status {σ : Type} {s : Settings} {network : Network σ}
    {elapsedNanos : Nat} {channel : Channel} {requested : Option String} {kind : TestKind}
    {w : RelayState σ} {o : Order} {r : HttpResponse}
    (horder : order s channel (TestRequest.modelFor channel requested) kind = .ok o)
    (hanswer : (o.answered s network w).2 = .ok r) (hstatus : r.status ≠ 200) :
    (probe s network elapsedNanos channel requested kind w).1.result =
      some ⟨TestRequest.modelFor channel requested, elapsedNanos,
        some (Relay.statusFailure r)⟩ := by
  have hfails : (o.relayed s network w).outcome = .error (.failed (Relay.statusFailure r)) := by
    rw [Order.relayed_eq, hanswer, Relay.finish_of_status hstatus]
    rfl
  rw [probe_of_order horder]
  change (failure? (o.relayed s network w).outcome).map _ = _
  rw [hfails]
  rfl

namespace Monitor

variable {σ : Type} {s : HealthSettings} {probe : Probe σ} {c : Channel} {f : RelayFailure}
  {result : TestResult} {b : Batch} {m m₁ : Monitor σ}

def reasonOf (m : Monitor σ) (id : Int) : Option String :=
  (m.store.table.find? id).bind (·.reason)

/-- The channel is disabled automatically for the given reason. -/
def IsOut (m : Monitor σ) (id : Int) (reason : String) : Prop :=
  m.statusOf id = some .autoDisabled ∧ m.reasonOf id = some reason

def dismissal (c : Channel) (f : RelayFailure) : Job :=
  .disable c.id c.name f.message

theorem dismissal_mem_offspring (henabled : c.status = .enabled) (hban : c.autoBan = true)
    (hverdict : Policy.judge? s c result = some ⟨true, some f⟩) (m : Monitor σ) :
    dismissal c f ∈ offspring s probe m (.tested b c (some result)) := by
  have hjudged : judged? s c (some result) = some (result, ⟨true, some f⟩) := by
    simp [judged?, hverdict]
  have hasked : dismissal c f ∈ consequences s c ⟨true, some f⟩ := by
    simp [consequences, Channel.isEnabled, henabled, hban, dismissal]
  simp only [offspring, hjudged]
  exact List.mem_cons_of_mem _ hasked

/-- With its turn the order takes the channel out, and no other write brings it back. -/
theorem Runs.isOut {before after : List Event} {outage : Outage}
    (h : Runs s probe m (before ++ .turn (dismissal c f) outage :: after) m₁)
    (hworks : outage.status = false) (hnone : ∀ event ∈ after, event.status? c.id = none)
    (hknown : m.Knows c.id) : m₁.IsOut c.id f.message := by
  obtain ⟨row, hrow⟩ := Option.isSome_iff_exists.mp hknown
  obtain ⟨now, hfind⟩ := h.find? c.id
  have hwritten : Event.status? c.id (.turn (dismissal c f) outage) =
      some (.autoDisabled, some f.message) := by
    simp [Event.status?, hworks, dismissal, statusWritten?]
  have hlatest : latest (·.status? c.id) (before ++ .turn (dismissal c f) outage :: after) =
      some (.autoDisabled, some f.message) := by
    rw [latest, List.filterMap_append, List.filterMap_cons_some hwritten,
      List.filterMap_eq_nil_iff.mpr hnone, List.getLast?_concat]
  rw [hrow, Option.map_some, hlatest] at hfind
  constructor
  · rw [statusOf, hfind]
    exact congrArg some (ChannelStatus.ofNumber_number .autoDisabled)
  · rw [reasonOf, hfind]
    rfl

/-- A failed test leads to the disabling of the channel. -/
structure Condemned (s : HealthSettings) (probe : Probe σ) (b : Batch) (c : Channel)
    (result : TestResult) (f : RelayFailure) (m : Monitor σ) : Prop where
  awaits : ∀ events m₁, Runs s probe m events m₁ →
    (.tested b c (some result) ∈ m₁.inFlight ∨ dismissal c f ∈ m₁.inFlight) ∨
      ∃ outage, .turn (dismissal c f) outage ∈ events
  comes : ∀ events m₁, Runs s probe m events m₁ →
    (∃ outage, .turn (dismissal c f) outage ∈ events) ∨
      ∃ events' m₂, Runs s probe m₁ events' m₂ ∧ (∀ event ∈ events', event.smooth) ∧
        m₂.IsOut c.id f.message
  obeyed : ∀ before outage after m₁,
    Runs s probe m (before ++ .turn (dismissal c f) outage :: after) m₁ → outage.status = false →
    (∀ event ∈ after, event.status? c.id = none) → m₁.IsOut c.id f.message

theorem exists_turn_smooth (s : HealthSettings) (probe : Probe σ) {job : Job}
    (hjob : job ∈ m.inFlight) :
    ∃ events m₁, Runs s probe m (events ++ [.turn job {}]) m₁ ∧
      (∀ event ∈ events ++ [.turn job {}], event.smooth) ∧
      ∀ child, (∀ m : Monitor σ, child ∈ offspring s probe m job) → child ∈ m₁.inFlight := by
  obtain ⟨events, m', m₁, hruns, halarms, -, hturn⟩ := exists_next_turn s probe hjob
  refine ⟨events, m₁, hruns.trans (.next hturn (.refl m₁)), ?_, fun child hchild =>
    hturn.mem_inFlight_of_offspring (hchild _)⟩
  refine List.forall_mem_append.mpr ⟨fun event hevent => ?_, List.forall_mem_singleton.mpr rfl⟩
  obtain ⟨timer, rfl⟩ := halarms event hevent
  rfl

theorem exists_runs_isOut (s : HealthSettings) (probe : Probe σ) (hknown : m.Knows c.id)
    (horder : dismissal c f ∈ m.inFlight) :
    ∃ events m₁, Runs s probe m events m₁ ∧ (∀ event ∈ events, event.smooth) ∧
      m₁.IsOut c.id f.message := by
  obtain ⟨events, m₁, hruns, hsmooth, -⟩ := exists_turn_smooth s probe horder
  exact ⟨_, m₁, hruns, hsmooth, hruns.isOut rfl (List.forall_mem_nil _) hknown⟩

theorem condemned_of_tested (henabled : c.status = .enabled) (hban : c.autoBan = true)
    (hverdict : Policy.judge? s c result = some ⟨true, some f⟩) (hknown : m.Knows c.id)
    (hjob : .tested b c (some result) ∈ m.inFlight) : Condemned s probe b c result f m := by
  have hasked : ∀ m : Monitor σ,
      dismissal c f ∈ offspring s probe m (.tested b c (some result)) :=
    dismissal_mem_offspring henabled hban hverdict
  have hknows : ∀ {events m₁}, Runs s probe m events m₁ → m₁.Knows c.id := fun hruns =>
    (hruns.isSome_find? c.id).trans hknown
  refine {
    awaits := fun events m₁ hruns => hruns.mem_inFlight_or_turn_child hjob hasked
    comes := fun events m₁ hruns => ?_
    obeyed := fun before outage after m₁ hruns hworks hnone => hruns.isOut hworks hnone hknown }
  -- At most two turns are left: that of the judgement, and then that of the order.
  rcases hruns.mem_inFlight_or_turn_child hjob hasked with (htested | horder) | hturned
  · obtain ⟨before, m₂, hbefore, hsmooth, hleft⟩ := exists_turn_smooth s probe htested
    obtain ⟨after, m₃, hafter, hsmooth', hout⟩ :=
      exists_runs_isOut s probe (hknows (hruns.trans hbefore)) (hleft _ hasked)
    exact .inr ⟨_, m₃, hbefore.trans hafter, List.forall_mem_append.mpr ⟨hsmooth, hsmooth'⟩, hout⟩
  · exact .inr (exists_runs_isOut s probe (hknows hruns) horder)
  · exact .inl hturned

/-- If the test of an enabled channel with automatic ban is answered with one of the configured
statuses, it fails with that status whatever the body is, the verdict is a ban however long the test
took, and the channel is disabled with the message as the reason. -/
theorem condemned_of_status {settings : Settings} {network : Network σ} {elapsedNanos : Nat}
    {o : Order} {r : HttpResponse} {m : Monitor (RelayState σ)}
    (hdisable : settings.health.automaticDisable = true)
    (hcode : r.status ∈ settings.health.disableStatusCodes) (hstatus : r.status ≠ 200)
    (henabled : c.status = .enabled) (hban : c.autoBan = true) (hknown : m.Knows c.id)
    (horder : Tester.order settings c (TestRequest.modelFor c none) .text = .ok o)
    (hanswer : (o.answered settings network m.world).2 = .ok r) :
    let probe := Tester.probe settings network elapsedNanos
    let model := TestRequest.modelFor c none
    ∃ f, f.kind = .badResponseStatus ∧ f.status = some r.status ∧
      (probe c none .text m.world).1.result = some ⟨model, elapsedNanos, some f⟩ ∧
      (∀ nanos, Policy.judge? settings.health c ⟨model, nanos, some f⟩ = some ⟨true, some f⟩) ∧
      ∀ rest notifies waiter outage m₁,
        Next settings.health probe m (.turn (.testNext ⟨c :: rest, notifies, waiter⟩) outage) m₁ →
        Condemned settings.health probe ⟨rest, notifies, waiter⟩ c ⟨model, elapsedNanos, some f⟩ f
          m₁ := by
  intro probe model
  obtain ⟨hkind, hkept⟩ := Relay.statusFailure_keeps r
  have hresult : (probe c none .text m.world).1.result =
      some ⟨model, elapsedNanos, some (Relay.statusFailure r)⟩ :=
    Tester.result_of_status horder hanswer hstatus
  have hverdict := Policy.judge?_of_shouldDisable
    (Policy.shouldDisable_of_status hdisable hkept hcode c.provider) model
  refine ⟨_, hkind, hkept, hresult, hverdict, ?_⟩
  intro rest notifies waiter outage m₁ hturn
  have htested : .tested ⟨rest, notifies, waiter⟩ c
      (some ⟨model, elapsedNanos, some (Relay.statusFailure r)⟩) ∈ m₁.inFlight := by
    refine hturn.mem_inFlight_of_offspring ?_
    rw [← hresult]
    exact List.mem_singleton_self _
  refine condemned_of_tested henabled hban (hverdict elapsedNanos) ?_ htested
  rw [hturn.knows]
  exact hknown

def refusing : Network Unit := fun _ => pure (.response ⟨401, none, ⟨[], true⟩⟩)

def testing (c : Channel) : Monitor (RelayState Unit) where
  store := { table := ⟨[.ofChannel c]⟩ }
  running := true
  ready := [.testNext ⟨[c], false, none⟩]
  world := ⟨(), {}, {}, ⟨0, 0⟩⟩

theorem condemned_of_status_refused :
    let c := { plainChannel 1 .enabled with key := "k", models := "gpt-4o-mini" }
    let probe := Tester.probe {} refusing 0
    ∃ f m₁, f.status = some 401 ∧
      Next {} probe (testing c) (.turn (.testNext ⟨[c], false, none⟩) {}) m₁ ∧
      Condemned {} probe ⟨[], false, none⟩ c ⟨"gpt-4o-mini", 0, some f⟩ f m₁ := by
  intro c probe
  have hmodel : TestRequest.modelFor c none = "gpt-4o-mini" := by decide +kernel
  have hsent : (Tester.order {} c (TestRequest.modelFor c none) .text).toOption.any (fun o =>
      decide ((o.answered {} refusing (testing c).world).2 =
        .ok ⟨401, none, ⟨[], true⟩⟩)) = true := by decide +kernel
  cases horder : Tester.order {} c (TestRequest.modelFor c none) .text with
  | error f => simp [horder, Except.toOption] at hsent
  | ok o =>
      rw [horder] at hsent
      have hknown : (testing c).Knows c.id := by decide +kernel
      obtain ⟨f, -, hstatus, -, -, hcondemned⟩ :=
        @condemned_of_status Unit c {} refusing 0 o _ (testing c) rfl (by decide) (by decide) rfl
          rfl hknown horder (of_decide_eq_true hsent)
      rw [hmodel] at hcondemned
      have hturn : Next {} probe (testing c) (.turn (.testNext ⟨[c], false, none⟩) {}) _ :=
        @Next.turn _ {} probe (testing c) [] [] _ {} rfl
      exact ⟨f, _, hstatus, hturn, hcondemned _ _ _ _ _ hturn⟩

end Monitor

end ModelGateway
