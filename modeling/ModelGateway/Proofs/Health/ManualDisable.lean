import ModelGateway.Proofs.Health.BatchEffect

/-!
# Manual disables and batches

A batch decides from the channels as they were when it began, and the jobs that it spawns write
whatever the status is by then.  So a channel that is disabled manually stays disabled exactly if no
job in flight may still move it.
-/

namespace ModelGateway.Monitor

variable {σ : Type} {s : HealthSettings} {probe : Probe σ} {id : Int} {events : List Event}
  {m m₁ : Monitor σ}

/-- An operator sets the channel to another status. -/
def Event.Overrules (id : Int) : Event → Prop
  | .order i status _ => i = id ∧ status ≠ .manuallyDisabled
  | _ => False

/-- A job that may still write a status for the channel, itself or by what it spawns. -/
def MayMove (s : HealthSettings) (id : Int) : Job → Prop
  | .disable i _ _ | .enable i _ => i = id
  | .testNext b => ∃ c ∈ b.rest, c.id = id ∧ Movable s c
  | .tested b c result =>
    ∃ r v, judged? s c result = some (r, v) ∧
      (c.id = id ∧ consequences s c v ≠ [] ∨ ∃ c ∈ b.rest, c.id = id ∧ Movable s c)
  | _ => False

/-! ## What keeps the order -/

structure Settled (s : HealthSettings) (id : Int) (m : Monitor σ) : Prop where
  ordered : m.store.table.Ordered
  disabled : m.statusOf id = some .manuallyDisabled
  still : ∀ job ∈ m.inFlight, ¬ MayMove s id job

theorem not_mayMove_of_started (hordered : m.store.table.Ordered)
    (hdisabled : m.statusOf id = some .manuallyDisabled) {notifies : Bool} {waiter : Option Nat}
    {job : Job} (hjob : job ∈ started m notifies waiter) : ¬ MayMove s id job := by
  unfold started at hjob
  split at hjob
  · next channels hrunning hlist =>
      obtain rfl := List.mem_singleton.mp hjob
      rintro ⟨c, hc, rfl, hmovable⟩
      have htable : m.store.table.list = .ok channels := by
        unfold ChannelStore.list at hlist
        split at hlist
        · contradiction
        · exact hlist
      obtain ⟨row, hrow, hread⟩ := hordered.find?_of_list htable hc
      rw [statusOf, hrow, Option.map_some, ← ChannelRow.status_of_channel? hread] at hdisabled
      exact not_movable_of_manuallyDisabled (Option.some.inj hdisabled) hmovable
  · contradiction

theorem not_mayMove_of_successor {b : Batch} {job : Job} (hjob : job ∈ successor b) :
    ¬ MayMove s id job := by
  obtain ⟨minutes, -, rfl⟩ : ∃ minutes, b.waiter = some minutes ∧ Job.await minutes = job := by
    simpa [successor] using hjob
  exact fun h => h

theorem mayMove_of_mem_consequences {c : Channel} {v : Verdict} {job : Job}
    (hjob : job ∈ consequences s c v) : MayMove s id job ↔ c.id = id := by
  rw [consequences_eq] at hjob
  split at hjob
  · contradiction
  · obtain rfl := List.mem_singleton.mp hjob
    unfold change
    split <;> exact .rfl

theorem not_mayMove_of_offspring (hordered : m.store.table.Ordered)
    (hdisabled : m.statusOf id = some .manuallyDisabled) {job child : Job}
    (hjob : ¬ MayMove s id job) (hchild : child ∈ offspring s probe m job) :
    ¬ MayMove s id child := by
  cases job with
  | disable i name reason => contradiction
  | enable i name => contradiction
  | recordTime i ms => contradiction
  | testNext b =>
      obtain ⟨rest, notifies, waiter⟩ := b
      cases rest with
      | nil => exact not_mayMove_of_successor hchild
      | cons c rest =>
          obtain rfl := List.mem_singleton.mp hchild
          rintro ⟨r, v, hjudged, ⟨hid, hmoves⟩ | ⟨c', hc', hid, hmovable⟩⟩
          · obtain ⟨-, hv⟩ := judge?_of_judged? hjudged
            exact hjob ⟨c, List.mem_cons_self, hid, movable_of_consequences hv hmoves⟩
          · exact hjob ⟨c', List.mem_cons_of_mem c hc', hid, hmovable⟩
  | tested b c result =>
      cases hjudged : judged? s c result with
      | none =>
          simp only [offspring, hjudged] at hchild
          exact not_mayMove_of_successor hchild
      | some judged =>
          obtain ⟨r, v⟩ := judged
          simp only [offspring, hjudged] at hchild
          rcases List.mem_cons.mp hchild with rfl | hmem
          · rintro ⟨c', hc', hid, hmovable⟩
            exact hjob ⟨r, v, hjudged, .inr ⟨c', hc', hid, hmovable⟩⟩
          · intro hmoves
            have hid := (mayMove_of_mem_consequences hmem).mp hmoves
            exact hjob ⟨r, v, hjudged, .inl ⟨hid, List.ne_nil_of_mem hmem⟩⟩
  | await minutes =>
      obtain rfl := List.mem_singleton.mp hchild
      exact fun h => h
  | trigger minutes =>
      cases hstarted : started m false (some minutes) with
      | nil =>
          simp only [offspring, hstarted] at hchild
          obtain rfl := List.mem_singleton.mp hchild
          exact fun h => h
      | cons first rest =>
          simp only [offspring, hstarted] at hchild
          rw [← hstarted] at hchild
          exact not_mayMove_of_started hordered hdisabled hchild

theorem statusWritten?_of_not_mayMove {job : Job} (h : ¬ MayMove s id job) :
    statusWritten? id job = none := by
  cases job <;> simp_all [MayMove, statusWritten?]

theorem statusOf_of_find? {now : Instant} {status? : Option (ChannelStatus × Option String)}
    {ms? : Option Int} (h : m₁.store.table.find? id =
      (m.store.table.find? id).map (written now status? ms?)) :
    m₁.statusOf id = (m.statusOf id).map fun status => (status?.map (·.1)).getD status := by
  unfold statusOf
  rw [h, Option.map_map, Option.map_map]
  congr 1
  funext row
  cases status? with
  | none => rfl
  | some written => exact ChannelStatus.ofNumber_number _

theorem Next.settled {event : Event} (h : Next s probe m event m₁) (hevent : ¬ event.Overrules id)
    (hsettled : Settled s id m) : Settled s id m₁ := by
  have hordered := h.ordered hsettled.ordered
  have hstatus := statusOf_of_find? (h.find? id)
  rw [hsettled.disabled, Option.map_some] at hstatus
  cases h with
  | @turn before after job outage hready =>
      have hperm : List.Perm _ (offspring s probe (m.under outage) job ++ m.inFlight) :=
        inFlight_turn hready outage
      have hjob : ¬ MayMove s id job := hsettled.still job (by simp [inFlight, hready])
      refine ⟨hordered, hstatus.trans ?_, fun other hother => ?_⟩
      · simp [Event.status?, statusWritten?_of_not_mayMove hjob]
      · rcases List.mem_append.mp (hperm.mem_iff.mp (List.mem_cons_of_mem job hother)) with
          hchild | hold
        · exact not_mayMove_of_offspring (m := m.under outage) hsettled.ordered
            hsettled.disabled hjob hchild
        · exact hsettled.still other hold
  | alarm htimers =>
      exact ⟨hordered, hstatus, fun job hjob =>
        hsettled.still job ((inFlight_ring htimers).mem_iff.mp hjob)⟩
  | start notifies outage =>
      refine ⟨hordered, hstatus, fun job hjob => ?_⟩
      have hperm := inFlight_start (m.under outage) notifies none
      rcases List.mem_append.mp (hperm.mem_iff.mp hjob) with hstarted | hold
      · exact not_mayMove_of_started (m := m.under outage) hsettled.ordered hsettled.disabled
          hstarted
      · exact hsettled.still job hold
  | order i status reason =>
      refine ⟨hordered, hstatus.trans ?_, hsettled.still⟩
      by_cases hid : i = id
      · have hsame : status = .manuallyDisabled := by
          by_contra hne
          exact hevent ⟨hid, hne⟩
        simp [Event.status?, hid, hsame]
      · simp [Event.status?, hid]

theorem Runs.settled (h : Runs s probe m events m₁) (hevents : ∀ event ∈ events, ¬ event.Overrules id)
    (hsettled : Settled s id m) : Settled s id m₁ := by
  induction h with
  | refl => exact hsettled
  | next first _ ih =>
      have hfirst := first.settled (hevents _ List.mem_cons_self) hsettled
      exact ih (fun event hevent => hevents event (List.mem_cons_of_mem _ hevent)) hfirst

/-! ## What undoes the order -/

/-- By itself, the monitor may come to a state where the channel is not disabled manually. -/
def CanLose (s : HealthSettings) (probe : Probe σ) (id : Int) (m : Monitor σ) : Prop :=
  ∃ events m₁, Runs s probe m events m₁ ∧ (∀ event ∈ events, event.isOwn) ∧
    m₁.statusOf id ≠ some .manuallyDisabled

theorem CanLose.of_runs (hruns : Runs s probe m events m₁) (hown : ∀ event ∈ events, event.isOwn)
    (h : CanLose s probe id m₁) : CanLose s probe id m := by
  obtain ⟨events', m₂, hrest, hown', hlost⟩ := h
  refine ⟨events ++ events', m₂, hruns.trans hrest, fun event hevent => ?_, hlost⟩
  rcases List.mem_append.mp hevent with hfirst | hsecond
  · exact hown event hfirst
  · exact hown' event hsecond

theorem exists_turn (s : HealthSettings) (probe : Probe σ) (id : Int) {job : Job}
    (hjob : job ∈ m.inFlight) :
    ∃ m' events m₁, Runs s probe m events m₁ ∧ (∀ event ∈ events, event.isOwn) ∧
      (∀ child ∈ offspring s probe m' job, child ∈ m₁.inFlight) ∧
      m₁.statusOf id = (m.statusOf id).map fun status =>
        ((statusWritten? id job).map (·.1)).getD status := by
  obtain ⟨events, m', m₁, hruns, halarms, hstore, hturn⟩ := exists_next_turn s probe hjob
  refine ⟨m'.under {}, _, m₁, hruns.trans (.next hturn (.refl m₁)), ?_,
    fun child hchild => hturn.mem_inFlight_of_offspring hchild, ?_⟩
  · refine List.forall_mem_append.mpr ⟨fun event hevent => ?_, List.forall_mem_singleton.mpr rfl⟩
    obtain ⟨timer, rfl⟩ := halarms event hevent
    rfl
  · rw [statusOf_of_find? (hturn.find? id), statusOf, statusOf, hstore]
    rfl

theorem canLose_of_written {job : Job} {status : ChannelStatus} {reason : Option String}
    (hjob : job ∈ m.inFlight) (hknown : (m.statusOf id).isSome)
    (hwrites : statusWritten? id job = some (status, reason)) (hstatus : status ≠ .manuallyDisabled) :
    CanLose s probe id m := by
  obtain ⟨old, hold⟩ := Option.isSome_iff_exists.mp hknown
  obtain ⟨m', events, m₁, hruns, hown, -, hnew⟩ := exists_turn s probe id hjob
  refine ⟨events, m₁, hruns, hown, ?_⟩
  rw [hnew, hold, hwrites]
  exact fun h => hstatus (Option.some.inj h)

theorem statusWritten?_of_mem_consequences {c : Channel} {v : Verdict} {job : Job}
    (hjob : job ∈ consequences s c v) :
    ∃ status reason, statusWritten? c.id job = some (status, reason) ∧
      status ≠ .manuallyDisabled := by
  rw [consequences_eq] at hjob
  split at hjob
  · contradiction
  · obtain rfl := List.mem_singleton.mp hjob
    unfold change
    split
    · exact ⟨_, _, if_pos rfl, by decide⟩
    · exact ⟨_, _, if_pos rfl, by decide⟩

def provoking (s : HealthSettings) : Probe σ := fun c _ _ world =>
  (⟨0, some (moving s c)⟩, world)

theorem exists_offspring (s : HealthSettings) (probe : Probe σ) {job : Job}
    (hjob : job ∈ m.inFlight) (hknown : (m.statusOf id).isSome) :
    ∃ m' events m₁, Runs s probe m events m₁ ∧ (∀ event ∈ events, event.isOwn) ∧
      (∀ child ∈ offspring s probe m' job, child ∈ m₁.inFlight) ∧ (m₁.statusOf id).isSome := by
  obtain ⟨m', events, m₁, hruns, hown, hchildren, hnew⟩ := exists_turn s probe id hjob
  exact ⟨m', events, m₁, hruns, hown, hchildren, by rw [hnew, Option.isSome_map]; exact hknown⟩

theorem canLose_of_tested {b : Batch} {c : Channel} {result : Option TestResult} {r : TestResult}
    {v : Verdict} (hjob : .tested b c result ∈ m.inFlight) (hknown : (m.statusOf c.id).isSome)
    (hjudged : judged? s c result = some (r, v)) (hmoves : consequences s c v ≠ []) :
    CanLose s probe c.id m := by
  obtain ⟨child, hchild⟩ := List.exists_mem_of_ne_nil _ hmoves
  obtain ⟨status, reason, hwrites, hstatus⟩ := statusWritten?_of_mem_consequences hchild
  obtain ⟨m', events, m₁, hruns, hown, hchildren, hknown₁⟩ := exists_offspring s probe hjob hknown
  refine .of_runs hruns hown (canLose_of_written (hchildren child ?_) hknown₁ hwrites hstatus)
  simp only [offspring, hjudged]
  exact List.mem_cons_of_mem _ hchild

theorem canLose_of_testNext {rest : List Channel} {notifies : Bool} {waiter : Option Nat}
    (hjob : .testNext ⟨rest, notifies, waiter⟩ ∈ m.inFlight) (hknown : (m.statusOf id).isSome)
    {c : Channel} (hc : c ∈ rest) (hid : c.id = id) (hmovable : Movable s c) :
    CanLose s (provoking s) id m := by
  -- The batch tests the channels before it first, each of them with a result of its own.
  induction rest generalizing m with
  | nil => contradiction
  | cons first rest ih =>
      obtain ⟨v, hv, hmoves⟩ := judge?_moving s first
      have hjudged : judged? s first (some (moving s first)) = some (moving s first, v) := by
        simp [judged?, hv]
      obtain ⟨m', events, m₁, hruns, hown, hchildren, hknown₁⟩ :=
        exists_offspring s (provoking s) hjob hknown
      have htested : .tested ⟨rest, notifies, waiter⟩ first (some (moving s first)) ∈
          m₁.inFlight := hchildren _ (List.mem_singleton_self _)
      refine .of_runs hruns hown ?_
      rcases List.mem_cons.mp hc with rfl | hmem
      · subst hid
        exact canLose_of_tested htested hknown₁ hjudged (hmoves hmovable)
      · obtain ⟨m'', events', m₂, hruns', hown', hchildren', hknown₂⟩ :=
          exists_offspring s (provoking s) htested hknown₁
        refine .of_runs hruns' hown' (ih (hchildren' _ ?_) hknown₂ hmem)
        simp only [offspring, hjudged]
        exact List.mem_cons_self

theorem canLose_of_mayMove {job : Job} (hjob : job ∈ m.inFlight)
    (hknown : (m.statusOf id).isSome) (hmay : MayMove s id job) :
    CanLose s (provoking s) id m := by
  cases job with
  | disable i name reason =>
      obtain rfl : i = id := hmay
      exact canLose_of_written hjob hknown (if_pos rfl) (by decide)
  | enable i name =>
      obtain rfl : i = id := hmay
      exact canLose_of_written hjob hknown (if_pos rfl) (by decide)
  | testNext b =>
      obtain ⟨c, hc, hid, hmovable⟩ := hmay
      exact canLose_of_testNext hjob hknown hc hid hmovable
  | tested b c result =>
      obtain ⟨r, v, hjudged, ⟨rfl, hmoves⟩ | ⟨c', hc', hid, hmovable⟩⟩ := hmay
      · exact canLose_of_tested hjob hknown hjudged hmoves
      · obtain ⟨m', events, m₁, hruns, hown, hchildren, hknown₁⟩ :=
          exists_offspring s (provoking s) hjob hknown
        refine .of_runs hruns hown ?_
        refine canLose_of_testNext (hchildren (.testNext b) ?_) hknown₁ hc' hid hmovable
        simp only [offspring, hjudged]
        exact List.mem_cons_self
  | recordTime i ms => exact hmay.elim
  | await minutes => exact hmay.elim
  | trigger minutes => exact hmay.elim

theorem Event.not_overrules_of_isOwn {event : Event} (h : event.isOwn) : ¬ event.Overrules id := by
  cases event <;> simp_all [Event.isOwn, Event.Overrules]

/-- A manually disabled channel stays so until an operator sets another status, whatever batches are
started and whatever probes bring, exactly if no job in flight may move it. -/
theorem manuallyDisabled_stays_iff (hordered : m.store.table.Ordered)
    (hdisabled : m.statusOf id = some .manuallyDisabled) :
    (∀ (probe : Probe σ) events m₁, Runs s probe m events m₁ →
      (∀ event ∈ events, ¬ event.Overrules id) → m₁.statusOf id = some .manuallyDisabled) ↔
      ∀ job ∈ m.inFlight, ¬ MayMove s id job := by
  constructor
  · intro hstays job hjob hmay
    have hknown : (m.statusOf id).isSome := by simp [hdisabled]
    obtain ⟨events, m₁, hruns, hown, hlost⟩ := canLose_of_mayMove hjob hknown hmay
    exact hlost (hstays (provoking s) events m₁ hruns fun event hevent =>
      Event.not_overrules_of_isOwn (hown event hevent))
  · intro hstill probe events m₁ hruns hevents
    exact (hruns.settled hevents ⟨hordered, hdisabled, hstill⟩).disabled

def listed : Monitor (List Channel × Unit) :=
  ((pool [plainChannel 1 .enabled]).start false none).2

theorem manuallyDisabled_stays_iff_one_channel :
    (∀ (probe : Probe (List Channel × Unit)) events m₁,
      Runs {} probe (pool [plainChannel 1 .manuallyDisabled]) events m₁ →
      (∀ event ∈ events, ¬ event.Overrules 1) → m₁.statusOf 1 = some .manuallyDisabled) ∧
    ¬ (∀ (probe : Probe (List Channel × Unit)) events m₁,
      Runs {} probe (listed.order 1 .manuallyDisabled none) events m₁ →
      (∀ event ∈ events, ¬ event.Overrules 1) → m₁.statusOf 1 = some .manuallyDisabled) := by
  constructor
  · have hordered : (pool [plainChannel 1 .manuallyDisabled]).store.table.Ordered :=
      List.pairwise_singleton _ _
    refine (manuallyDisabled_stays_iff hordered rfl).mpr fun job hjob => ?_
    simp [inFlight, pool] at hjob
  · intro hstays
    have hordered : (listed.order 1 .manuallyDisabled none).store.table.Ordered :=
      List.pairwise_singleton _ _
    refine (manuallyDisabled_stays_iff hordered rfl).mp hstays
      (.testNext ⟨[plainChannel 1 .enabled], false, none⟩) ?_ ?_
    · decide +kernel
    · exact ⟨_, List.mem_singleton_self _, rfl, .inl ⟨rfl, rfl, rfl⟩⟩

def slow : Probe (List Channel × Unit) := fun _ _ _ world =>
  (⟨1000, some ⟨"", 6000000000, none⟩⟩, world)

/-- An operator disables a channel during its test, and the batch overwrites the status. -/
theorem manual_disable_lost :
    ∃ events m₁ events' m₂,
      Runs {} slow (pool [plainChannel 1 .enabled]) events m₁ ∧
      Runs {} slow (m₁.order 1 .manuallyDisabled none) events' m₂ ∧
      (∀ event ∈ events', event.isOwn) ∧ m₂.statusOf 1 = some .autoDisabled := by
  obtain ⟨events, hruns, -⟩ := exists_runs_settle {} slow listed
  have htimers : ((listed.settle {} slow).order 1 .manuallyDisabled none).timers =
      [] ++ ⟨1000, .tested ⟨[], false, none⟩ (plainChannel 1 .enabled)
        (some ⟨"", 6000000000, none⟩)⟩ :: [] := by decide +kernel
  obtain ⟨events', hruns', hown'⟩ := exists_runs_settle {} slow
    (((listed.settle {} slow).order 1 .manuallyDisabled none).ring _ [])
  refine ⟨_, listed.settle {} slow, _, _, .next (.start _ false {}) hruns,
    .next (.alarm htimers) hruns', List.forall_mem_cons.mpr ⟨rfl, hown'⟩, ?_⟩
  decide +kernel

end ModelGateway.Monitor
