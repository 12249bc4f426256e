import ModelGateway.Health.Clock
import ModelGateway.Proofs.Channel.Rows

/-!
# Runs of a monitor

What happens to a monitor is a list of events.  Any job that is ready may have the next turn, with
any operations of the store out of order; any timer may go off; a batch may be started and an
operator may set a status at any time.  The order in which the clock runs the jobs is one of these
runs.
-/

namespace ModelGateway.Monitor

inductive Event where
  /-- A job has its turn while some operations of the store are out of order. -/
  | turn (job : Job) (outage : Outage)
  | alarm (timer : Timer)
  | start (notifies : Bool) (outage : Outage)
  | order (id : Int) (status : ChannelStatus) (reason : Option String)
  deriving DecidableEq, Repr

def Event.isOwn : Event → Bool
  | .turn _ _ | .alarm _ => true
  | _ => false

variable {σ : Type}

def under (m : Monitor σ) (outage : Outage) : Monitor σ :=
  { m with store := { m.store with outage } }

def order (m : Monitor σ) (id : Int) (status : ChannelStatus) (reason : Option String) :
    Monitor σ :=
  { m with store := { m.store with table := (m.store.table.setStatus id status reason).2 } }

def ring (m : Monitor σ) (timer : Timer) (others : List Timer) : Monitor σ :=
  { m with
    clock := max m.clock timer.due
    ready := m.ready ++ [timer.job]
    timers := others }

inductive Next (s : HealthSettings) (probe : Probe σ) : Monitor σ → Event → Monitor σ → Prop
  | turn {m : Monitor σ} {before after : List Job} {job : Job} (outage : Outage)
      (hready : m.ready = before ++ job :: after) :
      Next s probe m (.turn job outage)
        (runJob s probe ({ m with ready := before ++ after }.under outage) job)
  | alarm {m : Monitor σ} {before after : List Timer} {timer : Timer}
      (htimers : m.timers = before ++ timer :: after) :
      Next s probe m (.alarm timer) (m.ring timer (before ++ after))
  | start (m : Monitor σ) (notifies : Bool) (outage : Outage) :
      Next s probe m (.start notifies outage) ((m.under outage).start notifies none).2
  | order (m : Monitor σ) (id : Int) (status : ChannelStatus) (reason : Option String) :
      Next s probe m (.order id status reason) (m.order id status reason)

inductive Runs (s : HealthSettings) (probe : Probe σ) :
    Monitor σ → List Event → Monitor σ → Prop
  | refl (m : Monitor σ) : Runs s probe m [] m
  | next {m m₁ m₂ : Monitor σ} {event : Event} {events : List Event}
      (first : Next s probe m event m₁) (rest : Runs s probe m₁ events m₂) :
      Runs s probe m (event :: events) m₂

variable {s : HealthSettings} {probe : Probe σ} {m m₁ m₂ : Monitor σ}

theorem Runs.trans {events events' : List Event} (first : Runs s probe m events m₁)
    (rest : Runs s probe m₁ events' m₂) : Runs s probe m (events ++ events') m₂ := by
  induction first with
  | refl => exact rest
  | next step _ ih => exact .next step (ih rest)

theorem next_of_step? (h : m.step? s probe = some m₁) :
    ∃ job, Next s probe m (.turn job m.store.outage) m₁ := by
  obtain ⟨store, running, ready, timers, clock, notices, world⟩ := m
  cases ready with
  | nil => simp [step?] at h
  | cons job rest =>
      obtain rfl := Option.some.inj h
      exact ⟨job, @Next.turn σ s probe ⟨store, running, job :: rest, timers, clock, notices, world⟩
        [] rest job store.outage rfl⟩

theorem exists_runs_runSteps (s : HealthSettings) (probe : Probe σ) (steps : Nat)
    (m : Monitor σ) :
    ∃ events, Runs s probe m events (runSteps s probe steps m) ∧
      ∀ event ∈ events, event.isOwn := by
  induction steps generalizing m with
  | zero => exact ⟨[], .refl m, by simp⟩
  | succ steps ih =>
      cases h : m.step? s probe with
      | none =>
          rw [runSteps, h]
          exact ⟨[], .refl m, by simp⟩
      | some m₁ =>
          obtain ⟨job, hnext⟩ := next_of_step? h
          obtain ⟨events, hruns, hown⟩ := ih m₁
          rw [runSteps, h]
          exact ⟨_, .next hnext hruns, List.forall_mem_cons.mpr ⟨rfl, hown⟩⟩

theorem exists_runs_settle (s : HealthSettings) (probe : Probe σ) (m : Monitor σ) :
    ∃ events, Runs s probe m events (m.settle s probe) ∧ ∀ event ∈ events, event.isOwn :=
  exists_runs_runSteps s probe _ m

/-! ## Jobs in flight -/

/-- The jobs that are ready or wait for a timer. -/
def inFlight (m : Monitor σ) : List Job :=
  m.ready ++ m.timers.map (·.job)

def Quiet (m : Monitor σ) : Prop :=
  m.ready = [] ∧ m.timers = []

theorem Quiet.inFlight (h : m.Quiet) : m.inFlight = [] := by
  simp [Monitor.inFlight, h.1, h.2]

theorem inFlight_spawn (m : Monitor σ) (job : Job) :
    (m.spawn job).inFlight.Perm (job :: m.inFlight) := by
  simp only [inFlight, spawn, List.append_assoc]
  exact List.perm_middle

theorem inFlight_after (m : Monitor σ) (ms : Nat) (job : Job) :
    (m.after ms job).inFlight.Perm (job :: m.inFlight) := by
  unfold after
  split
  · exact .rfl
  · simp only [inFlight, List.map_append, List.map_cons, List.map_nil, ← List.append_assoc]
    exact List.perm_append_singleton _ _

theorem inFlight_ring {before after : List Timer} {timer : Timer}
    (h : m.timers = before ++ timer :: after) :
    (m.ring timer (before ++ after)).inFlight.Perm m.inFlight := by
  simp only [inFlight, ring, h, List.map_append, List.map_cons, List.append_assoc,
    List.singleton_append]
  exact List.perm_middle.symm.append_left _

def successor (b : Batch) : List Job :=
  (b.waiter.map Job.await).toList

theorem inFlight_finish (m : Monitor σ) (b : Batch) (completed : Bool) :
    (m.finish b completed).inFlight.Perm (successor b ++ m.inFlight) := by
  have htold : (if completed && b.notifies then m.release.notify .allTested
      else m.release).inFlight = m.inFlight := by
    split <;> rfl
  unfold finish successor
  cases b.waiter with
  | none => exact .of_eq htold
  | some minutes => exact htold ▸ inFlight_spawn _ (.await minutes)

theorem foldl_spawn (jobs : List Job) (m : Monitor σ) :
    jobs.foldl spawn m = { m with ready := m.ready ++ jobs } := by
  induction jobs generalizing m with
  | nil => simp
  | cons job rest ih => simp [ih, spawn]

theorem inFlight_runDisable (m : Monitor σ) (id : Int) (name reason : String) :
    (m.runDisable id name reason).inFlight = m.inFlight := by
  unfold runDisable
  split <;> rfl

theorem inFlight_runEnable (m : Monitor σ) (id : Int) (name : String) :
    (m.runEnable id name).inFlight = m.inFlight := by
  unfold runEnable
  split <;> rfl

def started (m : Monitor σ) (notifies : Bool) (waiter : Option Nat) : List Job :=
  match m.running, m.store.list with
  | false, .ok channels => [.testNext ⟨channels, notifies, waiter⟩]
  | _, _ => []

theorem start_of_running (h : m.running = true) (notifies : Bool) (waiter : Option Nat) :
    m.start notifies waiter = (.error .batchRunning, m) := by
  simp [start, acquire?, h]

theorem start_of_list_error (h : m.running = false) {e : GatewayError}
    (hlist : m.store.list = .error e) (notifies : Bool) (waiter : Option Nat) :
    m.start notifies waiter = (.error e, m) := by
  obtain ⟨store, running, ready, timers, clock, notices, world⟩ := m
  obtain rfl : running = false := h
  simp only [start, acquire?, launch, release, Bool.false_eq_true, if_false]
  rw [hlist]

theorem start_of_list (h : m.running = false) {channels : List Channel}
    (hlist : m.store.list = .ok channels) (notifies : Bool) (waiter : Option Nat) :
    m.start notifies waiter =
      (.ok (), { m with running := true }.spawn (.testNext ⟨channels, notifies, waiter⟩)) := by
  simp only [start, acquire?, launch, h, Bool.false_eq_true, if_false]
  rw [hlist]

theorem inFlight_start (m : Monitor σ) (notifies : Bool) (waiter : Option Nat) :
    (m.start notifies waiter).2.inFlight.Perm (started m notifies waiter ++ m.inFlight) := by
  cases hrunning : m.running with
  | true => simp [start_of_running hrunning, started, hrunning]
  | false =>
      cases hlist : m.store.list with
      | error e => simp [start_of_list_error hrunning hlist, started, hrunning, hlist]
      | ok channels =>
          rw [start_of_list hrunning hlist]
          simp only [started, hrunning, hlist]
          exact inFlight_spawn { m with running := true } _

/-- A result with the verdict on it; none if there is no result or no verdict. -/
def judged? (s : HealthSettings) (c : Channel) (result : Option TestResult) :
    Option (TestResult × Verdict) :=
  result.bind fun r => (Policy.judge? s c r).map (r, ·)

theorem judge?_of_judged? {c : Channel} {result : Option TestResult} {r : TestResult} {v : Verdict}
    (h : judged? s c result = some (r, v)) : result = some r ∧ Policy.judge? s c r = some v := by
  obtain ⟨r', hresult, hjudged⟩ := Option.bind_eq_some_iff.mp h
  obtain ⟨v', hv, hpair⟩ := Option.map_eq_some_iff.mp hjudged
  obtain ⟨rfl, rfl⟩ := Prod.mk.inj hpair
  exact ⟨hresult, hv⟩

theorem tested_of_none {c : Channel} {result : Option TestResult}
    (h : judged? s c result = none) (m : Monitor σ) (b : Batch) :
    tested s m b c result = m.finish b false := by
  unfold judged? at h
  simp only [tested, h]

theorem tested_of_some {c : Channel} {result : Option TestResult} {r : TestResult} {v : Verdict}
    (h : judged? s c result = some (r, v)) (m : Monitor σ) (b : Batch) :
    tested s m b c result =
      ({ m with ready := m.ready ++ consequences s c v }.recordTime c.id (keptMs r)).after
        s.requestIntervalMs (.testNext b) := by
  unfold judged? at h
  simp only [tested, h, foldl_spawn]

/-- The jobs that a job leaves behind. -/
def offspring (s : HealthSettings) (probe : Probe σ) (m : Monitor σ) : Job → List Job
  | .disable _ _ _ | .enable _ _ | .recordTime _ _ => []
  | .testNext b =>
    match b.rest with
    | [] => successor b
    | c :: rest => [.tested { b with rest } c (probe c none .text m.world).1.result]
  | .tested b c result =>
    match judged? s c result with
    | none => successor b
    | some (_, v) => .testNext b :: consequences s c v
  | .await minutes => [.trigger minutes]
  | .trigger minutes =>
    match started m false (some minutes) with
    | [] => [.trigger minutes]
    | jobs => jobs

theorem inFlight_trigger (m : Monitor σ) (minutes : Nat) :
    (m.trigger minutes).inFlight.Perm
      (offspring s probe m (.trigger minutes) ++ m.inFlight) := by
  unfold trigger offspring
  cases hrunning : m.running with
  | true =>
      simp only [start_of_running hrunning, started, hrunning]
      exact inFlight_after _ _ _
  | false =>
      cases hlist : m.store.list with
      | error e =>
          simp only [start_of_list_error hrunning hlist, started, hrunning, hlist]
          exact inFlight_after _ _ _
      | ok channels =>
          simp only [start_of_list hrunning hlist, started, hrunning, hlist]
          exact inFlight_spawn { m with running := true } _

theorem testNext_cons (m : Monitor σ) (c : Channel) (rest : List Channel) (notifies : Bool)
    (waiter : Option Nat) :
    testNext probe m ⟨c :: rest, notifies, waiter⟩ =
      { m with world := (probe c none .text m.world).2 }.after
        (probe c none .text m.world).1.delayMs
        (.tested ⟨rest, notifies, waiter⟩ c (probe c none .text m.world).1.result) := rfl

theorem inFlight_testNext (m : Monitor σ) (b : Batch) :
    (testNext probe m b).inFlight.Perm (offspring s probe m (.testNext b) ++ m.inFlight) := by
  obtain ⟨rest, notifies, waiter⟩ := b
  cases rest with
  | nil => exact inFlight_finish m _ true
  | cons c rest => exact inFlight_after _ _ _

theorem inFlight_tested (m : Monitor σ) (b : Batch) (c : Channel) (result : Option TestResult) :
    (tested s m b c result).inFlight.Perm
      (offspring s probe m (.tested b c result) ++ m.inFlight) := by
  cases h : judged? s c result with
  | none =>
      simp only [offspring, h]
      rw [tested_of_none h]
      exact inFlight_finish m b false
  | some judged =>
      obtain ⟨r, v⟩ := judged
      simp only [offspring, h]
      rw [tested_of_some h]
      refine (inFlight_after _ _ _).trans (.cons _ ?_)
      change List.Perm (m.ready ++ consequences s c v ++ m.timers.map (·.job))
        (consequences s c v ++ (m.ready ++ m.timers.map (·.job)))
      rw [← List.append_assoc]
      exact List.perm_append_comm.append_right _

theorem inFlight_runJob (s : HealthSettings) (probe : Probe σ) (m : Monitor σ) (job : Job) :
    (runJob s probe m job).inFlight.Perm (offspring s probe m job ++ m.inFlight) := by
  cases job with
  | disable id name reason => exact .of_eq (inFlight_runDisable m id name reason)
  | enable id name => exact .of_eq (inFlight_runEnable m id name)
  | recordTime id ms => exact .rfl
  | testNext b => exact inFlight_testNext m b
  | tested b c result => exact inFlight_tested m b c result
  | await minutes => exact inFlight_after _ _ _
  | trigger minutes => exact inFlight_trigger m minutes

theorem offspring_congr {m' : Monitor σ} (hworld : m'.world = m.world)
    (hstore : m'.store = m.store) (hrunning : m'.running = m.running) (job : Job) :
    offspring s probe m' job = offspring s probe m job := by
  cases job <;> simp [offspring, started, hworld, hstore, hrunning]

theorem inFlight_turn {before after : List Job} {job : Job}
    (hready : m.ready = before ++ job :: after) (outage : Outage) :
    (job :: (runJob s probe ({ m with ready := before ++ after }.under outage) job).inFlight).Perm
      (offspring s probe (m.under outage) job ++ m.inFlight) := by
  have hrun := inFlight_runJob s probe ({ m with ready := before ++ after }.under outage) job
  have hsame : offspring s probe ({ m with ready := before ++ after }.under outage) job =
      offspring s probe (m.under outage) job := offspring_congr rfl rfl rfl job
  rw [hsame] at hrun
  refine (hrun.cons job).trans (List.perm_middle.symm.trans ?_)
  refine List.Perm.append_left _ ?_
  simp only [inFlight, under, hready, List.append_assoc, List.cons_append]
  exact List.perm_middle.symm

section

variable {job child : Job} {event : Event} {events : List Event}

theorem Next.mem_inFlight_or_turn (h : Next s probe m event m₁) (hjob : job ∈ m.inFlight) :
    job ∈ m₁.inFlight ∨ ∃ outage, event = .turn job outage := by
  cases h with
  | turn outage hready =>
      have hperm := @inFlight_turn σ s probe m _ _ _ hready outage
      have hmem := hperm.mem_iff.mpr (List.mem_append_right _ hjob)
      rcases List.mem_cons.mp hmem with rfl | hother
      · exact .inr ⟨outage, rfl⟩
      · exact .inl hother
  | alarm htimers => exact .inl ((inFlight_ring htimers).mem_iff.mpr hjob)
  | start notifies outage =>
      have hperm := inFlight_start (m.under outage) notifies none
      exact .inl (hperm.mem_iff.mpr (List.mem_append_right _ hjob))
  | order i status reason => exact .inl hjob

theorem Next.mem_inFlight_of_offspring {outage : Outage} (h : Next s probe m (.turn job outage) m₁)
    (hchild : child ∈ offspring s probe (m.under outage) job) : child ∈ m₁.inFlight := by
  cases h with
  | @turn before after _ _ hready =>
      have hsame : offspring s probe ({ m with ready := before ++ after }.under outage) job =
          offspring s probe (m.under outage) job := offspring_congr rfl rfl rfl job
      rw [← hsame] at hchild
      exact (inFlight_runJob s probe _ job).mem_iff.mpr (List.mem_append_left _ hchild)

theorem Runs.mem_inFlight_or_turn (h : Runs s probe m events m₁) (hjob : job ∈ m.inFlight) :
    job ∈ m₁.inFlight ∨ ∃ outage, .turn job outage ∈ events := by
  induction h with
  | refl => exact .inl hjob
  | next first _ ih =>
      rcases first.mem_inFlight_or_turn hjob with hstays | ⟨outage, rfl⟩
      · rcases ih hstays with hstill | ⟨outage, hturn⟩
        · exact .inl hstill
        · exact .inr ⟨outage, List.mem_cons_of_mem _ hturn⟩
      · exact .inr ⟨outage, List.mem_cons_self⟩

theorem Runs.mem_inFlight_or_turn_child (h : Runs s probe m events m₁) (hjob : job ∈ m.inFlight)
    (hchild : ∀ m : Monitor σ, child ∈ offspring s probe m job) :
    (job ∈ m₁.inFlight ∨ child ∈ m₁.inFlight) ∨ ∃ outage, .turn child outage ∈ events := by
  induction h with
  | refl => exact .inl (.inl hjob)
  | @next m m₁ m₂ event events first rest ih =>
      have hlater : (job ∈ m₂.inFlight ∨ child ∈ m₂.inFlight) ∨
          ∃ outage, .turn child outage ∈ events := by
        rcases first.mem_inFlight_or_turn hjob with hstays | ⟨outage, rfl⟩
        · exact ih hstays
        · have hborn := first.mem_inFlight_of_offspring (hchild _)
          exact (rest.mem_inFlight_or_turn hborn).imp_left .inr
      exact hlater.imp_right fun ⟨outage, hturn⟩ => ⟨outage, List.mem_cons_of_mem _ hturn⟩

/-- What is in flight comes to its turn, if need be after its alarm. -/
theorem exists_next_turn (s : HealthSettings) (probe : Probe σ) (hjob : job ∈ m.inFlight) :
    ∃ events m' m₁, Runs s probe m events m' ∧ (∀ event ∈ events, ∃ timer, event = .alarm timer) ∧
      m'.store = m.store ∧ Next s probe m' (.turn job {}) m₁ := by
  rcases List.mem_append.mp hjob with hready | hwaits
  · obtain ⟨before, after, hready⟩ := List.append_of_mem hready
    have hturn : Next s probe m (.turn job {}) _ := .turn {} hready
    exact ⟨[], m, _, .refl m, List.forall_mem_nil _, rfl, hturn⟩
  · obtain ⟨timer, htimer, rfl⟩ := List.mem_map.mp hwaits
    obtain ⟨before, after, htimers⟩ := List.append_of_mem htimer
    have halarm : Next s probe m (.alarm timer) (m.ring timer (before ++ after)) := .alarm htimers
    have hready : (m.ring timer (before ++ after)).ready = m.ready ++ timer.job :: [] := rfl
    have hturn : Next s probe _ (.turn timer.job {}) _ := .turn {} hready
    exact ⟨[.alarm timer], _, _, .next halarm (.refl _),
      List.forall_mem_singleton.mpr ⟨timer, rfl⟩, rfl, hturn⟩

end

end ModelGateway.Monitor
