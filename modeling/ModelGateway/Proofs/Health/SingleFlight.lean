import ModelGateway.Proofs.Health.Interleaving

/-!
# One batch at a time

However calls and batches are mixed, the flag is up exactly while one call or one batch holds it.
It falls when the holder ends, before the operator is told of that end.
-/

namespace ModelGateway.Monitor

variable {σ : Type}

def batches (m : Monitor σ) : Nat :=
  m.inFlight.countP isBatch

theorem batches_take {m : Monitor σ} {before after : List Job} {job : Job}
    (hready : m.ready = before ++ job :: after) :
    m.batches = { m with ready := before ++ after }.batches + if isBatch job then 1 else 0 := by
  have hperm : m.inFlight.Perm (job :: { m with ready := before ++ after }.inFlight) := by
    simp only [inFlight, hready, List.append_assoc, List.cons_append]
    exact List.perm_middle
  rw [batches, hperm.countP_eq, List.countP_cons, batches]

theorem batches_spawn (m : Monitor σ) (job : Job) :
    (m.spawn job).batches = m.batches + if isBatch job then 1 else 0 := by
  rw [batches, (inFlight_spawn m job).countP_eq, List.countP_cons, batches]

theorem batches_retry (m : Monitor σ) (waiter : Option Nat) :
    (m.retry waiter).batches = m.batches := by
  cases waiter with
  | none => rfl
  | some minutes =>
      rw [batches, retry, await, (inFlight_after m _ _).countP_eq]
      exact List.countP_cons_of_neg (by simp [isBatch])

theorem batches_tell (m : Monitor σ) (c : Closing) : (m.tell c).batches = m.batches := by
  have htold : (if c.isTold then m.notify .allTested else m).batches = m.batches := by
    split <;> rfl
  unfold tell
  cases c.batch.waiter with
  | none => exact htold
  | some minutes => exact (batches_spawn _ _).trans htold

theorem countP_consequences (s : HealthSettings) (c : Channel) (v : Verdict) :
    (consequences s c v).countP isBatch = 0 := by
  rw [consequences, List.countP_append]
  split <;> split <;> rfl

theorem batches_runJob {s : HealthSettings} {job : Job} (htrigger : isTrigger job = false)
    (hopen : closing? s job = none) (probe : Probe σ) (m : Monitor σ) :
    (runJob s probe m job).batches = m.batches + if isBatch job then 1 else 0 := by
  have hoffspring : (offspring s probe m job).countP isBatch = if isBatch job then 1 else 0 := by
    cases job with
    | disable id name reason => rfl
    | enable id name => rfl
    | recordTime id ms => rfl
    | testNext b =>
        obtain ⟨rest, notifies, waiter⟩ := b
        cases rest with
        | nil => cases hopen
        | cons c rest => rfl
    | tested b c result =>
        cases hjudged : judged? s c result with
        | none => simp [closing?, hjudged] at hopen
        | some judged =>
            simp only [offspring, hjudged, List.countP_cons, countP_consequences]
            rfl
    | await minutes => rfl
    | trigger minutes => cases htrigger
  rw [batches, (inFlight_runJob s probe m job).countP_eq, List.countP_append, hoffspring, batches,
    Nat.add_comm]

/-! ## The flag and the notices -/

def finished (m : Monitor σ) : Nat :=
  m.notices.count .allTested

structure Keeps (m m' : Monitor σ) : Prop where
  running : m'.running = m.running
  finished : m'.finished = m.finished

theorem Keeps.trans {m m₁ m₂ : Monitor σ} (h : m.Keeps m₁) (h' : m₁.Keeps m₂) : m.Keeps m₂ :=
  ⟨h'.running.trans h.running, h'.finished.trans h.finished⟩

theorem keeps_after (m : Monitor σ) (ms : Nat) (job : Job) : m.Keeps (m.after ms job) := by
  unfold after
  split <;> exact ⟨rfl, rfl⟩

theorem keeps_retry (m : Monitor σ) (waiter : Option Nat) : m.Keeps (m.retry waiter) := by
  cases waiter with
  | none => exact ⟨rfl, rfl⟩
  | some minutes => exact keeps_after m _ _

theorem ne_allTested {n : Notice} {label change : String} (htitle : n.title = label ++ change)
    (hchange : change = " disabled" ∨ change = " enabled") : n ≠ .allTested := by
  rintro rfl
  have hend := congrArg (·.toList.reverse.take 3) htitle
  rcases hchange with rfl | rfl <;> simp [Notice.allTested] at hend

theorem disabled_ne_allTested (id : Int) (name reason : String) :
    Notice.disabled id name reason ≠ .allTested :=
  ne_allTested (show _ = Notice.channelLabel id name ++ " disabled" from rfl) (.inl rfl)

theorem enabled_ne_allTested (id : Int) (name : String) :
    Notice.enabled id name ≠ .allTested :=
  ne_allTested (show _ = Notice.channelLabel id name ++ " enabled" from rfl) (.inr rfl)

theorem keeps_notify (m : Monitor σ) (store : ChannelStore) {n : Notice} (h : n ≠ .allTested) :
    m.Keeps ({ m with store }.notify n) := by
  refine ⟨rfl, ?_⟩
  simp [finished, notify, List.count_append, h]

theorem keeps_runDisable (m : Monitor σ) (id : Int) (name reason : String) :
    m.Keeps (m.runDisable id name reason) := by
  unfold runDisable
  split
  · exact keeps_notify m _ (disabled_ne_allTested id name reason)
  · exact ⟨rfl, rfl⟩

theorem keeps_runEnable (m : Monitor σ) (id : Int) (name : String) :
    m.Keeps (m.runEnable id name) := by
  unfold runEnable
  split
  · exact keeps_notify m _ (enabled_ne_allTested id name)
  · exact ⟨rfl, rfl⟩

theorem keeps_runJob {s : HealthSettings} {job : Job} (htrigger : isTrigger job = false)
    (hopen : closing? s job = none) (probe : Probe σ) (m : Monitor σ) :
    m.Keeps (runJob s probe m job) := by
  cases job with
  | disable id name reason => exact keeps_runDisable m id name reason
  | enable id name => exact keeps_runEnable m id name
  | recordTime id ms => exact ⟨rfl, rfl⟩
  | testNext b =>
      obtain ⟨rest, notifies, waiter⟩ := b
      cases rest with
      | nil => cases hopen
      | cons c rest =>
          have hprobed : m.Keeps { m with world := (probe c none .text m.world).2 } := ⟨rfl, rfl⟩
          exact hprobed.trans (keeps_after _ _ _)
  | tested b c result =>
      cases hjudged : judged? s c result with
      | none => simp [closing?, hjudged] at hopen
      | some judged =>
          obtain ⟨r, v⟩ := judged
          have hspawned : m.Keeps
              ({ m with ready := m.ready ++ consequences s c v }.recordTime c.id (keptMs r)) :=
            ⟨rfl, rfl⟩
          rw [runJob, tested_of_some hjudged]
          exact hspawned.trans (keeps_after _ _ _)
  | await minutes => exact keeps_after _ _ _
  | trigger minutes => cases htrigger

theorem running_tell (m : Monitor σ) (c : Closing) : (m.tell c).running = m.running := by
  unfold tell
  cases c.isTold <;> cases c.batch.waiter <;> rfl

theorem finished_tell (m : Monitor σ) (c : Closing) :
    (m.tell c).finished = m.finished + if c.isTold then 1 else 0 := by
  have hspawned : (m.tell c).finished =
      (if c.isTold then m.notify .allTested else m).finished := by
    unfold tell
    cases c.batch.waiter <;> rfl
  rw [hspawned]
  cases c.isTold with
  | false => rfl
  | true => simp [finished, notify, List.count_append]

theorem acquire?_eq_some {m m₁ : Monitor σ} (h : m.acquire? = some m₁) :
    m.running = false ∧ m₁ = { m with running := true } := by
  unfold acquire? at h
  split at h
  · cases h
  · exact ⟨Bool.eq_false_iff.mpr ‹_›, (Option.some.inj h).symm⟩

theorem acquire?_eq_none {m : Monitor σ} (h : m.acquire? = none) : m.running = true := by
  unfold acquire? at h
  split at h
  · assumption
  · cases h

theorem launch_eq_ok {m m₁ : Monitor σ} {notifies : Bool} {waiter : Option Nat}
    (h : m.launch notifies waiter = (.ok (), m₁)) :
    ∃ channels, m.store.list = .ok channels ∧
      m₁ = m.spawn (.testNext ⟨channels, notifies, waiter⟩) := by
  unfold launch at h
  split at h
  · cases h
  · exact ⟨_, ‹_›, (Prod.mk.inj h).2.symm⟩

theorem launch_eq_error {m m₁ : Monitor σ} {notifies : Bool} {waiter : Option Nat}
    {e : GatewayError} (h : m.launch notifies waiter = (.error e, m₁)) :
    m.store.list = .error e ∧ m₁ = m.release := by
  unfold launch at h
  split at h
  · obtain ⟨he, hm⟩ := Prod.mk.inj h
    exact ⟨Except.error.inj he ▸ ‹_›, hm.symm⟩
  · cases h

theorem Calls.keeps {m m₀ : Monitor σ} {l : Listing} (h : Calls m l m₀) :
    m.Keeps m₀ ∧ m₀.batches = m.batches := by
  cases h with
  | manual notifies => exact ⟨⟨rfl, rfl⟩, rfl⟩
  | periodic hready => exact ⟨⟨rfl, rfl⟩, (batches_take hready).symm⟩

/-! ## What each step keeps -/

namespace Scene

variable {s : HealthSettings} {probe : Probe σ} {st st₁ st₂ : Scene σ} {act : Act}

/-- The calls and the batches that hold the flag. -/
def guards (st : Scene σ) : Nat :=
  st.listing.length + st.monitor.batches

/-- The flag is up if one holds it, and never more than one does. -/
def Held (st : Scene σ) : Prop :=
  st.guards = if st.monitor.running then 1 else 0

theorem held_of_idle {m : Monitor σ} (hidle : m.running = false) (hnone : m.batches = 0) :
    Held (⟨m, [], []⟩ : Scene σ) := by
  rw [Held, hidle]
  exact (Nat.zero_add _).trans hnone

theorem Held.guards_le (h : st.Held) : st.guards ≤ 1 := by
  unfold Held at h
  split at h <;> omega

theorem guards_mk (m : Monitor σ) (ls : List Listing) (cs : List Closing) :
    (⟨m, ls, cs⟩ : Scene σ).guards = ls.length + m.batches := rfl

theorem length_drop (before after : List Listing) (l : Listing) (n : Nat) :
    (before ++ after).length + n + 1 = (before ++ l :: after).length + n := by
  rw [List.length_append, List.length_append, List.length_cons, ← Nat.add_assoc,
    Nat.add_right_comm]

/-- A beginning adds one holder of the flag, and an exit takes one away. -/
theorem guards_step (h : Step s probe st act st₁) :
    st₁.guards + act.isExit.toNat = st.guards + act.isBeginning.toNat := by
  cases h with
  | @begun m m₀ m₁ ls cs l hcalls hfree =>
      -- A trigger that calls is no batch, so taking it from the jobs leaves as many as there were.
      obtain ⟨-, hbatches⟩ := hcalls.keeps
      obtain ⟨-, rfl⟩ := acquire?_eq_some hfree
      have htaken : { m₀ with running := true }.batches = m.batches := hbatches
      rw [guards_mk, guards_mk, htaken, List.length_append]
      exact Nat.add_right_comm _ 1 _
  | refused hcalls htaken => rw [guards_mk, guards_mk, batches_retry, hcalls.keeps.2]; rfl
  | @listed m _ before after cs l hlist =>
      obtain ⟨channels, -, rfl⟩ := launch_eq_ok hlist
      rw [guards_mk, guards_mk, batches_spawn, List.length_append, List.length_append,
        List.length_cons, isBatch, if_pos rfl, ← Nat.add_assoc, ← Nat.add_assoc,
        Nat.add_right_comm _ m.batches]
      rfl
  | @unlisted m _ before after cs l e hlist =>
      obtain ⟨-, rfl⟩ := launch_eq_error hlist
      have hreleased : m.release.batches = m.batches := rfl
      rw [guards_mk, guards_mk, batches_retry, hreleased]
      exact length_drop before after l _
  | dropped m before after cs l => exact length_drop before after l _
  | turn hready htrigger hopen =>
      rw [guards_mk, guards_mk, batches_runJob htrigger hopen, ← batches_take hready]
      rfl
  | ended hready hclosing =>
      rw [guards_mk, guards_mk, batches_take hready, isBatch_of_closing hclosing]
      rfl
  | told => rw [guards_mk, guards_mk, batches_tell]; rfl
  | alarm htimers =>
      rw [guards_mk, guards_mk, batches, (inFlight_ring htimers).countP_eq]
      rfl
  | order => rfl
  | weather => rfl

theorem idle_of_beginning (h : Step s probe st act st₁) (hact : act.isBeginning = true) :
    st.monitor.running = false := by
  cases h with
  | begun hcalls hfree => exact hcalls.keeps.1.running.symm.trans (acquire?_eq_some hfree).1
  | _ => cases hact

theorem running_step (h : Step s probe st act st₁) :
    st₁.monitor.running = (act.isBeginning || st.monitor.running && !act.isExit) := by
  cases h with
  | @begun m m₀ m₁ ls cs l hcalls hfree =>
      obtain ⟨-, rfl⟩ := acquire?_eq_some hfree
      rfl
  | @refused m m₀ ls cs l hcalls htaken =>
      exact (hcalls.keeps.1.trans (keeps_retry m₀ l.waiter)).running.trans (Bool.and_true _).symm
  | listed hlist =>
      obtain ⟨channels, -, rfl⟩ := launch_eq_ok hlist
      exact (Bool.and_true _).symm
  | unlisted hlist =>
      obtain ⟨-, rfl⟩ := launch_eq_error hlist
      exact (keeps_retry _ _).running.trans (Bool.and_false _).symm
  | dropped => exact (Bool.and_false _).symm
  | turn hready htrigger hopen =>
      exact (keeps_runJob htrigger hopen _ _).running.trans (Bool.and_true _).symm
  | ended => exact (Bool.and_false _).symm
  | told => exact (running_tell _ _).trans (Bool.and_true _).symm
  | _ => exact (Bool.and_true _).symm

theorem Held.step (hst : st.Held) (h : Step s probe st act st₁) : st₁.Held := by
  have hguards := guards_step h
  have hle := hst.guards_le
  unfold Held at *
  rw [running_step h]
  cases hbegin : act.isBeginning with
  | true =>
      rw [idle_of_beginning h hbegin] at hst
      rw [hbegin, act.isExit_of_beginning hbegin, hst] at hguards
      exact hguards
  | false =>
      rw [hbegin] at hguards
      cases hexit : act.isExit with
      | true =>
          rw [hexit] at hguards
          have hone : st₁.guards + 1 = st.guards := hguards
          have hnone : st₁.guards = 0 := by omega
          simpa using hnone
      | false =>
          rw [hexit] at hguards
          simpa using hguards.trans hst

theorem Held.steps {acts : List Act} (hst : st.Held) (h : Steps s probe st acts st₁) :
    st₁.Held := by
  induction h with
  | refl => exact hst
  | next first _ ih => exact ih (hst.step first)

theorem Held.running_iff (h : st.Held) : st.monitor.running = true ↔ st.guards = 1 := by
  rw [h]
  cases st.monitor.running <;> simp

theorem running_iff_of_runs {m m₁ : Monitor σ} {events : List Event} (hidle : m.running = false)
    (hnone : m.batches = 0) (h : Runs s probe m events m₁) :
    m₁.running = true ↔ m₁.batches = 1 := by
  obtain ⟨acts, hsteps⟩ := exists_steps_of_runs h [] []
  have hheld := (held_of_idle hidle hnone).steps hsteps
  rw [hheld.running_iff, guards_mk, List.length_nil, Nat.zero_add]

theorem closing_step (h : Step s probe st act st₁) :
    (act.ended?.toList ++ st.closing).Perm (act.told?.toList ++ st₁.closing) := by
  cases h with
  | ended hready hclosing => exact (List.perm_append_singleton _ _).symm
  | told m ls before after c => exact List.perm_middle
  | _ => exact .rfl

theorem filterMap_cons_eq (f : Act → Option Closing) (act : Act) (acts : List Act) :
    (act :: acts).filterMap f = (f act).toList ++ acts.filterMap f := by
  rw [List.filterMap_cons]
  cases f act <;> rfl

theorem closing_steps {acts : List Act} (h : Steps s probe st acts st₁) :
    (acts.filterMap Act.ended? ++ st.closing).Perm
      (acts.filterMap Act.told? ++ st₁.closing) := by
  induction h with
  | refl => exact .rfl
  | next first _ ih =>
      -- A batch moves from the ended to the closing to the told, so its count tells where it is.
      refine List.perm_iff_count.mpr fun c => ?_
      have hstep := (closing_step first).count_eq c
      have hrest := ih.count_eq c
      rw [filterMap_cons_eq, filterMap_cons_eq]
      simp only [List.count_append] at *
      omega

theorem finished_step (h : Step s probe st act st₁) :
    st₁.monitor.finished = st.monitor.finished + act.told?.toList.countP Closing.isTold := by
  cases h with
  | begun hcalls hfree =>
      obtain ⟨-, rfl⟩ := acquire?_eq_some hfree
      exact hcalls.keeps.1.finished
  | refused hcalls htaken => exact (hcalls.keeps.1.trans (keeps_retry _ _)).finished
  | listed hlist =>
      obtain ⟨channels, -, rfl⟩ := launch_eq_ok hlist
      rfl
  | unlisted hlist =>
      obtain ⟨-, rfl⟩ := launch_eq_error hlist
      exact (keeps_retry _ _).finished
  | turn hready htrigger hopen => exact (keeps_runJob htrigger hopen _ _).finished
  | told m ls before after c =>
      rw [finished_tell, Act.told?, Option.toList_some, List.countP_singleton]
  | _ => rfl

/-- The operator is told of every batch that was completed and asked for it, and of no other. -/
theorem finished_steps {acts : List Act} (h : Steps s probe st acts st₁) :
    st₁.monitor.finished =
      st.monitor.finished + (acts.filterMap Act.told?).countP Closing.isTold := by
  induction h with
  | refl => rfl
  | next first _ ih =>
      rw [ih, finished_step first, filterMap_cons_eq, List.countP_append, Nat.add_assoc]

/-! ## Any mixture of calls and batches -/

/-- What a step does to the flag and to those that wait for it. -/
structure Orderly (st : Scene σ) (act : Act) (st₁ : Scene σ) : Prop where
  refuses : act.isCall = true → st.monitor.running = true → ∃ l m, Calls st.monitor l m ∧
    m.start l.notifies l.waiter = (.error .batchRunning, m) ∧
    act = .refused l ∧ st₁ = { st with monitor := m.retry l.waiter }
  exits : st₁.guards < st.guards → act.isExit = true
  clears : act.isExit = true → st₁.monitor.running = false ∧ st₁.guards = 0 ∧
    st₁.monitor.notices = st.monitor.notices
  completes : ∀ c, act = .ended c → c.completed = true → c.batch.rest = []

theorem notices_after (m : Monitor σ) (ms : Nat) (job : Job) :
    (m.after ms job).notices = m.notices := by
  unfold after
  split <;> rfl

theorem notices_retry (m : Monitor σ) (waiter : Option Nat) :
    (m.retry waiter).notices = m.notices := by
  cases waiter with
  | none => rfl
  | some minutes => exact notices_after m _ _

theorem rest_of_closing {job : Job} {c : Closing} (h : closing? s job = some c)
    (hcompleted : c.completed = true) : c.batch.rest = [] := by
  cases job with
  | testNext b =>
      obtain ⟨rest, notifies, waiter⟩ := b
      cases rest with
      | nil =>
          obtain rfl := Option.some.inj h
          rfl
      | cons c rest => cases h
  | tested b channel result =>
      cases hjudged : judged? s channel result with
      | some judged => simp [closing?, hjudged] at h
      | none =>
          obtain rfl : ⟨b, false⟩ = c := by simpa [closing?, hjudged] using h
          cases hcompleted
  | _ => cases h

theorem clears_of_exit (h : Step s probe st act st₁) (hexit : act.isExit = true) :
    st₁.monitor.running = false ∧ st₁.monitor.notices = st.monitor.notices := by
  cases h with
  | unlisted hlist =>
      obtain ⟨-, rfl⟩ := launch_eq_error hlist
      exact ⟨(keeps_retry _ _).running, notices_retry _ _⟩
  | dropped => exact ⟨rfl, rfl⟩
  | ended hready hclosing => exact ⟨rfl, rfl⟩
  | _ => cases hexit

theorem refused_of_running (h : Step s probe st act st₁) (hcall : act.isCall = true)
    (hrunning : st.monitor.running = true) :
    ∃ l m, Calls st.monitor l m ∧ m.start l.notifies l.waiter = (.error .batchRunning, m) ∧
      act = .refused l ∧ st₁ = { st with monitor := m.retry l.waiter } := by
  cases h with
  | begun hcalls hfree =>
      obtain ⟨hidle, -⟩ := acquire?_eq_some hfree
      cases hidle.symm.trans (hcalls.keeps.1.running.trans hrunning)
  | refused hcalls htaken =>
      exact ⟨_, _, hcalls, start_of_running (acquire?_eq_none htaken) _ _, rfl, rfl⟩
  | _ => cases hcall

theorem orderly_of_step (hst : st.Held) (h : Step s probe st act st₁) : Orderly st act st₁ where
  refuses := refused_of_running h
  exits hless := by
    have hguards := guards_step h
    cases hexit : act.isExit with
    | true => rfl
    | false =>
        rw [hexit] at hguards
        exact absurd (Nat.le.intro hguards.symm) (Nat.not_le_of_lt hless)
  clears hexit := by
    obtain ⟨hdown, hnotices⟩ := clears_of_exit h hexit
    refine ⟨hdown, ?_, hnotices⟩
    rw [hst.step h, hdown]
    rfl
  completes c hact hcompleted := by
    subst hact
    cases h with
    | ended hready hclosing => exact rest_of_closing hclosing hcompleted

/-- However calls, batches and their ends are mixed, the flag is up exactly if one call or one batch
holds it, and each batch tells of its end once, after it gave the flag back.  Every run is such a
mixture. -/
theorem guarded_of_steps {m : Monitor σ} (hidle : m.running = false) (hnone : m.batches = 0)
    {acts : List Act} (h : Steps s probe ⟨m, [], []⟩ acts st) :
    (st.monitor.running = true ↔ st.guards = 1) ∧ st.guards ≤ 1 ∧ st.monitor.batches ≤ 1 ∧
    (acts.filterMap Act.ended?).Perm (acts.filterMap Act.told? ++ st.closing) ∧
    st.monitor.finished =
      m.finished + (acts.filterMap Act.told?).countP Closing.isTold ∧
    (∀ act st₁, Step s probe st act st₁ → Orderly st act st₁) ∧
    ∀ events m₁, Runs s probe m events m₁ → (m₁.running = true ↔ m₁.batches = 1) ∧
      ∃ acts', Steps s probe ⟨m, [], []⟩ acts' ⟨m₁, [], []⟩ := by
  have hheld := (held_of_idle hidle hnone).steps h
  have hbatches : st.monitor.batches ≤ st.guards := Nat.le_add_left _ _
  refine ⟨hheld.running_iff, hheld.guards_le, Nat.le_trans hbatches hheld.guards_le, ?_,
    finished_steps h, fun act st₁ hstep => ?_, fun events m₁ hruns => ?_⟩
  · have hclosing := closing_steps h
    rwa [List.append_nil] at hclosing
  · exact orderly_of_step hheld hstep
  · exact ⟨running_iff_of_runs hidle hnone hruns, exists_steps_of_runs hruns [] []⟩

def crashingLater : Probe Bool := fun _ _ _ later =>
  (⟨0, if later then none else some ⟨"", 7000000, none⟩⟩, true)

def untested : Channel :=
  ⟨1, "", .openai, none, "", "", none, none, "", .enabled, 0, true, none⟩

def measured : Channel :=
  { untested with responseTimeMs := 7, testTime := some ⟨0, 0⟩ }

def oneChannel : Monitor Bool :=
  { store := { table := ⟨[.ofChannel untested]⟩ }, world := false }

def afterTest : Monitor Bool :=
  { oneChannel.recordTime 1 (keptMs ⟨"", 7000000, none⟩) with world := true }

theorem list_afterTest : afterTest.store.list = .ok [measured] := by
  decide +kernel

theorem steps_passing :
    Steps {} crashingLater ⟨oneChannel, [], []⟩
      [.begun ⟨true, none⟩, .refused ⟨true, none⟩, .listed ⟨true, none⟩,
        .turn (.testNext ⟨[untested], true, none⟩),
        .turn (.tested ⟨[], true, none⟩ untested (some ⟨"", 7000000, none⟩)),
        .ended ⟨⟨[], true, none⟩, true⟩]
      ⟨afterTest, [], [⟨⟨[], true, none⟩, true⟩]⟩ := by
  let taken : Monitor Bool := { oneChannel with running := true }
  let listed := taken.spawn (.testNext ⟨[untested], true, none⟩)
  let probed := runJob {} crashingLater taken (.testNext ⟨[untested], true, none⟩)
  let tested : Monitor Bool :=
    { afterTest with running := true, ready := [.testNext ⟨[], true, none⟩] }
  have hbegun : Step {} crashingLater ⟨oneChannel, [], []⟩ (.begun ⟨true, none⟩)
      ⟨taken, [⟨true, none⟩], []⟩ := .begun (.manual true) rfl
  have hrefused : Step {} crashingLater ⟨taken, [⟨true, none⟩], []⟩ (.refused ⟨true, none⟩)
      ⟨taken, [⟨true, none⟩], []⟩ := .refused (.manual true) rfl
  have hlisted : Step {} crashingLater ⟨taken, [⟨true, none⟩], []⟩ (.listed ⟨true, none⟩)
      ⟨listed, [], []⟩ := @Step.listed _ _ _ taken listed [] [] [] _ rfl
  have hprobed : Step {} crashingLater ⟨listed, [], []⟩
      (.turn (.testNext ⟨[untested], true, none⟩)) ⟨probed, [], []⟩ :=
    @Step.turn _ _ _ listed [] [] [] [] _ rfl rfl rfl
  have htested : Step {} crashingLater ⟨probed, [], []⟩
      (.turn (.tested ⟨[], true, none⟩ untested (some ⟨"", 7000000, none⟩))) ⟨tested, [], []⟩ :=
    @Step.turn _ _ _ probed [] [] [] [] _ rfl rfl rfl
  have hended : Step {} crashingLater ⟨tested, [], []⟩ (.ended ⟨⟨[], true, none⟩, true⟩)
      ⟨afterTest, [], [⟨⟨[], true, none⟩, true⟩]⟩ :=
    @Step.ended _ _ _ tested [] [] [] [] (.testNext ⟨[], true, none⟩) _ rfl rfl
  exact .next hbegun <| .next hrefused <| .next hlisted <| .next hprobed <| .next htested
    hended.steps

/-- The next call takes the flag before the operator has been told of the batch before. -/
theorem steps_crashing :
    Steps {} crashingLater ⟨afterTest, [], [⟨⟨[], true, none⟩, true⟩]⟩
      [.begun ⟨true, none⟩, .told ⟨⟨[], true, none⟩, true⟩, .listed ⟨true, none⟩,
        .turn (.testNext ⟨[measured], true, none⟩), .ended ⟨⟨[], true, none⟩, false⟩,
        .told ⟨⟨[], true, none⟩, false⟩]
      ⟨afterTest.notify .allTested, [], []⟩ := by
  let taken : Monitor Bool := { afterTest with running := true }
  let heard := taken.notify .allTested
  let listed := heard.spawn (.testNext ⟨[measured], true, none⟩)
  let probed := runJob {} crashingLater heard (.testNext ⟨[measured], true, none⟩)
  have hlaunch : heard.launch true none = (.ok (), listed) := by
    have hlist : heard.store.list = .ok [measured] := list_afterTest
    rw [launch, hlist]
  have hbegun : Step {} crashingLater ⟨afterTest, [], [⟨⟨[], true, none⟩, true⟩]⟩
      (.begun ⟨true, none⟩) ⟨taken, [⟨true, none⟩], [⟨⟨[], true, none⟩, true⟩]⟩ :=
    .begun (.manual true) rfl
  have htold : Step {} crashingLater ⟨taken, [⟨true, none⟩], [⟨⟨[], true, none⟩, true⟩]⟩
      (.told ⟨⟨[], true, none⟩, true⟩) ⟨heard, [⟨true, none⟩], []⟩ := .told taken _ [] [] _
  have hlisted : Step {} crashingLater ⟨heard, [⟨true, none⟩], []⟩ (.listed ⟨true, none⟩)
      ⟨listed, [], []⟩ := @Step.listed _ _ _ heard listed [] [] [] _ hlaunch
  have hprobed : Step {} crashingLater ⟨listed, [], []⟩
      (.turn (.testNext ⟨[measured], true, none⟩)) ⟨probed, [], []⟩ :=
    @Step.turn _ _ _ listed [] [] [] [] _ rfl rfl rfl
  have hended : Step {} crashingLater ⟨probed, [], []⟩ (.ended ⟨⟨[], true, none⟩, false⟩)
      ⟨afterTest.notify .allTested, [], [⟨⟨[], true, none⟩, false⟩]⟩ :=
    @Step.ended _ _ _ probed [] [] [] [] (.tested ⟨[], true, none⟩ measured none) _ rfl rfl
  have htold' : Step {} crashingLater ⟨afterTest.notify .allTested, [], [⟨⟨[], true, none⟩, false⟩]⟩
      (.told ⟨⟨[], true, none⟩, false⟩) ⟨afterTest.notify .allTested, [], []⟩ :=
    .told (afterTest.notify .allTested) [] [] [] _
  exact .next hbegun <| .next htold <| .next hlisted <| .next hprobed <| .next hended htold'.steps

/-- A second batch whose probe crashes gives the flag back without telling anyone. -/
theorem guarded_of_steps_told :
    let c : Listing := ⟨true, none⟩
    let st : Scene Bool := ⟨afterTest.notify .allTested, [], []⟩
    Steps {} crashingLater ⟨oneChannel, [], []⟩
        [.begun c, .refused c, .listed c, .turn (.testNext ⟨[untested], true, none⟩),
          .turn (.tested ⟨[], true, none⟩ untested (some ⟨"", 7000000, none⟩)),
          .ended ⟨⟨[], true, none⟩, true⟩,
          .begun c, .told ⟨⟨[], true, none⟩, true⟩, .listed c,
          .turn (.testNext ⟨[measured], true, none⟩), .ended ⟨⟨[], true, none⟩, false⟩,
          .told ⟨⟨[], true, none⟩, false⟩] st ∧
      st.guards = 0 ∧ st.monitor.finished = 1 ∧
      ∀ act st₁, Step {} crashingLater st act st₁ → Orderly st act st₁ := by
  intro c st
  have hsteps : Steps {} crashingLater _ _ st := steps_passing.trans steps_crashing
  obtain ⟨hrunning, hle, -, -, hfinished, horderly, -⟩ := guarded_of_steps rfl rfl hsteps
  have hguards : st.guards = 0 := by
    have hne : st.guards ≠ 1 := fun h => nomatch hrunning.mpr h
    omega
  exact ⟨hsteps, hguards, hfinished, horderly⟩

end Scene

end ModelGateway.Monitor
