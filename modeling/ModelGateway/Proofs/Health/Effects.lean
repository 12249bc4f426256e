import ModelGateway.Proofs.Health.Runs

/-!
# What a run leaves behind

The rows, the notices and the probes of a run can be read off its events.  Of several statuses that
are written for a channel the last one stays, whoever wrote it, and so does the last of its times.
-/

namespace ModelGateway.Monitor

variable {σ : Type} {s : HealthSettings} {probe : Probe σ} {m m₁ m₂ : Monitor σ}

/-! ## What is written -/

/-- The status and the reason that a job writes for a channel. -/
def statusWritten? (id : Int) : Job → Option (ChannelStatus × Option String)
  | .disable i _ reason => if i = id then some (.autoDisabled, some reason) else none
  | .enable i _ => if i = id then some (.enabled, none) else none
  | _ => none

def timeWritten? (s : HealthSettings) (id : Int) : Job → Option Int
  | .recordTime i ms => if i = id then some ms else none
  | .tested _ c result =>
    if c.id = id then (judged? s c result).map fun judged => keptMs judged.1 else none
  | _ => none

namespace Event

def status? (id : Int) : Event → Option (ChannelStatus × Option String)
  | .turn job outage => if outage.status then none else statusWritten? id job
  | .order i status reason => if i = id then some (status, reason) else none
  | _ => none

def time? (s : HealthSettings) (id : Int) : Event → Option Int
  | .turn job outage => if outage.time then none else timeWritten? s id job
  | _ => none

end Event

def written (now : Instant) (status? : Option (ChannelStatus × Option String)) (ms? : Option Int)
    (row : ChannelRow) : ChannelRow :=
  { row with
    status := (status?.map (·.1.number)).getD row.status
    reason := (status?.map (·.2)).getD row.reason
    responseTimeMs := ms?.getD row.responseTimeMs
    testTime := (ms?.map fun _ => some now.text).getD row.testTime }

@[simp] theorem written_none (now : Instant) : written now none none = id := rfl

theorem status_written (now : Instant) (status? : Option (ChannelStatus × Option String))
    (ms? : Option Int) (row : ChannelRow) :
    (written now status? ms? row).status = (status?.map (·.1.number)).getD row.status := rfl

theorem responseTimeMs_written (now : Instant)
    (status? : Option (ChannelStatus × Option String)) (ms? : Option Int) (row : ChannelRow) :
    (written now status? ms? row).responseTimeMs = ms?.getD row.responseTimeMs := rfl

theorem written_written (now now' : Instant)
    (status? status?' : Option (ChannelStatus × Option String)) (ms? ms?' : Option Int)
    (row : ChannelRow) :
    written now' status?' ms?' (written now status? ms? row) =
      written (if ms?'.isSome then now' else now) (status?'.or status?) (ms?'.or ms?) row := by
  cases status?' <;> cases ms?' <;> simp [written]

def rewritten (now : Instant) (status? : Int → Option (ChannelStatus × Option String))
    (ms? : Int → Option Int) (t : ChannelTable) : ChannelTable :=
  ⟨t.rows.map fun row => written now (status? row.id) (ms? row.id) row⟩

theorem rewritten_none (now : Instant) (t : ChannelTable) :
    rewritten now (fun _ => none) (fun _ => none) t = t := by
  simp [rewritten]

theorem find?_rewritten (now : Instant) (status? : Int → Option (ChannelStatus × Option String))
    (ms? : Int → Option Int) (t : ChannelTable) (id : Int) :
    (rewritten now status? ms? t).find? id =
      (t.find? id).map (written now (status? id) (ms? id)) := by
  have hfind : (rewritten now status? ms? t).find? id =
      (t.find? id).map fun row => written now (status? row.id) (ms? row.id) row := by
    simp only [rewritten, ChannelTable.find?, List.find?_map]
    rfl
  rw [hfind]
  cases h : t.find? id with
  | none => rfl
  | some row => simp [ChannelTable.id_of_find? h]

theorem ordered_rewritten {now : Instant}
    {status? : Int → Option (ChannelStatus × Option String)} {ms? : Int → Option Int}
    {t : ChannelTable} (h : t.Ordered) : (rewritten now status? ms? t).Ordered :=
  List.Pairwise.map _ (fun _ _ hab => hab) h

theorem setStatus_eq_rewritten (t : ChannelTable) (id : Int) (status : ChannelStatus)
    (reason : Option String) (now : Instant) :
    (t.setStatus id status reason).2 =
      rewritten now (fun i => if id = i then some (status, reason) else none)
        (fun _ => none) t := by
  simp only [ChannelTable.setStatus, ChannelTable.modify, rewritten, ChannelTable.mk.injEq]
  refine List.map_congr_left fun row _ => ?_
  by_cases h : row.id = id
  · simp [h, written]
  · simp [h, Ne.symm h]

theorem setResponseTime_eq_rewritten (t : ChannelTable) (id ms : Int) (now : Instant) :
    t.setResponseTime id ms now =
      rewritten now (fun _ => none) (fun i => if id = i then some ms else none) t := by
  simp only [ChannelTable.setResponseTime, ChannelTable.modify, rewritten, ChannelTable.mk.injEq]
  refine List.map_congr_left fun row _ => ?_
  by_cases h : row.id = id
  · simp [h, written]
  · simp [h, Ne.symm h]

structure Agree (m m' : Monitor σ) : Prop where
  store : m'.store = m.store
  notices : m'.notices = m.notices
  world : m'.world = m.world

theorem after_agree (m : Monitor σ) (ms : Nat) (job : Job) : Agree m (m.after ms job) := by
  unfold after
  split <;> exact ⟨rfl, rfl, rfl⟩

theorem start_agree (m : Monitor σ) (notifies : Bool) (waiter : Option Nat) :
    Agree m (m.start notifies waiter).2 := by
  cases hrunning : m.running with
  | true =>
      rw [start_of_running hrunning]
      exact ⟨rfl, rfl, rfl⟩
  | false =>
      cases hlist : m.store.list with
      | error e =>
          rw [start_of_list_error hrunning hlist]
          exact ⟨rfl, rfl, rfl⟩
      | ok channels =>
          rw [start_of_list hrunning hlist]
          exact ⟨rfl, rfl, rfl⟩

theorem trigger_agree (m : Monitor σ) (minutes : Nat) : Agree m (m.trigger minutes) := by
  cases hrunning : m.running with
  | true =>
      simp only [trigger, start_of_running hrunning]
      exact after_agree _ _ _
  | false =>
      cases hlist : m.store.list with
      | error e =>
          simp only [trigger, start_of_list_error hrunning hlist]
          exact after_agree _ _ _
      | ok channels =>
          simp only [trigger, start_of_list hrunning hlist]
          exact ⟨rfl, rfl, rfl⟩

theorem finish_store (m : Monitor σ) (b : Batch) (completed : Bool) :
    (m.finish b completed).store = m.store := by
  unfold finish
  cases b.waiter <;> (dsimp only; split <;> rfl)

theorem finish_world (m : Monitor σ) (b : Batch) (completed : Bool) :
    (m.finish b completed).world = m.world := by
  unfold finish
  cases b.waiter <;> (dsimp only; split <;> rfl)

theorem finish_notices (m : Monitor σ) (b : Batch) (completed : Bool) :
    (m.finish b completed).notices =
      m.notices ++ if completed && b.notifies then [Notice.allTested] else [] := by
  unfold finish
  cases b.waiter <;> (dsimp only; split <;> simp [release, notify, spawn])

theorem runDisable_eq (m : Monitor σ) (id : Int) (name reason : String) :
    m.runDisable id name reason =
      if m.store.outage.status then m
      else { m.order id .autoDisabled (some reason) with
        notices := m.notices ++
          if (m.store.table.find? id).isSome then [.disabled id name reason] else [] } := by
  unfold runDisable ChannelStore.setStatus
  cases m.store.outage.status with
  | true => rfl
  | false => cases h : m.store.table.find? id <;> simp [ChannelTable.setStatus, h, notify, order]

theorem runEnable_eq (m : Monitor σ) (id : Int) (name : String) :
    m.runEnable id name =
      if m.store.outage.status then m
      else { m.order id .enabled none with
        notices := m.notices ++
          if (m.store.table.find? id).isSome then [.enabled id name] else [] } := by
  unfold runEnable ChannelStore.setStatus
  cases m.store.outage.status with
  | true => rfl
  | false => cases h : m.store.table.find? id <;> simp [ChannelTable.setStatus, h, notify, order]

theorem recordTime_store (m : Monitor σ) (id ms : Int) :
    (m.recordTime id ms).store =
      if m.store.outage.time then m.store
      else { m.store with table := m.store.table.setResponseTime id ms m.now } := rfl

/-! ## Rows -/

private theorem recordTime_table (m : Monitor σ) (id ms : Int) :
    (m.recordTime id ms).store.table =
      rewritten m.now (fun _ => none)
        (fun i => if m.store.outage.time then none else if id = i then some ms else none)
        m.store.table := by
  rw [recordTime_store]
  cases m.store.outage.time with
  | true => simp [rewritten_none]
  | false => exact setResponseTime_eq_rewritten _ _ _ _

theorem runJob_table (s : HealthSettings) (probe : Probe σ) (m : Monitor σ) (job : Job) :
    (runJob s probe m job).store.table =
      rewritten m.now
        (fun id => if m.store.outage.status then none else statusWritten? id job)
        (fun id => if m.store.outage.time then none else timeWritten? s id job)
        m.store.table := by
  cases job with
  | disable i name reason =>
      simp only [runJob, runDisable_eq, statusWritten?, timeWritten?, ite_self]
      cases m.store.outage.status with
      | true => simp [rewritten_none]
      | false => exact setStatus_eq_rewritten _ _ _ _ _
  | enable i name =>
      simp only [runJob, runEnable_eq, statusWritten?, timeWritten?, ite_self]
      cases m.store.outage.status with
      | true => simp [rewritten_none]
      | false => exact setStatus_eq_rewritten _ _ _ _ _
  | recordTime i ms =>
      simp only [runJob, statusWritten?, timeWritten?, ite_self]
      exact recordTime_table m i ms
  | testNext b =>
      obtain ⟨rest, notifies, waiter⟩ := b
      simp only [runJob, statusWritten?, timeWritten?, ite_self, rewritten_none]
      cases rest with
      | nil => simp [testNext, finish_store]
      | cons c rest => simp [testNext_cons, (after_agree _ _ _).store]
  | tested b c result =>
      simp only [runJob, statusWritten?, timeWritten?, ite_self]
      cases h : judged? s c result with
      | none => simp [tested_of_none h, finish_store, rewritten_none]
      | some judged =>
          rw [tested_of_some h, (after_agree _ _ _).store]
          exact recordTime_table _ c.id (keptMs judged.1)
  | await minutes =>
      simp [runJob, statusWritten?, timeWritten?, await, (after_agree _ _ _).store,
        rewritten_none]
  | trigger minutes =>
      simp [runJob, statusWritten?, timeWritten?, (trigger_agree _ _).store, rewritten_none]

theorem Next.table {event : Event} (h : Next s probe m event m₁) :
    m₁.store.table =
      rewritten m.now (event.status? ·) (event.time? s ·) m.store.table := by
  cases h with
  | turn outage hready => exact runJob_table s probe _ _
  | alarm htimers => simp [Event.status?, Event.time?, ring, rewritten_none]
  | start notifies outage =>
      simp [Event.status?, Event.time?, (start_agree _ _ _).store, under, rewritten_none]
  | order i status reason => exact setStatus_eq_rewritten _ _ _ _ _

theorem Next.find? {event : Event} (h : Next s probe m event m₁) (id : Int) :
    m₁.store.table.find? id =
      (m.store.table.find? id).map (written m.now (event.status? id) (event.time? s id)) := by
  rw [h.table, find?_rewritten]

theorem Next.ordered {event : Event} (h : Next s probe m event m₁)
    (ht : m.store.table.Ordered) : m₁.store.table.Ordered := by
  rw [h.table]
  exact ordered_rewritten ht

theorem Runs.ordered {events : List Event} (h : Runs s probe m events m₁)
    (ht : m.store.table.Ordered) : m₁.store.table.Ordered := by
  induction h with
  | refl => exact ht
  | next first _ ih => exact ih (first.ordered ht)

/-- The last thing that the events say. -/
def latest {α : Type} (read : Event → Option α) (events : List Event) : Option α :=
  (events.filterMap read).getLast?

theorem latest_cons {α : Type} (read : Event → Option α) (event : Event) (events : List Event) :
    latest read (event :: events) = (latest read events).or (read event) := by
  unfold latest
  cases h : read event with
  | none => simp [h]
  | some a =>
      simp only [List.filterMap_cons, h, List.getLast?_cons]
      cases (events.filterMap read).getLast? <;> rfl

/-- A run leaves a row with the last status and the last time that were written. -/
theorem Runs.find? {events : List Event} (h : Runs s probe m events m₁) (id : Int) :
    ∃ now, m₁.store.table.find? id =
      (m.store.table.find? id).map
        (written now (latest (·.status? id) events) (latest (·.time? s id) events)) := by
  induction h with
  | refl m => exact ⟨m.now, by simp [latest]⟩
  | @next m m₁ m₂ event events first _ ih =>
      obtain ⟨now, hrest⟩ := ih
      refine ⟨if (latest (·.time? s id) events).isSome then now else m.now, ?_⟩
      rw [hrest, first.find? id, Option.map_map]
      congr 1
      funext row
      rw [latest_cons, latest_cons]
      exact written_written _ _ _ _ _ _ _

theorem Runs.isSome_find? {events : List Event} (h : Runs s probe m events m₁) (id : Int) :
    (m₁.store.table.find? id).isSome = (m.store.table.find? id).isSome := by
  obtain ⟨now, hrow⟩ := h.find? id
  simp [hrow]

def statusOf (m : Monitor σ) (id : Int) : Option ChannelStatus :=
  (m.store.table.find? id).map fun row => .ofNumber row.status

def timeOf (m : Monitor σ) (id : Int) : Option Int :=
  (m.store.table.find? id).map (·.responseTimeMs)

def Knows (m : Monitor σ) (id : Int) : Bool :=
  (m.store.table.find? id).isSome

/-- What an event tells the operator, given which channels there are. -/
def Event.notices (knows : Int → Bool) : Event → List Notice
  | .turn (.disable id name reason) outage =>
    if outage.status || !knows id then [] else [.disabled id name reason]
  | .turn (.enable id name) outage =>
    if outage.status || !knows id then [] else [.enabled id name]
  | .turn (.testNext b) _ => if b.rest.isEmpty && b.notifies then [.allTested] else []
  | _ => []

theorem Next.knows {event : Event} (h : Next s probe m event m₁) : m₁.Knows = m.Knows := by
  funext id
  simp [Knows, h.find? id]

theorem runJob_notices (s : HealthSettings) (probe : Probe σ) (m : Monitor σ) (job : Job) :
    (runJob s probe m job).notices =
      m.notices ++ (Event.turn job m.store.outage).notices m.Knows := by
  cases job with
  | disable id name reason =>
      simp only [runJob, runDisable_eq, Event.notices, Knows]
      cases m.store.outage.status with
      | true => simp
      | false => by_cases h : (m.store.table.find? id).isSome <;> simp [h]
  | enable id name =>
      simp only [runJob, runEnable_eq, Event.notices, Knows]
      cases m.store.outage.status with
      | true => simp
      | false => by_cases h : (m.store.table.find? id).isSome <;> simp [h]
  | recordTime id ms => simp [runJob, recordTime, Event.notices]
  | testNext b =>
      obtain ⟨rest, notifies, waiter⟩ := b
      cases rest with
      | nil => simp [runJob, testNext, finish_notices, Event.notices]
      | cons c rest => simp [runJob, testNext_cons, (after_agree _ _ _).notices, Event.notices]
  | tested b c result =>
      cases h : judged? s c result with
      | none => simp [runJob, tested_of_none h, finish_notices, Event.notices]
      | some judged =>
          simp only [runJob, tested_of_some h, (after_agree _ _ _).notices, Event.notices]
          simp [recordTime]
  | await minutes => simp [runJob, await, (after_agree _ _ _).notices, Event.notices]
  | trigger minutes => simp [runJob, (trigger_agree _ _).notices, Event.notices]

theorem Next.notices {event : Event} (h : Next s probe m event m₁) :
    m₁.notices = m.notices ++ event.notices m.Knows := by
  cases h with
  | turn outage hready => exact runJob_notices s probe _ _
  | alarm htimers => simp [Event.notices, ring]
  | start notifies outage => simp [Event.notices, (start_agree _ _ _).notices, under]
  | order i status reason => simp [Event.notices, Monitor.order]

theorem Runs.notices {events : List Event} (h : Runs s probe m events m₁) :
    m₁.notices = m.notices ++ events.flatMap (·.notices m.Knows) := by
  induction h with
  | refl => simp
  | next first _ ih => rw [ih, first.notices, first.knows, List.flatMap_cons, List.append_assoc]

def logged (probe : Probe σ) : Probe (List Channel × σ) := fun c model kind world =>
  ((probe c model kind world.2).1, world.1 ++ [c], (probe c model kind world.2).2)

def Event.probed? : Event → Option Channel
  | .turn (.testNext b) _ => b.rest.head?
  | _ => none

theorem Next.log {m m₁ : Monitor (List Channel × σ)} {event : Event}
    (h : Next s (logged probe) m event m₁) :
    m₁.world.1 = m.world.1 ++ event.probed?.toList := by
  cases h with
  | @turn before after job outage hready =>
      cases job with
      | disable id name reason =>
          simp only [runJob, runDisable_eq, Event.probed?]
          split <;> simp [under, Monitor.order]
      | enable id name =>
          simp only [runJob, runEnable_eq, Event.probed?]
          split <;> simp [under, Monitor.order]
      | recordTime id ms => simp [runJob, recordTime, under, Event.probed?]
      | testNext b =>
          obtain ⟨rest, notifies, waiter⟩ := b
          cases rest with
          | nil => simp [runJob, testNext, finish_world, Event.probed?, under]
          | cons c rest =>
              simp [runJob, testNext_cons, (after_agree _ _ _).world, Event.probed?, logged, under]
      | tested b c result =>
          cases hjudged : judged? s c result with
          | none => simp [runJob, tested_of_none hjudged, finish_world, Event.probed?, under]
          | some judged =>
              simp only [runJob, tested_of_some hjudged, (after_agree _ _ _).world,
                Event.probed?]
              simp [recordTime, under]
      | await minutes => simp [runJob, await, (after_agree _ _ _).world, Event.probed?, under]
      | trigger minutes => simp [runJob, (trigger_agree _ _).world, Event.probed?, under]
  | alarm htimers => simp [Event.probed?, ring]
  | start notifies outage => simp [Event.probed?, (start_agree _ _ _).world, under]
  | order i status reason => simp [Event.probed?, Monitor.order]

theorem Runs.log {m m₁ : Monitor (List Channel × σ)} {events : List Event}
    (h : Runs s (logged probe) m events m₁) :
    m₁.world.1 = m.world.1 ++ events.filterMap Event.probed? := by
  induction h with
  | refl => simp
  | @next m m₁ m₂ event events first _ ih =>
      rw [ih, first.log, List.append_assoc]
      cases hprobed : event.probed? <;> simp [hprobed]

end ModelGateway.Monitor
