import Mathlib.Algebra.Group.Nat.Defs
import ModelGateway.Proofs.Health.Completion

/-!
# The effect of a batch

What holds of a batch from its start until nothing is left to be done, for every pool of channels,
every result of the probes, every order of the turns and every pattern of failing writes.
-/

namespace ModelGateway.Monitor

open Policy (verdict)

variable {σ : Type} {s : HealthSettings} {probe : Probe σ} {outcome : Int → TestResult}
  {result : Int → Option TestResult} {notifies : Bool} {channels : List Channel}
  {events : List Event} {m m₁ m₂ : Monitor σ}

/-! ## Whole batches -/

/-- A batch starts, and it and all that it spawns run until nothing is left, while nobody else
writes. -/
structure Completes (s : HealthSettings) (probe : Probe σ) (notifies : Bool) (m : Monitor σ)
    (events : List Event) (m₁ : Monitor σ) : Prop where
  alone : m.Quiet
  starts : ∃ outage, ((m.under outage).start notifies none).1 = .ok () ∧
    Runs s probe ((m.under outage).start notifies none).2 events m₁
  own : ∀ event ∈ events, event.isOwn
  ended : m₁.Quiet

def began (m : Monitor σ) (outage : Outage) (notifies : Bool) (channels : List Channel) :
    Monitor σ :=
  { m.under outage with running := true }.spawn (.testNext ⟨channels, notifies, none⟩)

theorem inFlight_began (h : m.Quiet) (outage : Outage) :
    (m.began outage notifies channels).inFlight = [.testNext ⟨channels, notifies, none⟩] := by
  simp [inFlight, began, spawn, under, h.1, h.2]

theorem onlyBatch_began (h : m.Quiet) (outage : Outage) :
    OnlyBatch result (m.began outage notifies channels) := by
  intro job hjob
  rw [inFlight_began h, List.mem_singleton] at hjob
  subst hjob
  exact rfl

theorem start_under_of_list {outage : Outage} (hrunning : m.running = false)
    (houtage : outage.list = false) (hlist : m.store.table.list = .ok channels) :
    (m.under outage).start notifies none = (.ok (), m.began outage notifies channels) := by
  have hstore : (m.under outage).store.list = .ok channels := by
    simp [ChannelStore.list, under, houtage, hlist]
  exact start_of_list (m := m.under outage) hrunning hstore notifies none

theorem Completes.runs (h : Completes s probe notifies m events m₁)
    (hlist : m.store.table.list = .ok channels) :
    ∃ outage, Runs s probe (m.began outage notifies channels) events m₁ := by
  obtain ⟨outage, hok, hruns⟩ := h.starts
  refine ⟨outage, ?_⟩
  cases hrunning : m.running with
  | true =>
      rw [start_of_running (show (m.under outage).running = true from hrunning)] at hok
      contradiction
  | false =>
      cases houtage : outage.list with
      | true =>
          have hstore : (m.under outage).store.list = .error (ChannelStore.offline "list") := by
            simp [ChannelStore.list, under, houtage]
          rw [start_of_list_error (show (m.under outage).running = false from hrunning) hstore]
            at hok
          contradiction
      | false => rwa [start_under_of_list hrunning houtage hlist] at hruns

theorem Completes.exists_list (h : Completes s probe notifies m events m₁) :
    ∃ channels, m.store.table.list = .ok channels := by
  obtain ⟨outage, hok, -⟩ := h.starts
  cases hlist : m.store.table.list with
  | ok channels => exact ⟨channels, rfl⟩
  | error e =>
      have hstore : ∃ e, (m.under outage).store.list = .error e := by
        cases houtage : outage.list <;> simp [ChannelStore.list, under, houtage, hlist]
      obtain ⟨e', hstore⟩ := hstore
      cases hrunning : m.running with
      | true =>
          rw [start_of_running (show (m.under outage).running = true from hrunning)] at hok
          contradiction
      | false =>
          rw [start_of_list_error (show (m.under outage).running = false from hrunning) hstore]
            at hok
          contradiction

/-- No operation of the store fails. -/
def Event.smooth : Event → Bool
  | .turn _ outage => outage == {}
  | .alarm _ => true
  | _ => false

theorem Event.isOwn_of_smooth {event : Event} (h : event.smooth) : event.isOwn := by
  cases event <;> simp_all [Event.smooth, Event.isOwn]

theorem statusFails_of_smooth (h : ∀ event ∈ events, event.smooth) (id : Int) :
    statusFails id events = false := by
  unfold statusFails
  rw [List.contains_eq_mem, decide_eq_false_iff_not, List.mem_filterMap]
  rintro ⟨event, hevent, hattempt⟩
  have hsmooth := h event hevent
  cases event <;> simp_all [Event.smooth, Event.statusAttempt?]

theorem timeFails_of_smooth (h : ∀ event ∈ events, event.smooth) (id : Int) :
    timeFails s id events = false := by
  unfold timeFails
  rw [List.contains_eq_mem, decide_eq_false_iff_not, List.mem_filterMap]
  rintro ⟨event, hevent, hattempt⟩
  have hsmooth := h event hevent
  cases event <;> simp_all [Event.smooth, Event.timeAttempt?]

theorem exists_runs_quiet (hresults : Results probe result) (hbatch : OnlyBatch result m) :
    ∃ events m₁, Runs s probe m events m₁ ∧ (∀ event ∈ events, event.smooth) ∧ m₁.Quiet := by
  -- The jobs that still stem from what is in flight get fewer with every turn.
  induction hsize : (m.inFlight.flatMap (lineage s result)).length using Nat.strongRecOn
    generalizing m with
  | ind size ih =>
      have hturn : ∀ (m' : Monitor σ), OnlyBatch result m' →
          (m'.inFlight.flatMap (lineage s result)).length = size → m'.ready ≠ [] →
          ∃ events m₁, Runs s probe m' events m₁ ∧ (∀ event ∈ events, event.smooth) ∧
            m₁.Quiet := by
        intro m' hbatch' hsize' hready
        obtain ⟨job, rest, hready⟩ := List.exists_cons_of_ne_nil hready
        have hnext := @Next.turn σ s probe m' [] rest job {} hready
        obtain ⟨hbatch₁, hperm⟩ := hnext.lineage_perm rfl hresults hbatch'
        have hlength := hperm.length_eq
        simp only [Event.turn?, Option.toList_some, List.map_cons, List.map_nil,
          List.singleton_append, List.length_cons] at hlength
        obtain ⟨events, m₁, hruns, hsmooth, hquiet⟩ := ih _ (by omega) hbatch₁ rfl
        refine ⟨_, m₁, .next hnext hruns, ?_, hquiet⟩
        exact List.forall_mem_cons.mpr ⟨rfl, hsmooth⟩
      by_cases hready : m.ready = []
      · cases htimers : m.timers with
        | nil => exact ⟨[], m, .refl m, by simp, hready, htimers⟩
        | cons timer rest =>
            have hnext := @Next.alarm σ s probe m [] rest timer htimers
            obtain ⟨hbatch₁, hperm⟩ := hnext.lineage_perm rfl hresults hbatch
            obtain ⟨events, m₁, hruns, hsmooth, hquiet⟩ :=
              hturn _ hbatch₁ (hperm.length_eq.trans hsize) (by simp [ring])
            refine ⟨_, m₁, .next hnext hruns, ?_, hquiet⟩
            exact List.forall_mem_cons.mpr ⟨rfl, hsmooth⟩
      · exact hturn m hbatch hsize hready

theorem exists_completes (hresults : Results probe result) (hquiet : m.Quiet)
    (hrunning : m.running = false) (hlist : m.store.table.list = .ok channels) (notifies : Bool) :
    ∃ events m₁, Completes s probe notifies m events m₁ ∧ ∀ event ∈ events, event.smooth := by
  have hstart : (m.under {}).start notifies none = (.ok (), m.began {} notifies channels) :=
    start_under_of_list hrunning rfl hlist
  obtain ⟨events, m₁, hruns, hsmooth, hended⟩ :=
    exists_runs_quiet hresults (onlyBatch_began hquiet {})
  refine ⟨events, m₁, ⟨hquiet, ⟨{}, ?_, ?_⟩, ?_, hended⟩, hsmooth⟩
  · rw [hstart]
  · rw [hstart]
    exact hruns
  · exact fun event hevent => Event.isOwn_of_smooth (hsmooth event hevent)

/-! ## Rows, notices and probes -/

section

variable (hresults : Results probe result) (hordered : m.store.table.Ordered)
  (hlist : m.store.table.list = .ok channels)
  (hcomplete : Completes s probe notifies m events m₁)
include hresults hordered hlist hcomplete

theorem Completes.turns_perm : ∃ outage : Job → Outage,
    (turns events).Perm
      ((batchJobs s result notifies channels).map fun job => (job, outage job)) := by
  obtain ⟨outage, hruns⟩ := hcomplete.runs hlist
  exact hruns.turns_perm hcomplete.own hresults (hordered.pairwise_of_list hlist)
    (inFlight_began hcomplete.alone outage) hcomplete.ended

theorem Completes.row_of_reached {c : Channel} (hc : c ∈ reached s result channels)
    {r : TestResult} {v : Verdict} (hjudged : judged? s c (result c.id) = some (r, v)) :
    ∃ now, m₁.store.table.find? c.id = (m.store.table.find? c.id).map
      (written now (statusBy? s v events c) (timeBy? s r events c)) := by
  obtain ⟨outage, hturns⟩ := Completes.turns_perm hresults hordered hlist hcomplete
  obtain ⟨b, hsaid⟩ :=
    says_of_reached hcomplete.own (hordered.pairwise_of_list hlist) hturns hc
  rw [sequel_of_judged hjudged] at hsaid
  obtain ⟨start, hruns⟩ := hcomplete.runs hlist
  obtain ⟨now, hfind⟩ := hruns.find? c.id
  rw [hsaid.statuses.1, hsaid.times hjudged] at hfind
  exact ⟨now, hfind⟩

theorem Completes.statusOf_of_reached {c : Channel} (hc : c ∈ reached s result channels)
    {r : TestResult} {v : Verdict} (hjudged : judged? s c (result c.id) = some (r, v)) :
    m₁.statusOf c.id = some (if statusFails c.id events then c.status else decided s c v) := by
  obtain ⟨row, hrow, hread⟩ := hordered.find?_of_list hlist ((reached_isPrefix channels).subset hc)
  obtain ⟨now, hfind⟩ := Completes.row_of_reached hresults hordered hlist hcomplete hc hjudged
  have hstatus := ChannelRow.status_of_channel? hread
  rw [statusOf, hfind, hrow, Option.map_some, Option.map_some, status_written, statusBy?]
  cases statusFails c.id events with
  | true => simp [hstatus]
  | false =>
      by_cases hdue : decided s c v = c.status
      · simp [hdue, hstatus]
      · simp [hdue, ChannelStatus.ofNumber_number]

theorem Completes.timeOf_of_reached {c : Channel} (hc : c ∈ reached s result channels)
    {r : TestResult} {v : Verdict} (hjudged : judged? s c (result c.id) = some (r, v)) :
    m₁.timeOf c.id = some (if timeFails s c.id events then c.responseTimeMs else keptMs r) := by
  obtain ⟨row, hrow, hread⟩ := hordered.find?_of_list hlist ((reached_isPrefix channels).subset hc)
  obtain ⟨now, hfind⟩ := Completes.row_of_reached hresults hordered hlist hcomplete hc hjudged
  have htime := ChannelRow.responseTimeMs_of_channel? hread
  rw [timeOf, hfind, hrow, Option.map_some, Option.map_some, responseTimeMs_written, htime,
    getD_timeBy?]

theorem Completes.probed : events.filterMap Event.probed? = reached s result channels := by
  obtain ⟨outage, hturns⟩ := Completes.turns_perm hresults hordered hlist hcomplete
  obtain ⟨start, hruns⟩ := hcomplete.runs hlist
  have hbegins : events.filterMap Event.probed? <+: channels := by
    refine hruns.probed_isPrefix hcomplete.own hresults (onlyBatch_began hcomplete.alone start) ?_
    refine .inl ?_
    rw [inFlight_began hcomplete.alone]
    rfl
  have hperm : (events.filterMap Event.probed?).Perm _ :=
    filterMap_events_perm hcomplete.own hturns fun _ => rfl
  rw [filterMap_probed?_batchJobs] at hperm
  exact (List.prefix_of_prefix_length_le hbegins (reached_isPrefix channels)
    (Nat.le_of_eq hperm.length_eq)).eq_of_length hperm.length_eq

theorem Completes.notices_perm : ∃ sent, m₁.notices = m.notices ++ sent ∧
    sent.Perm (((reached s result channels).flatMap fun c =>
      match judged? s c (result c.id) with
      | none => []
      | some (_, v) => told s v events c) ++
      if ∃ c ∈ channels, Crashes s result c then [] else completion notifies) := by
  have hids := hordered.pairwise_of_list hlist
  obtain ⟨outage, hturns⟩ := Completes.turns_perm hresults hordered hlist hcomplete
  obtain ⟨start, hruns⟩ := hcomplete.runs hlist
  refine ⟨_, hruns.notices, (flatMap_notices_perm hcomplete.own hturns _).trans (.of_eq ?_)⟩
  rw [notices_of_batchJobs]
  refine congrArg (· ++ _) (List.flatMap_congr fun c hc => ?_)
  obtain ⟨row, hrow, -⟩ := hordered.find?_of_list hlist ((reached_isPrefix channels).subset hc)
  obtain ⟨b, hsaid⟩ := says_of_reached hcomplete.own hids hturns hc
  have hknows : (m.began start notifies channels).Knows c.id = true :=
    Option.isSome_of_eq_some hrow
  cases hjudged : judged? s c (result c.id) with
  | none =>
      rw [sequel_of_crashes hjudged]
      rfl
  | some found =>
      rw [sequel_of_judged hjudged] at hsaid ⊢
      exact hsaid.notices hknows

end

section

variable (hthreshold : s.threshold ≠ .unrepresentable) (hbrings : Brings probe outcome)
  (hordered : m.store.table.Ordered) (hlist : m.store.table.list = .ok channels)
  (hcomplete : Completes s probe notifies m events m₁)
include hthreshold hbrings hordered hlist hcomplete

/-- Each row is left with what the verdict decides and with the time of the test. -/
theorem Completes.rows {c : Channel} (hc : c ∈ channels) :
    ∃ now row, m.store.table.find? c.id = some row ∧ row.channel? = some c ∧
      m₁.store.table.find? c.id =
        some (written now (statusLeft? s outcome events c) (timeLeft? s outcome events c) row) := by
  obtain ⟨row, hrow, hread⟩ := hordered.find?_of_list hlist hc
  have hreached : c ∈ reached s (fun id => some (outcome id)) channels := by
    rwa [reached_outcome hthreshold]
  obtain ⟨now, hfind⟩ := Completes.row_of_reached hbrings.results hordered hlist hcomplete hreached
    (judged?_outcome hthreshold c _)
  exact ⟨now, row, hrow, hread, hfind.trans (congrArg (Option.map _) hrow)⟩

theorem Completes.notices : ∃ sent, m₁.notices = m.notices ++ sent ∧
    sent.Perm (changeNotices s outcome events channels ++ completion notifies) := by
  obtain ⟨sent, hsent, hperm⟩ :=
    Completes.notices_perm hbrings.results hordered hlist hcomplete
  refine ⟨sent, hsent, hperm.trans (.of_eq ?_)⟩
  have hnone : ¬ ∃ c ∈ channels, Crashes s (fun id => some (outcome id)) c :=
    fun ⟨c, _, hcrash⟩ => not_crashes_outcome hthreshold c hcrash
  rw [reached_outcome hthreshold, if_neg hnone, changeNotices, List.filterMap_eq_flatMap_toList]
  refine congrArg (· ++ _) (List.flatMap_congr fun c _ => ?_)
  rw [judged?_outcome hthreshold]
  change told s _ events c = _
  unfold told statusLeft? due
  split <;> rfl

theorem Completes.statusOf_eq {c : Channel} (hc : c ∈ channels) :
    m₁.statusOf c.id =
      some (if statusFails c.id events then c.status else due s outcome c) := by
  have hreached : c ∈ reached s (fun id => some (outcome id)) channels := by
    rwa [reached_outcome hthreshold]
  exact Completes.statusOf_of_reached hbrings.results hordered hlist hcomplete hreached
    (judged?_outcome hthreshold c _)

theorem Completes.timeOf_eq {c : Channel} (hc : c ∈ channels) :
    m₁.timeOf c.id =
      some (if timeFails s c.id events then c.responseTimeMs else keptMs (outcome c.id)) := by
  have hreached : c ∈ reached s (fun id => some (outcome id)) channels := by
    rwa [reached_outcome hthreshold]
  exact Completes.timeOf_of_reached hbrings.results hordered hlist hcomplete hreached
    (judged?_outcome hthreshold c _)

theorem Completes.listed {channels' : List Channel} {c' : Channel}
    (hlist' : m₁.store.table.list = .ok channels') (hc' : c' ∈ channels') :
    ∃ c ∈ channels, c'.id = c.id ∧ c'.provider = c.provider ∧ c'.autoBan = c.autoBan ∧
      c'.status = if statusFails c.id events then c.status else due s outcome c := by
  obtain ⟨start, hruns⟩ := hcomplete.runs hlist
  obtain ⟨row', hrow', hread'⟩ :=
    (hruns.ordered (show (m.began start notifies channels).store.table.Ordered from hordered)
      ).find?_of_list hlist' hc'
  have hknown : (m.store.table.find? c'.id).isSome := by
    have hsame := hruns.isSome_find? c'.id
    rw [hrow'] at hsame
    exact hsame.symm
  obtain ⟨row, hrow⟩ := Option.isSome_iff_exists.mp hknown
  obtain ⟨c, hc, hid, hread⟩ := ChannelTable.exists_of_find?_of_list hlist hrow
  refine ⟨c, hc, hid.symm, ?_⟩
  have hstatus := Completes.statusOf_eq hthreshold hbrings hordered hlist hcomplete hc
  obtain ⟨now, row₀, hrow₀, -, hrow₁⟩ :=
    Completes.rows hthreshold hbrings hordered hlist hcomplete hc
  obtain rfl : row₀ = row := Option.some.inj (hrow₀.symm.trans (hid ▸ hrow))
  rw [hid] at hrow₁ hstatus
  rw [hrow'] at hrow₁
  rw [statusOf, hrow', Option.map_some, ← ChannelRow.status_of_channel? hread'] at hstatus
  obtain rfl := Option.some.inj hrow₁
  rw [written, ChannelRow.channel?_measured hread] at hread'
  obtain rfl := Option.some.inj hread'
  exact ⟨rfl, rfl, hid ▸ Option.some.inj hstatus⟩

end

theorem keptMs_of_lt {r : TestResult} (h : elapsedMs r < 2 ^ 63) : keptMs r = elapsedMs r := by
  unfold keptMs
  exact Int.bmod_eq_of_le (by omega) (by simp only [UInt64.size]; omega)

/-- What a batch leaves behind, given which of its writes failed. -/
structure Effect (s : HealthSettings) (outcome : Int → TestResult) (notifies : Bool)
    (channels : List Channel) (events : List Event) (m m₁ : Monitor (List Channel × σ)) :
    Prop where
  ascending : channels.Pairwise (·.id < ·.id)
  probes : m₁.world.1 = m.world.1 ++ channels
  statuses : ∀ c ∈ channels, m₁.statusOf c.id =
    some (if statusFails c.id events then c.status else due s outcome c)
  times : ∀ c ∈ channels, m₁.timeOf c.id =
    some (if timeFails s c.id events then c.responseTimeMs else keptMs (outcome c.id))
  elapsed : ∀ c ∈ channels, timeFails s c.id events = false → elapsedMs (outcome c.id) < 2 ^ 63 →
    m₁.timeOf c.id = some (elapsedMs (outcome c.id) : Int)
  rows : ∀ c ∈ channels, ∃ now row, m.store.table.find? c.id = some row ∧
    row.channel? = some c ∧ m₁.store.table.find? c.id =
      some (written now (statusLeft? s outcome events c) (timeLeft? s outcome events c) row)
  notices : ∃ sent, m₁.notices = m.notices ++ sent ∧
    sent.Perm (changeNotices s outcome events channels ++ completion notifies)

section

variable {m m₁ : Monitor (List Channel × σ)}

theorem Completes.effect (hthreshold : s.threshold ≠ .unrepresentable)
    (hbrings : Brings probe outcome) (hordered : m.store.table.Ordered)
    (hlist : m.store.table.list = .ok channels)
    (hcomplete : Completes s (logged probe) notifies m events m₁) :
    Effect s outcome notifies channels events m m₁ where
  ascending := hordered.pairwise_of_list hlist
  probes := by
    obtain ⟨outage, hruns⟩ := hcomplete.runs hlist
    rw [hruns.log, Completes.probed hbrings.logged.results hordered hlist hcomplete,
      reached_outcome hthreshold]
    rfl
  statuses _ hc := Completes.statusOf_eq hthreshold hbrings.logged hordered hlist hcomplete hc
  times _ hc := Completes.timeOf_eq hthreshold hbrings.logged hordered hlist hcomplete hc
  elapsed c hc hwritten hlt := by
    rw [Completes.timeOf_eq hthreshold hbrings.logged hordered hlist hcomplete hc, hwritten,
      keptMs_of_lt hlt]
    rfl
  rows _ hc := Completes.rows hthreshold hbrings.logged hordered hlist hcomplete hc
  notices := Completes.notices hthreshold hbrings.logged hordered hlist hcomplete

end

theorem Completes.due_of_list (hthreshold : s.threshold ≠ .unrepresentable)
    (hbrings : Brings probe outcome) (hordered : m.store.table.Ordered)
    (hlist : m.store.table.list = .ok channels)
    (hcomplete : Completes s probe notifies m events m₁)
    (hwritten : ∀ c ∈ channels, statusFails c.id events = false) {channels' : List Channel}
    (hlist' : m₁.store.table.list = .ok channels') {c' : Channel} (hc' : c' ∈ channels') :
    due s outcome c' = c'.status := by
  obtain ⟨c, hc, hid, hprovider, hban, hstatus⟩ :=
    Completes.listed hthreshold hbrings hordered hlist hcomplete hlist' hc'
  have hverdict : verdict s c' (outcome c'.id) = verdict s c (outcome c.id) := by
    rw [hid]
    exact Policy.verdict_congr hprovider
  rw [hwritten c hc] at hstatus
  rw [due, hverdict]
  refine decided_decided (fun hbans => ?_) hstatus hban
  exact Policy.isSome_failure_of_ban (Policy.judge?_eq_verdict hthreshold c _) hbans

/-- A batch with the same results as the one before it changes no status and tells of none. -/
theorem Completes.again (hthreshold : s.threshold ≠ .unrepresentable)
    (hbrings : Brings probe outcome) (hordered : m.store.table.Ordered)
    (hlist : m.store.table.list = .ok channels)
    (hcomplete : Completes s probe notifies m events m₁)
    (hwritten : ∀ c ∈ channels, statusFails c.id events = false) {probe' : Probe σ}
    {notifies' : Bool} {events' : List Event} (hbrings' : Brings probe' outcome)
    (hagain : Completes s probe' notifies' m₁ events' m₂) :
    (∀ id, m₂.statusOf id = m₁.statusOf id) ∧
      m₂.notices = m₁.notices ++ completion notifies' := by
  obtain ⟨channels', hlist'⟩ := hagain.exists_list
  obtain ⟨start, hruns⟩ := hcomplete.runs hlist
  have hordered' : m₁.store.table.Ordered :=
    hruns.ordered (show (m.began start notifies channels).store.table.Ordered from hordered)
  -- The second batch lists the channels as the first has left them, where nothing more is due.
  have hsettled : ∀ c' ∈ channels', due s outcome c' = c'.status := fun c' hc' =>
    Completes.due_of_list hthreshold hbrings hordered hlist hcomplete hwritten hlist' hc'
  constructor
  · intro id
    obtain ⟨start', hruns'⟩ := hagain.runs hlist'
    cases hrow : m₁.store.table.find? id with
    | none =>
        have hsame : (m₂.store.table.find? id).isSome = (m₁.store.table.find? id).isSome :=
          hruns'.isSome_find? id
        rw [hrow, Option.isSome_none, Option.isSome_eq_false_iff, Option.isNone_iff_eq_none]
          at hsame
        simp [statusOf, hrow, hsame]
    | some row =>
        obtain ⟨c', hc', rfl, hread⟩ := ChannelTable.exists_of_find?_of_list hlist' hrow
        rw [Completes.statusOf_eq hthreshold hbrings' hordered' hlist' hagain hc',
          hsettled c' hc', ite_self, statusOf, hrow, ChannelRow.status_of_channel? hread]
        rfl
  · obtain ⟨sent, hsent, hperm⟩ :=
      Completes.notices hthreshold hbrings' hordered' hlist' hagain
    have hnone : changeNotices s outcome events' channels' = [] := by
      refine List.filterMap_eq_nil_iff.mpr fun c' hc' => ?_
      simp [statusLeft?, hsettled c' hc']
    rw [hnone, List.nil_append] at hperm
    rw [hsent]
    unfold completion at hperm ⊢
    cases notifies' with
    | false => rw [List.perm_nil.mp hperm]; rfl
    | true => rw [List.perm_singleton.mp hperm]; rfl

/-! ## The main result -/

/-- From every pool of channels a batch comes to an end, and in whatever order its jobs run it has
its effect.  If every status could be written, a second batch with the same results changes none. -/
theorem batch_effect {m : Monitor (List Channel × σ)} (hthreshold : s.threshold ≠ .unrepresentable)
    (hbrings : Brings probe outcome) (hordered : m.store.table.Ordered)
    (hlist : m.store.table.list = .ok channels) :
    (m.Quiet → m.running = false → ∃ events m₁,
      Completes s (logged probe) notifies m events m₁ ∧ ∀ event ∈ events, event.smooth) ∧
    ∀ events m₁, Completes s (logged probe) notifies m events m₁ →
      Effect s outcome notifies channels events m m₁ ∧
      ((∀ c ∈ channels, statusFails c.id events = false) →
        ∀ probe' notifies' events' m₂, Brings probe' outcome →
          Completes s probe' notifies' m₁ events' m₂ →
          (∀ id, m₂.statusOf id = m₁.statusOf id) ∧
            m₂.notices = m₁.notices ++ completion notifies') := by
  refine ⟨fun hquiet hrunning => ?_, fun events m₁ hcomplete => ⟨?_, ?_⟩⟩
  · exact exists_completes hbrings.logged.results hquiet hrunning hlist notifies
  · exact hcomplete.effect hthreshold hbrings hordered hlist
  · intro hwritten probe' notifies' events' m₂ hbrings' hagain
    exact Completes.again hthreshold hbrings.logged hordered hlist hcomplete hwritten hbrings'
      hagain

def fixed (outcome : Int → TestResult) : Probe Unit := fun c _ _ world =>
  (⟨0, some (outcome c.id)⟩, world)

theorem brings_fixed (outcome : Int → TestResult) : Brings (fixed outcome) outcome :=
  fun _ _ _ _ => rfl

def plainChannel (id : Int) (status : ChannelStatus) : Channel :=
  ⟨id, "", .openai, none, "", "", none, none, "", status, 0, true, none⟩

def pool (channels : List Channel) : Monitor (List Channel × Unit) :=
  { store := { table := ⟨channels.map .ofChannel⟩ }, world := ([], ()) }

def refusedFirst (id : Int) : TestResult :=
  ⟨"", 7000000,
    if id = 1 then some ⟨.badResponseStatus, "", some 401, none, none⟩ else none⟩

theorem list_pool_two (status status' : ChannelStatus) :
    (pool [plainChannel 1 status, plainChannel 2 status']).store.table.list =
      .ok [plainChannel 1 status, plainChannel 2 status'] := by
  cases status <;> cases status' <;> decide +kernel

theorem ordered_pool_two (status status' : ChannelStatus) :
    (pool [plainChannel 1 status, plainChannel 2 status']).store.table.Ordered := by
  simp [ChannelTable.Ordered, pool, ChannelRow.ofChannel, plainChannel]

theorem batch_effect_two_channels :
    ∃ events m₁,
      Completes {} (logged (fixed refusedFirst)) true
        (pool [plainChannel 1 .enabled, plainChannel 2 .autoDisabled]) events m₁ ∧
      m₁.world.1 = [plainChannel 1 .enabled, plainChannel 2 .autoDisabled] ∧
      m₁.statusOf 1 = some .autoDisabled ∧ m₁.statusOf 2 = some .enabled ∧
      m₁.timeOf 1 = some 7 := by
  obtain ⟨hruns, heffect⟩ :=
    @batch_effect Unit {} (fixed refusedFirst) refusedFirst true _ _ (by decide +kernel)
      (brings_fixed refusedFirst) (ordered_pool_two .enabled .autoDisabled)
      (list_pool_two .enabled .autoDisabled)
  obtain ⟨events, m₁, hcomplete, hsmooth⟩ := hruns ⟨rfl, rfl⟩ rfl
  obtain ⟨heffect, -⟩ := heffect events m₁ hcomplete
  refine ⟨events, m₁, hcomplete, heffect.probes, ?_, ?_, ?_⟩
  · have hstatus := heffect.statuses (plainChannel 1 .enabled) (by simp)
    rw [statusFails_of_smooth hsmooth] at hstatus
    exact hstatus.trans (by decide +kernel)
  · have hstatus := heffect.statuses (plainChannel 2 .autoDisabled) (by simp)
    rw [statusFails_of_smooth hsmooth] at hstatus
    exact hstatus.trans (by decide +kernel)
  · exact heffect.elapsed (plainChannel 1 .enabled) (by simp) (timeFails_of_smooth hsmooth 1)
      (by decide)

def endless (_ : Int) : TestResult := ⟨"", 2 ^ 63 * 1000000, none⟩

theorem elapsed_not_kept :
    ∃ events m₁,
      Completes { automaticDisable := false } (logged (fixed endless)) false
        (pool [plainChannel 1 .enabled]) events m₁ ∧
      timeFails { automaticDisable := false } 1 events = false ∧
      elapsedMs (endless 1) = 9223372036854775808 ∧
      m₁.timeOf 1 = some (-9223372036854775808) := by
  have hthreshold : ({ automaticDisable := false } : HealthSettings).threshold ≠
      .unrepresentable := by decide +kernel
  have hlist : (pool [plainChannel 1 .enabled]).store.table.list =
      .ok [plainChannel 1 .enabled] := by decide +kernel
  have hordered : (pool [plainChannel 1 .enabled]).store.table.Ordered :=
    List.pairwise_singleton _ _
  obtain ⟨events, m₁, hcomplete, hsmooth⟩ :=
    exists_completes (brings_fixed endless).logged.results ⟨rfl, rfl⟩ rfl hlist false
  have htime := (hcomplete.effect hthreshold (brings_fixed endless) hordered hlist).times
    (plainChannel 1 .enabled) (List.mem_singleton_self _)
  rw [timeFails_of_smooth hsmooth] at htime
  exact ⟨events, m₁, hcomplete, timeFails_of_smooth hsmooth 1, by decide +kernel,
    htime.trans (by decide +kernel)⟩

end ModelGateway.Monitor
