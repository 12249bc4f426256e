import ModelGateway.Proofs.Health.BatchEffect

/-!
# Failures and the other channels

A test that fails has a verdict like any other, and the other channels are tested as if its channel
were not there.  A test that crashes ends the batch: no channel after it is probed, and each keeps
its status and its time.
-/

namespace ModelGateway.Monitor

variable {σ : Type} {s : HealthSettings} {probe : Probe σ} {result : Int → Option TestResult}
  {notifies : Bool} {channels : List Channel} {events : List Event}

theorem mem_reached_iff (hids : channels.Pairwise (·.id < ·.id)) {c : Channel} :
    c ∈ reached s result channels ↔
      c ∈ channels ∧ ∀ c' ∈ channels, c'.id < c.id → ¬ Crashes s result c' := by
  induction channels with
  | nil => simp [reached]
  | cons first rest ih =>
      obtain ⟨hfirst, hrest⟩ := List.pairwise_cons.mp hids
      replace ih := ih hrest
      rw [reached, List.mem_cons, List.mem_cons, List.forall_mem_cons]
      constructor
      · rintro (rfl | hmem)
        · exact ⟨.inl rfl, fun h => absurd h (Int.lt_irrefl _),
            fun c' hc' hlt => absurd hlt (Int.not_lt.mpr (Int.le_of_lt (hfirst c' hc')))⟩
        · split at hmem
          · contradiction
          next hfirstCrash =>
          obtain ⟨hc, hbefore⟩ := ih.mp hmem
          exact ⟨.inr hc, fun _ => hfirstCrash, hbefore⟩
      · rintro ⟨rfl | hc, hfirstCrash, hbefore⟩
        · exact .inl rfl
        · refine .inr ?_
          rw [if_neg (hfirstCrash (hfirst c hc))]
          exact ih.mpr ⟨hc, hbefore⟩

theorem filter_reached (hids : channels.Pairwise (·.id < ·.id)) {c : Channel}
    (hc : c ∈ reached s result channels) :
    (reached s result channels).filter (·.id = c.id) = [c] := by
  have hpairwise : (reached s result channels).Pairwise (·.id < ·.id) :=
    hids.sublist (reached_isPrefix channels).sublist
  generalize reached s result channels = tested at hc hpairwise
  induction tested with
  | nil => contradiction
  | cons first rest ih =>
      obtain ⟨hfirst, hrest⟩ := List.pairwise_cons.mp hpairwise
      rcases List.mem_cons.mp hc with rfl | hmem
      · have hothers : rest.filter (·.id = c.id) = [] := List.filter_eq_nil_iff.mpr
          fun c' hc' => by simpa using (Int.ne_of_lt (hfirst c' hc')).symm
        simp [hothers]
      · have hne : first.id ≠ c.id := Int.ne_of_lt (hfirst c hmem)
        simpa [hne] using ih hmem hrest

/-! ## Shares -/

/-- What a monitor has of a channel: the probes sent to it, and its row without the date. -/
structure Share where
  probes : List Channel
  row? : Option ChannelRow
  deriving DecidableEq

def undated (row : ChannelRow) : ChannelRow := { row with testTime := none }

def share (m : Monitor (List Channel × σ)) (id : Int) : Share where
  probes := m.world.1.filter (·.id = id)
  row? := (m.store.table.find? id).map undated

def rewrittenRow (status? : Option (ChannelStatus × Option String)) (ms? : Option Int)
    (row : ChannelRow) : ChannelRow :=
  { row with
    status := (status?.map (·.1.number)).getD row.status
    reason := (status?.map (·.2)).getD row.reason
    responseTimeMs := ms?.getD row.responseTimeMs
    testTime := none }

theorem undated_comp_written (now : Instant) (status? : Option (ChannelStatus × Option String))
    (ms? : Option Int) : undated ∘ written now status? ms? = rewrittenRow status? ms? := rfl

def rowLeft (s : HealthSettings) (result : Int → Option TestResult) (events : List Event)
    (c : Channel) : ChannelRow → ChannelRow :=
  match judged? s c (result c.id) with
  | none => undated
  | some (r, v) => rewrittenRow (statusBy? s v events c) (timeBy? s r events c)

theorem rowLeft_congr {events' : List Event} {c : Channel}
    (hstatus : statusFails c.id events = statusFails c.id events')
    (htime : timeFails s c.id events = timeFails s c.id events') :
    rowLeft s result events c = rowLeft s result events' c := by
  unfold rowLeft statusBy? timeBy?
  rw [hstatus, htime]

section

variable {m m₁ : Monitor (List Channel × σ)} (hresults : Results probe result)
  (hordered : m.store.table.Ordered) (hlist : m.store.table.list = .ok channels)
  (hcomplete : Completes s (logged probe) notifies m events m₁)
include hresults hordered hlist hcomplete

theorem Completes.log : m₁.world.1 = m.world.1 ++ reached s result channels := by
  obtain ⟨outage, hruns⟩ := hcomplete.runs hlist
  rw [hruns.log, Completes.probed hresults.logged hordered hlist hcomplete]
  rfl

theorem Completes.row_of_not_reached {id : Int}
    (hnew : ∀ c ∈ reached s result channels, c.id ≠ id) :
    m₁.store.table.find? id = m.store.table.find? id := by
  obtain ⟨outage, hturns⟩ := Completes.turns_perm hresults.logged hordered hlist hcomplete
  obtain ⟨start, hruns⟩ := hcomplete.runs hlist
  obtain ⟨now, hfind⟩ := hruns.find? id
  have hsilent := silent_of_says (s := s) (says_of_not_reached hcomplete.own hturns hnew)
  rw [hsilent.1, hsilent.2, written_none, Option.map_id] at hfind
  exact hfind

theorem Completes.row_of_crashes {c : Channel} (hc : c ∈ reached s result channels)
    (hcrash : Crashes s result c) : m₁.store.table.find? c.id = m.store.table.find? c.id := by
  obtain ⟨outage, hturns⟩ := Completes.turns_perm hresults.logged hordered hlist hcomplete
  obtain ⟨start, hruns⟩ := hcomplete.runs hlist
  obtain ⟨now, hfind⟩ := hruns.find? c.id
  obtain ⟨b, hsaid⟩ :=
    says_of_reached hcomplete.own (hordered.pairwise_of_list hlist) hturns hc
  rw [sequel_of_crashes hcrash] at hsaid
  obtain ⟨hstatus, htime⟩ := hsaid.of_crash hcrash
  rw [hstatus, htime, written_none, Option.map_id] at hfind
  exact hfind

theorem Completes.share_of_reached {c : Channel} (hc : c ∈ reached s result channels) :
    m₁.share c.id = ⟨(m.share c.id).probes ++ [c],
      (m.store.table.find? c.id).map (rowLeft s result events c)⟩ := by
  have hprobes : m₁.world.1.filter (·.id = c.id) = (m.share c.id).probes ++ [c] := by
    rw [Completes.log hresults hordered hlist hcomplete, List.filter_append,
      filter_reached (hordered.pairwise_of_list hlist) hc]
    rfl
  have hrow : (m₁.store.table.find? c.id).map undated =
      (m.store.table.find? c.id).map (rowLeft s result events c) := by
    unfold rowLeft
    cases hjudged : judged? s c (result c.id) with
    | none => rw [Completes.row_of_crashes hresults hordered hlist hcomplete hc hjudged]
    | some found =>
        obtain ⟨now, hfind⟩ :=
          Completes.row_of_reached hresults.logged hordered hlist hcomplete hc hjudged
        rw [hfind, Option.map_map, undated_comp_written]
  rw [share, hprobes, hrow]

theorem Completes.share_of_not_reached {id : Int}
    (hnew : ∀ c ∈ reached s result channels, c.id ≠ id) : m₁.share id = m.share id := by
  have hprobes : (reached s result channels).filter (·.id = id) = [] :=
    List.filter_eq_nil_iff.mpr fun c hc => by simpa using hnew c hc
  rw [share, share, Completes.row_of_not_reached hresults hordered hlist hcomplete hnew,
    Completes.log hresults hordered hlist hcomplete, List.filter_append, hprobes, List.append_nil]

end

/-- What a batch leaves behind, given the results of its probes and which of its writes failed. -/
structure Course (s : HealthSettings) (result : Int → Option TestResult) (notifies : Bool)
    (channels : List Channel) (events : List Event) (m m₁ : Monitor (List Channel × σ)) :
    Prop where
  probes : m₁.world.1 = m.world.1 ++ reached s result channels
  statuses : ∀ c ∈ reached s result channels, ∀ r v, judged? s c (result c.id) = some (r, v) →
    m₁.statusOf c.id = some (if statusFails c.id events then c.status else decided s c v)
  times : ∀ c ∈ reached s result channels, ∀ r v, judged? s c (result c.id) = some (r, v) →
    m₁.timeOf c.id = some (if timeFails s c.id events then c.responseTimeMs else keptMs r)
  rows : ∀ id, (∀ c ∈ reached s result channels, c.id = id → Crashes s result c) →
    m₁.store.table.find? id = m.store.table.find? id
  notices : ∃ sent, m₁.notices = m.notices ++ sent ∧
    sent.Perm (((reached s result channels).flatMap fun c =>
      match judged? s c (result c.id) with
      | none => []
      | some (_, v) => told s v events c) ++
      if ∃ c ∈ channels, Crashes s result c then [] else completion notifies)

theorem Completes.course {m m₁ : Monitor (List Channel × σ)} (hresults : Results probe result)
    (hordered : m.store.table.Ordered) (hlist : m.store.table.list = .ok channels)
    (hcomplete : Completes s (logged probe) notifies m events m₁) :
    Course s result notifies channels events m m₁ where
  probes := Completes.log hresults hordered hlist hcomplete
  statuses _ hc _ _ hjudged :=
    Completes.statusOf_of_reached hresults.logged hordered hlist hcomplete hc hjudged
  times _ hc _ _ hjudged :=
    Completes.timeOf_of_reached hresults.logged hordered hlist hcomplete hc hjudged
  rows id hcrashes := by
    by_cases hreached : ∃ c ∈ reached s result channels, c.id = id
    · obtain ⟨c, hc, rfl⟩ := hreached
      exact Completes.row_of_crashes hresults hordered hlist hcomplete hc (hcrashes c hc rfl)
    · exact Completes.row_of_not_reached hresults hordered hlist hcomplete
        fun c hc hid => hreached ⟨c, hc, hid⟩
  notices := Completes.notices_perm hresults.logged hordered hlist hcomplete

/-! ## A batch with and without a channel -/

def without (m : Monitor σ) (id : Int) : Monitor σ :=
  { m with store := { m.store with table := m.store.table.without id } }

theorem share_without (m : Monitor (List Channel × σ)) {id other : Int} (hne : other ≠ id) :
    (m.without id).share other = m.share other := by
  simp only [share, without, ChannelTable.find?_without hne]

/-- A batch with a channel and a batch without it do the same to all other channels, as long as the
same writes fail. -/
def Isolated (s : HealthSettings) (probe : Probe σ) (notifies : Bool)
    (m : Monitor (List Channel × σ)) (id : Int) : Prop :=
  ∀ events m₁ events' m₁', Completes s (logged probe) notifies m events m₁ →
    Completes s (logged probe) notifies (m.without id) events' m₁' →
    (∀ other, other ≠ id → statusFails other events = statusFails other events' ∧
      timeFails s other events = timeFails s other events') →
    ∀ other, other ≠ id → m₁.share other = m₁'.share other

theorem eq_of_id_eq (hids : channels.Pairwise (·.id < ·.id)) {c c' : Channel} (hc : c ∈ channels)
    (hc' : c' ∈ channels) (hid : c.id = c'.id) : c = c' := by
  have hnodup : (channels.map Channel.id).Nodup := List.pairwise_map.mpr (hids.imp Int.ne_of_lt)
  exact List.inj_on_of_nodup_map hnodup hc hc' hid

theorem exists_next (hids : channels.Pairwise (·.id < ·.id)) {id : Int}
    (h : ∃ c ∈ channels, id < c.id) :
    ∃ c ∈ channels, id < c.id ∧ ∀ c' ∈ channels, id < c'.id → c.id ≤ c'.id := by
  have hmem (c : Channel) : c ∈ channels.filter (id < ·.id) ↔ c ∈ channels ∧ id < c.id := by simp
  have hordered := hids.filter (id < ·.id)
  cases hlater : channels.filter (id < ·.id) with
  | nil =>
      obtain ⟨c, hc, hlt⟩ := h
      have hin := (hmem c).mpr ⟨hc, hlt⟩
      rw [hlater] at hin
      contradiction
  | cons next rest =>
      rw [hlater] at hmem hordered
      obtain ⟨hnext, hlt⟩ := (hmem next).mp List.mem_cons_self
      refine ⟨next, hnext, hlt, fun c hc hlt' => ?_⟩
      rcases List.mem_cons.mp ((hmem c).mpr ⟨hc, hlt'⟩) with rfl | hrest
      · exact Int.le_refl _
      · exact Int.le_of_lt ((List.pairwise_cons.mp hordered).1 c hrest)

theorem mem_reached_filter_iff (hids : channels.Pairwise (·.id < ·.id)) {id : Int} {c : Channel} :
    c ∈ reached s result (channels.filter (·.id ≠ id)) ↔
      (c ∈ channels ∧ c.id ≠ id) ∧
        ∀ c' ∈ channels, c'.id ≠ id → c'.id < c.id → ¬ Crashes s result c' := by
  rw [mem_reached_iff (hids.filter _)]
  simp only [List.mem_filter, decide_eq_true_eq, and_imp]

section

variable {m : Monitor (List Channel × σ)} {x : Channel} (hresults : Results probe result)
  (hordered : m.store.table.Ordered) (hlist : m.store.table.list = .ok channels)
include hresults hordered hlist

/-- The same channels are reached with and without a channel whose crash ends nothing. -/
theorem isolated_of_crashes (hx : x ∈ channels)
    (h : Crashes s result x →
      (∀ c ∈ channels, c.id ≤ x.id) ∨ ∃ c ∈ channels, c.id < x.id ∧ Crashes s result c) :
    Isolated s probe notifies m x.id := by
  intro events m₁ events' m₁' hcomplete hcomplete' hfails other hother
  have hids := hordered.pairwise_of_list hlist
  have hordered' : (m.without x.id).store.table.Ordered := hordered.without x.id
  have hlist' : (m.without x.id).store.table.list = .ok (channels.filter (·.id ≠ x.id)) :=
    ChannelTable.list_without hlist x.id
  have hsame (c : Channel) (hc : c.id ≠ x.id) : c ∈ reached s result channels ↔
      c ∈ reached s result (channels.filter (·.id ≠ x.id)) := by
    rw [mem_reached_iff hids, mem_reached_filter_iff hids]
    refine ⟨fun ⟨hmem, hbefore⟩ => ⟨⟨hmem, hc⟩, fun c' hc' _ => hbefore c' hc'⟩,
      fun ⟨⟨hmem, _⟩, hbefore⟩ => ⟨hmem, fun c' hc' hlt hcrash => ?_⟩⟩
    by_cases hx' : c'.id = x.id
    · obtain rfl := eq_of_id_eq hids hc' hx hx'
      rcases h hcrash with hlast | ⟨c₀, hc₀, hlt₀, hcrash₀⟩
      · exact absurd (hlast c hmem) (Int.not_le.mpr hlt)
      · exact hbefore c₀ hc₀ (Int.ne_of_lt hlt₀) (Int.lt_trans hlt₀ hlt) hcrash₀
    · exact hbefore c' hc' hx' hlt hcrash
  by_cases hreached : ∃ c ∈ reached s result channels, c.id = other
  · obtain ⟨c, hc, rfl⟩ := hreached
    have hrow : (m.without x.id).store.table.find? c.id = m.store.table.find? c.id :=
      ChannelTable.find?_without hother
    rw [Completes.share_of_reached hresults hordered hlist hcomplete hc,
      Completes.share_of_reached hresults hordered' hlist' hcomplete' ((hsame c hother).mp hc),
      share_without m hother, hrow, rowLeft_congr (hfails c.id hother).1 (hfails c.id hother).2]
  · have hnew : ∀ c ∈ reached s result channels, c.id ≠ other :=
      fun c hc hid => hreached ⟨c, hc, hid⟩
    have hnew' : ∀ c ∈ reached s result (channels.filter (·.id ≠ x.id)), c.id ≠ other := by
      rintro c hc rfl
      exact hnew c ((hsame c hother).mpr hc) rfl
    rw [Completes.share_of_not_reached hresults hordered hlist hcomplete hnew,
      Completes.share_of_not_reached hresults hordered' hlist' hcomplete' hnew',
      share_without m hother]

/-- The channel after the first one whose test crashes is probed only if that one is not there. -/
theorem not_isolated_of_crashes (hquiet : m.Quiet) (hrunning : m.running = false)
    (hx : x ∈ channels) (hcrash : Crashes s result x) (hlater : ∃ c ∈ channels, x.id < c.id)
    (hfirst : ∀ c ∈ channels, c.id < x.id → ¬ Crashes s result c) :
    ¬ Isolated s probe notifies m x.id := by
  intro hisolated
  have hids := hordered.pairwise_of_list hlist
  have hordered' : (m.without x.id).store.table.Ordered := hordered.without x.id
  have hlist' : (m.without x.id).store.table.list = .ok (channels.filter (·.id ≠ x.id)) :=
    ChannelTable.list_without hlist x.id
  obtain ⟨next, hnext, hlt, hleast⟩ := exists_next hids hlater
  have hreached : next ∈ reached s result (channels.filter (·.id ≠ x.id)) := by
    refine (mem_reached_filter_iff hids).mpr ⟨⟨hnext, (Int.ne_of_lt hlt).symm⟩, ?_⟩
    intro c hc hne hbefore
    rcases Int.lt_or_gt_of_ne hne with hltx | hgtx
    · exact hfirst c hc hltx
    · exact absurd (hleast c hc hgtx) (Int.not_le.mpr hbefore)
  have hnew : ∀ c ∈ reached s result channels, c.id ≠ next.id := by
    intro c hc hid
    obtain ⟨hc, hbefore⟩ := (mem_reached_iff hids).mp hc
    exact hbefore x hx (hid ▸ hlt) hcrash
  obtain ⟨events, m₁, hcomplete, hsmooth⟩ :=
    exists_completes (s := s) hresults.logged hquiet hrunning hlist notifies
  obtain ⟨events', m₁', hcomplete', hsmooth'⟩ :=
    exists_completes (s := s) (m := m.without x.id) hresults.logged hquiet hrunning hlist' notifies
  have hshare := hisolated events m₁ events' m₁' hcomplete hcomplete'
    (fun other _ => by
      rw [statusFails_of_smooth hsmooth, statusFails_of_smooth hsmooth',
        timeFails_of_smooth hsmooth, timeFails_of_smooth hsmooth']
      exact ⟨rfl, rfl⟩)
    next.id (Int.ne_of_lt hlt).symm
  rw [Completes.share_of_not_reached hresults hordered hlist hcomplete hnew,
    Completes.share_of_reached hresults hordered' hlist' hcomplete' hreached,
    share_without m (Int.ne_of_lt hlt).symm] at hshare
  have hlength := congrArg (·.probes.length) hshare
  simp at hlength

end

/-- A channel has no effect on what a batch does to the others, unless its test is the first that
crashes and channels are left after it. -/
theorem isolated_iff {m : Monitor (List Channel × σ)} {x : Channel}
    (hresults : Results probe result) (hordered : m.store.table.Ordered)
    (hlist : m.store.table.list = .ok channels) (hquiet : m.Quiet) (hrunning : m.running = false)
    (hx : x ∈ channels) :
    (∃ events m₁, Completes s (logged probe) notifies m events m₁ ∧
      ∀ event ∈ events, event.smooth) ∧
    (∃ events m₁, Completes s (logged probe) notifies (m.without x.id) events m₁ ∧
      ∀ event ∈ events, event.smooth) ∧
    (∀ events m₁, Completes s (logged probe) notifies m events m₁ →
      Course s result notifies channels events m m₁) ∧
    (Isolated s probe notifies m x.id ↔
      (Crashes s result x →
        (∀ c ∈ channels, c.id ≤ x.id) ∨ ∃ c ∈ channels, c.id < x.id ∧ Crashes s result c)) := by
  have hlist' : (m.without x.id).store.table.list = .ok (channels.filter (·.id ≠ x.id)) :=
    ChannelTable.list_without hlist x.id
  refine ⟨exists_completes hresults.logged hquiet hrunning hlist notifies,
    exists_completes (m := m.without x.id) hresults.logged hquiet hrunning hlist' notifies,
    fun _ _ hcomplete => hcomplete.course hresults hordered hlist,
    fun hisolated hcrash => ?_, isolated_of_crashes hresults hordered hlist hx⟩
  by_contra hnot
  refine not_isolated_of_crashes hresults hordered hlist hquiet hrunning hx hcrash ?_ ?_ hisolated
  · by_contra hlast
    exact hnot (.inl fun c hc => Int.not_lt.mp fun hlt => hlast ⟨c, hc, hlt⟩)
  · exact fun c hc hlt hcrash' => hnot (.inr ⟨c, hc, hlt, hcrash'⟩)

def fixedOr (result : Int → Option TestResult) : Probe Unit := fun c _ _ world =>
  (⟨0, result c.id⟩, world)

theorem results_fixedOr (result : Int → Option TestResult) : Results (fixedOr result) result :=
  fun _ _ _ _ => rfl

def crashingFirst (id : Int) : Option TestResult :=
  if id = 1 then none else some ⟨"", 7000000, none⟩

theorem isolated_iff_two_channels :
    ¬ Isolated {} (fixedOr crashingFirst) true
        (pool [plainChannel 1 .enabled, plainChannel 2 .enabled]) 1 ∧
      Isolated {} (fixedOr crashingFirst) true
        (pool [plainChannel 1 .enabled, plainChannel 2 .enabled]) 2 := by
  constructor
  · obtain ⟨-, -, -, hiff⟩ := @isolated_iff Unit {} (fixedOr crashingFirst) crashingFirst true _ _
      (plainChannel 1 .enabled) (results_fixedOr crashingFirst) (ordered_pool_two .enabled .enabled)
      (list_pool_two .enabled .enabled) ⟨rfl, rfl⟩ rfl (by simp)
    exact fun hisolated => absurd (hiff.mp hisolated) (by decide +kernel)
  · obtain ⟨-, -, -, hiff⟩ := @isolated_iff Unit {} (fixedOr crashingFirst) crashingFirst true _ _
      (plainChannel 2 .enabled) (results_fixedOr crashingFirst) (ordered_pool_two .enabled .enabled)
      (list_pool_two .enabled .enabled) ⟨rfl, rfl⟩ rfl (by simp)
    exact hiff.mpr (by decide +kernel)

/-- The second channel is not probed and keeps its time, though its own probe passes. -/
theorem second_not_tested :
    ∃ events m₁,
      Completes {} (logged (fixedOr crashingFirst)) true
        (pool [plainChannel 1 .enabled, plainChannel 2 .enabled]) events m₁ ∧
      (∀ event ∈ events, event.smooth) ∧ m₁.world.1 = [plainChannel 1 .enabled] ∧
      m₁.timeOf 2 = some 0 ∧
      ∃ events' m₁',
        Completes {} (logged (fixedOr crashingFirst)) true
          ((pool [plainChannel 1 .enabled, plainChannel 2 .enabled]).without 1) events' m₁' ∧
        (∀ event ∈ events', event.smooth) ∧ m₁'.world.1 = [plainChannel 2 .enabled] ∧
        m₁'.timeOf 2 = some 7 := by
  have hresults := results_fixedOr crashingFirst
  have hlist := list_pool_two .enabled .enabled
  have hordered := ordered_pool_two .enabled .enabled
  have hlist' : ((pool [plainChannel 1 .enabled, plainChannel 2 .enabled]).without
      1).store.table.list = .ok [plainChannel 2 .enabled] := ChannelTable.list_without hlist 1
  obtain ⟨events, m₁, hcomplete, hsmooth⟩ :=
    exists_completes (s := {}) hresults.logged ⟨rfl, rfl⟩ rfl hlist true
  obtain ⟨events', m₁', hcomplete', hsmooth'⟩ :=
    exists_completes (s := {}) hresults.logged ⟨rfl, rfl⟩ rfl hlist' true
  have hcourse := hcomplete.course hresults hordered hlist
  have hcourse' := hcomplete'.course hresults (hordered.without 1) hlist'
  refine ⟨events, m₁, hcomplete, hsmooth, ?_, ?_, events', m₁', hcomplete', hsmooth', ?_, ?_⟩
  · exact hcourse.probes.trans (by decide +kernel)
  · have hrow := hcourse.rows 2 (by decide +kernel)
    rw [timeOf, hrow]
    decide +kernel
  · exact hcourse'.probes.trans (by decide +kernel)
  · have htime := hcourse'.times (plainChannel 2 .enabled) (by decide +kernel) ⟨"", 7000000, none⟩
      ⟨false, none⟩ (by decide +kernel)
    rw [timeFails_of_smooth hsmooth'] at htime
    exact htime.trans (by decide +kernel)

end ModelGateway.Monitor
