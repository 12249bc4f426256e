import Mathlib.Data.List.Nodup
import ModelGateway.Proofs.Health.Lineage

/-!
# The jobs of a batch

Every job of a batch has one turn, and no two of them write the same field of the same row.  So what
is written for a channel does not depend on the order of the turns.
-/

namespace ModelGateway.Monitor

variable {σ : Type} {s : HealthSettings} {probe : Probe σ} {result : Int → Option TestResult}
  {notifies : Bool} {channels : List Channel} {m m₁ : Monitor σ}

/-! ## One turn a job -/

def label : Job → Nat × Int
  | .testNext b => (0, b.rest.length)
  | .tested _ c _ => (1, c.id)
  | .disable id _ _ | .enable id _ => (2, id)
  | _ => (3, 0)

theorem map_label_sequel (c : Channel) :
    (sequel s result c).map label = [] ∨ (sequel s result c).map label = [(2, c.id)] := by
  unfold sequel
  split
  · exact .inl rfl
  · rw [consequences_eq]
    split
    · exact .inl rfl
    · unfold change
      split <;> exact .inr rfl

theorem label_mem_batchJobs {l : Nat × Int}
    (h : l ∈ (batchJobs s result notifies channels).map label) :
    l.1 = 0 ∧ l.2 ≤ channels.length ∨ l.1 ≠ 0 ∧ ∃ c ∈ channels, l.2 = c.id := by
  induction channels with
  | nil =>
      simp only [batchJobs, List.map_cons, List.map_nil, List.mem_singleton] at h
      subst h
      simp [label]
  | cons c rest ih =>
      simp only [batchJobs, List.map_cons, List.map_append, List.mem_cons, List.mem_append] at h
      rcases h with rfl | rfl | hsequel | hrest
      · simp [label]
      · simp [label]
      · rcases map_label_sequel c with hnone | hone
        · rw [hnone] at hsequel
          contradiction
        · rw [hone, List.mem_singleton] at hsequel
          subst hsequel
          simp
      · split at hrest
        · contradiction
        rcases ih hrest with ⟨hzero, hle⟩ | ⟨hzero, c', hc', hid⟩
        · refine .inl ⟨hzero, ?_⟩
          simp only [List.length_cons]
          omega
        · exact .inr ⟨hzero, c', List.mem_cons_of_mem _ hc', hid⟩

theorem nodup_batchJobs (hids : channels.Pairwise (·.id < ·.id)) :
    (batchJobs s result notifies channels).Nodup := by
  refine List.Nodup.of_map label ?_
  induction channels with
  | nil => simp [batchJobs]
  | cons c rest ih =>
      obtain ⟨hc, hrest⟩ := List.pairwise_cons.mp hids
      have hnew : ∀ k, k ≠ 0 → (k, c.id) ∉ (batchJobs s result notifies rest).map label := by
        intro k hk hmem
        rcases label_mem_batchJobs hmem with ⟨hzero, -⟩ | ⟨-, c', hc', hid⟩
        · exact hk hzero
        · have := hc c' hc'
          omega
      have hnext : (0, (rest.length : Int) + 1) ∉
          (batchJobs s result notifies rest).map label := by
        intro hmem
        rcases label_mem_batchJobs hmem with ⟨-, hle⟩ | ⟨hzero, -⟩
        · simp only at hle
          omega
        · exact hzero rfl
      replace ih := ih hrest
      simp only [batchJobs, List.map_cons, List.map_append, apply_ite (List.map label)]
      generalize (batchJobs s result notifies rest).map label = labels at ih hnew hnext
      rcases map_label_sequel c with hnone | hone
      · rw [hnone]
        split <;> simp [label, hnext, hnew 1, ih]
      · rw [hone]
        split <;> simp [label, hnext, hnew 1, hnew 2, ih]

private theorem exists_partner {α β : Type} [Inhabited β] {pairs : List (α × β)}
    (h : (pairs.map (·.1)).Nodup) : ∃ partner : α → β, ∀ pair ∈ pairs, pair.2 = partner pair.1 := by
  classical
  refine ⟨fun a => if h : ∃ b, (a, b) ∈ pairs then h.choose else default, fun pair hpair => ?_⟩
  have hsome : ∃ b, (pair.1, b) ∈ pairs := ⟨pair.2, hpair⟩
  simp only [dif_pos hsome]
  have hsame := List.inj_on_of_nodup_map h hpair hsome.choose_spec rfl
  exact congrArg Prod.snd hsame

instance : Inhabited Outage := ⟨{}⟩

/-- Each job of a batch has one turn. -/
theorem Runs.turns_perm {events : List Event} (h : Runs s probe m events m₁)
    (hown : ∀ event ∈ events, event.isOwn) (hresults : Results probe result)
    (hids : channels.Pairwise (·.id < ·.id))
    (hstart : m.inFlight = [.testNext ⟨channels, notifies, none⟩]) (hend : m₁.Quiet) :
    ∃ outage : Job → Outage,
      (turns events).Perm
        ((batchJobs s result notifies channels).map fun job => (job, outage job)) := by
  have hbatch : OnlyBatch result m := by
    intro job hjob
    rw [hstart, List.mem_singleton] at hjob
    subst hjob
    exact rfl
  have hjobs : ((turns events).map (·.1)).Perm (batchJobs s result notifies channels) := by
    have hlineage := h.lineage_perm hown hresults hbatch
    rw [hend.inFlight, hstart] at hlineage
    simpa [lineage] using hlineage
  obtain ⟨outage, houtage⟩ := exists_partner (hjobs.nodup_iff.mpr (nodup_batchJobs hids))
  refine ⟨outage, ?_⟩
  have hturns : turns events = ((turns events).map (·.1)).map fun job => (job, outage job) := by
    rw [List.map_map]
    refine (List.map_id _).symm.trans (List.map_congr_left fun turn hturn => ?_)
    exact Prod.ext rfl (houtage turn hturn)
  rw [hturns]
  exact hjobs.map _

/-- The jobs of a batch that are about a channel. -/
def IsAbout (id : Int) : Job → Prop
  | .disable i _ _ | .enable i _ | .recordTime i _ => i = id
  | .tested _ c _ => c.id = id
  | _ => False

theorem isAbout_of_mem_sequel {c : Channel} {job : Job} (h : job ∈ sequel s result c) :
    IsAbout c.id job := by
  obtain ⟨v, hmem⟩ := mem_sequel h
  rw [consequences_eq] at hmem
  split at hmem
  · contradiction
  · obtain rfl := List.mem_singleton.mp hmem
    unfold change
    split <;> rfl

theorem IsAbout.unique {id id' : Int} {job : Job} (h : IsAbout id job) (h' : IsAbout id' job) :
    id = id' := by
  cases job <;> simp_all [IsAbout]

theorem isAbout_of_mem_batchJobs {job : Job}
    (h : job ∈ batchJobs s result notifies channels) :
    (∃ b, job = .testNext b) ∨ ∃ c ∈ reached s result channels, IsAbout c.id job := by
  induction channels with
  | nil => exact .inl ⟨_, List.mem_singleton.mp h⟩
  | cons c rest ih =>
      simp only [batchJobs, List.mem_cons, List.mem_append] at h
      rcases h with rfl | rfl | hsequel | hrest
      · exact .inl ⟨_, rfl⟩
      · exact .inr ⟨c, List.mem_cons_self, rfl⟩
      · exact .inr ⟨c, List.mem_cons_self, isAbout_of_mem_sequel hsequel⟩
      · split at hrest
        · contradiction
        next hjudged =>
        rcases ih hrest with htest | ⟨c', hc', habout⟩
        · exact .inl htest
        · refine .inr ⟨c', ?_, habout⟩
          rw [reached, if_neg hjudged]
          exact List.mem_cons_of_mem _ hc'

theorem filterMap_batchJobs_of_new {α : Type} {read : Job → Option α} {id : Int}
    (hread : ∀ job, ¬ IsAbout id job → read job = none)
    (hnew : ∀ c ∈ reached s result channels, c.id ≠ id) :
    (batchJobs s result notifies channels).filterMap read = [] := by
  refine List.filterMap_eq_nil_iff.mpr fun job hjob => hread job fun habout => ?_
  rcases isAbout_of_mem_batchJobs hjob with ⟨b, rfl⟩ | ⟨c, hc, habout'⟩
  · exact habout
  · exact hnew c hc (habout'.unique habout)

theorem filterMap_batchJobs {c : Channel} (hc : c ∈ reached s result channels)
    (hids : channels.Pairwise (·.id < ·.id)) :
    ∃ b, ∀ {α : Type} (read : Job → Option α), (∀ job, ¬ IsAbout c.id job → read job = none) →
      (batchJobs s result notifies channels).filterMap read =
        (.tested b c (result c.id) :: sequel s result c).filterMap read := by
  induction channels with
  | nil => contradiction
  | cons first rest ih =>
      obtain ⟨hfirst, hrest⟩ := List.pairwise_cons.mp hids
      rcases List.mem_cons.mp hc with rfl | hmem
      · refine ⟨⟨rest, notifies, none⟩, fun read hread => ?_⟩
        have hnext : read (.testNext ⟨c :: rest, notifies, none⟩) = none := hread _ fun h => h
        have hothers : (if Crashes s result c then [] else
            batchJobs s result notifies rest).filterMap read = [] := by
          split
          · rfl
          · exact filterMap_batchJobs_of_new hread fun c' hc' =>
              (Int.ne_of_lt (hfirst c' ((reached_isPrefix rest).subset hc'))).symm
        simp only [batchJobs, List.filterMap_cons_none hnext]
        rw [← List.cons_append, List.filterMap_append, hothers, List.append_nil]
      · split at hmem
        · contradiction
        next hjudged =>
        obtain ⟨b, hb⟩ := ih hmem hrest
        refine ⟨b, fun read hread => ?_⟩
        have hnext : read (.testNext ⟨first :: rest, notifies, none⟩) = none := hread _ fun h => h
        have hne : first.id ≠ c.id := Int.ne_of_lt (hfirst c ((reached_isPrefix rest).subset hmem))
        have hother : (Job.tested ⟨rest, notifies, none⟩ first (result first.id) ::
            sequel s result first).filterMap read = [] := by
          refine List.filterMap_eq_nil_iff.mpr fun job hjob => hread job fun habout => hne ?_
          rcases List.mem_cons.mp hjob with rfl | hsequel
          · exact habout
          · exact (isAbout_of_mem_sequel hsequel).unique habout
        simp only [batchJobs, if_neg hjudged, List.filterMap_cons_none hnext]
        rw [← List.cons_append, List.filterMap_append, hother, List.nil_append, hb read hread]

/-! ## Attempts to write -/

namespace Event

def statusAttempt? (id : Int) : Event → Option Bool
  | .turn job outage => (statusWritten? id job).map fun _ => outage.status
  | _ => none

def timeAttempt? (s : HealthSettings) (id : Int) : Event → Option Bool
  | .turn job outage => (timeWritten? s id job).map fun _ => outage.time
  | _ => none

end Event

def statusFails (id : Int) (events : List Event) : Bool :=
  (events.filterMap (·.statusAttempt? id)).contains true

def timeFails (s : HealthSettings) (id : Int) (events : List Event) : Bool :=
  (events.filterMap (·.timeAttempt? s id)).contains true

theorem statusWritten?_of_not_isAbout {id : Int} {job : Job} (h : ¬ IsAbout id job) :
    statusWritten? id job = none := by
  cases job <;> simp_all [IsAbout, statusWritten?]

theorem timeWritten?_of_not_isAbout {id : Int} {job : Job} (h : ¬ IsAbout id job) :
    timeWritten? s id job = none := by
  cases job <;> simp_all [IsAbout, timeWritten?]

theorem timeWritten?_of_mem_consequences {c : Channel} {v : Verdict} {id : Int} {job : Job}
    (h : job ∈ consequences s c v) : timeWritten? s id job = none := by
  rw [consequences_eq] at h
  split at h
  · simp at h
  · obtain rfl := List.mem_singleton.mp h
    unfold change
    split <;> rfl

theorem filterMap_turns {α : Type} {events : List Event} {read : Event → Option α}
    (hown : ∀ event ∈ events, event.isOwn) (halarm : ∀ timer, read (.alarm timer) = none) :
    events.filterMap read = (turns events).filterMap fun turn => read (.turn turn.1 turn.2) := by
  unfold turns
  rw [List.filterMap_filterMap]
  refine List.filterMap_congr fun event hevent => ?_
  cases event with
  | turn job outage => rfl
  | alarm timer => exact halarm timer
  | start notifies outage => exact absurd (hown _ hevent) (by simp [Event.isOwn])
  | order id status reason => exact absurd (hown _ hevent) (by simp [Event.isOwn])

section

variable {events : List Event} {outage : Job → Outage}

/-- What the events say about a channel is what some jobs say, each in its turn. -/
def Says (events : List Event) (outage : Job → Outage) (id : Int) (jobs : List Job) : Prop :=
  ∀ {α : Type} (read : Event → Option α), (∀ timer, read (.alarm timer) = none) →
    (∀ job x, ¬ IsAbout id job → read (.turn job x) = none) →
    (events.filterMap read).Perm (jobs.filterMap fun job => read (.turn job (outage job)))

theorem filterMap_events_perm {α : Type} (hown : ∀ event ∈ events, event.isOwn)
    (hturns : (turns events).Perm
      ((batchJobs s result notifies channels).map fun job => (job, outage job)))
    {read : Event → Option α} (halarm : ∀ timer, read (.alarm timer) = none) :
    (events.filterMap read).Perm
      ((batchJobs s result notifies channels).filterMap
        fun job => read (.turn job (outage job))) := by
  rw [filterMap_turns hown halarm]
  refine (hturns.filterMap _).trans (.of_eq ?_)
  rw [List.filterMap_map]
  rfl

theorem says_of_reached {c : Channel} (hown : ∀ event ∈ events, event.isOwn)
    (hids : channels.Pairwise (·.id < ·.id))
    (hturns : (turns events).Perm
      ((batchJobs s result notifies channels).map fun job => (job, outage job)))
    (hc : c ∈ reached s result channels) :
    ∃ b, Says events outage c.id (.tested b c (result c.id) :: sequel s result c) := by
  have hjobs : ∃ b, ∀ {α : Type} (read : Job → Option α), _ →
      (batchJobs s result notifies channels).filterMap read = _ := filterMap_batchJobs hc hids
  obtain ⟨b, hb⟩ := hjobs
  refine ⟨b, fun read halarm hread => ?_⟩
  rw [← hb _ fun job => hread job (outage job)]
  exact filterMap_events_perm hown hturns halarm

theorem says_of_not_reached {id : Int} (hown : ∀ event ∈ events, event.isOwn)
    (hturns : (turns events).Perm
      ((batchJobs s result notifies channels).map fun job => (job, outage job)))
    (hnew : ∀ c ∈ reached s result channels, c.id ≠ id) : Says events outage id [] := by
  intro α read halarm hread
  rw [List.filterMap_nil, ← filterMap_batchJobs_of_new (fun job => hread job (outage job)) hnew]
  exact filterMap_events_perm hown hturns halarm

theorem statusWritten?_change {c : Channel} {v : Verdict} (h : decided s c v ≠ c.status) :
    statusWritten? c.id (change c v) = some (decided s c v, changeReason c v) := by
  unfold decided at h ⊢
  unfold change changeReason
  cases hstatus : c.status with
  | enabled =>
      by_cases hban : c.autoBan = true ∧ v.ban = true
      · simp [hban, statusWritten?]
      · simp [hstatus, hban] at h
  | manuallyDisabled => simp [hstatus] at h
  | autoDisabled =>
      by_cases hpass : s.automaticEnable = true ∧ v.failure = none
      · simp [hpass, statusWritten?]
      · simp [hstatus, hpass] at h

theorem notices_change (knows : Int → Bool) (c : Channel) (v : Verdict) (outage : Outage) :
    (Event.turn (change c v) outage).notices knows =
      if outage.status || !knows c.id then [] else [changeNotice c v] := by
  unfold change changeNotice
  split <;> rfl

end

end ModelGateway.Monitor
