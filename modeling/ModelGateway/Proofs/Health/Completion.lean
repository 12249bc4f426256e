import ModelGateway.Proofs.Health.Batch

/-!
# Complete batches

A batch is complete when it and all that it spawned have run.  Whatever the order of the turns and
whichever writes fail, a complete batch has probed every channel once, in the order of ids, and has
left each row as the verdict on its channel asks.  A second batch with the same results has nothing
to change.
-/

namespace ModelGateway.Monitor

open Policy (verdict)

variable {σ : Type} {s : HealthSettings} {probe : Probe σ} {outcome : Int → TestResult}
  {notifies : Bool} {channels : List Channel} {events : List Event} {m m₁ : Monitor σ}

/-- The status that a test decides on. -/
def due (s : HealthSettings) (outcome : Int → TestResult) (c : Channel) : ChannelStatus :=
  decided s c (verdict s c (outcome c.id))

/-- The status and the reason that a batch leaves in a row, if it changes them. -/
def statusLeft? (s : HealthSettings) (outcome : Int → TestResult) (events : List Event)
    (c : Channel) : Option (ChannelStatus × Option String) :=
  if due s outcome c = c.status ∨ statusFails c.id events = true then none
  else some (due s outcome c, changeReason c (verdict s c (outcome c.id)))

def timeLeft? (s : HealthSettings) (outcome : Int → TestResult) (events : List Event)
    (c : Channel) : Option Int :=
  if timeFails s c.id events then none else some (keptMs (outcome c.id))

def completion (notifies : Bool) : List Notice :=
  if notifies then [.allTested] else []

def changeNotices (s : HealthSettings) (outcome : Int → TestResult) (events : List Event)
    (channels : List Channel) : List Notice :=
  channels.filterMap fun c =>
    (statusLeft? s outcome events c).map fun _ => changeNotice c (verdict s c (outcome c.id))

/-! ## What the events of a batch say -/

def statusBy? (s : HealthSettings) (v : Verdict) (events : List Event) (c : Channel) :
    Option (ChannelStatus × Option String) :=
  if decided s c v = c.status ∨ statusFails c.id events = true then none
  else some (decided s c v, changeReason c v)

def timeBy? (s : HealthSettings) (r : TestResult) (events : List Event) (c : Channel) :
    Option Int :=
  if timeFails s c.id events then none else some (keptMs r)

private theorem getD_ite {p : Prop} [Decidable p] {α : Type} (a b : α) :
    (if p then none else some b).getD a = if p then a else b := by
  split <;> rfl

theorem getD_timeBy? (r : TestResult) (c : Channel) (ms : Int) :
    (timeBy? s r events c).getD ms = if timeFails s c.id events then ms else keptMs r := by
  rw [timeBy?, getD_ite]

def told (s : HealthSettings) (v : Verdict) (events : List Event) (c : Channel) : List Notice :=
  if decided s c v = c.status ∨ statusFails c.id events = true then [] else [changeNotice c v]

section

variable {result : Int → Option TestResult} {outage : Job → Outage} {c : Channel} {b : Batch}
  {r? : Option TestResult} {r : TestResult} {v : Verdict}

theorem silent_of_says {id : Int} (h : Says events outage id []) :
    latest (·.status? id) events = none ∧ latest (·.time? s id) events = none := by
  have hstatus : events.filterMap (·.status? id) = [] := List.perm_nil.mp <|
    h _ (fun _ => rfl) fun job x hnot => by simp [Event.status?, statusWritten?_of_not_isAbout hnot]
  have htime : events.filterMap (·.time? s id) = [] := List.perm_nil.mp <|
    h _ (fun _ => rfl) fun job x hnot => by simp [Event.time?, timeWritten?_of_not_isAbout hnot]
  simp [latest, hstatus, htime]

theorem Says.of_crash (h : Says events outage c.id [.tested b c r?])
    (hcrash : judged? s c r? = none) :
    latest (·.status? c.id) events = none ∧ latest (·.time? s c.id) events = none := by
  have hstatus : events.filterMap (·.status? c.id) = [] := by
    refine List.perm_nil.mp ((h _ (fun _ => rfl) fun job x hnot => ?_).trans (.of_eq ?_))
    · simp [Event.status?, statusWritten?_of_not_isAbout hnot]
    · simp [Event.status?, statusWritten?]
  have htime : events.filterMap (·.time? s c.id) = [] := by
    refine List.perm_nil.mp ((h _ (fun _ => rfl) fun job x hnot => ?_).trans (.of_eq ?_))
    · simp [Event.time?, timeWritten?_of_not_isAbout hnot]
    · simp [Event.time?, timeWritten?, hcrash]
  simp [latest, hstatus, htime]

theorem Says.statuses (h : Says events outage c.id (.tested b c r? :: consequences s c v)) :
    latest (·.status? c.id) events = statusBy? s v events c ∧
      (decided s c v ≠ c.status → statusFails c.id events = (outage (change c v)).status) := by
  have hattempts := h (·.statusAttempt? c.id) (fun _ => rfl)
    fun job x hnot => by simp [Event.statusAttempt?, statusWritten?_of_not_isAbout hnot]
  have hwrites := h (·.status? c.id) (fun _ => rfl)
    fun job x hnot => by simp [Event.status?, statusWritten?_of_not_isAbout hnot]
  have htest : statusWritten? c.id (.tested b c r?) = none := rfl
  rw [consequences_eq] at hattempts hwrites
  unfold latest statusBy? statusFails
  by_cases hdue : decided s c v = c.status
  · rw [if_pos hdue] at hwrites
    have hnone : events.filterMap (·.status? c.id) = [] := by
      refine List.perm_nil.mp (hwrites.trans (.of_eq ?_))
      simp [htest, Event.status?]
    refine ⟨?_, fun hne => absurd hdue hne⟩
    rw [if_pos (.inl hdue), hnone]
    rfl
  · have hchange := statusWritten?_change (s := s) hdue
    rw [if_neg hdue] at hattempts hwrites
    have hattempt : events.filterMap (·.statusAttempt? c.id) = [(outage (change c v)).status] := by
      refine List.perm_singleton.mp (hattempts.trans (.of_eq ?_))
      simp only [List.filterMap_cons, Event.statusAttempt?, hchange]
      rfl
    rw [hattempt]
    cases hfails : (outage (change c v)).status with
    | true =>
        have hnone : events.filterMap (·.status? c.id) = [] := by
          refine List.perm_nil.mp (hwrites.trans (.of_eq ?_))
          simp [htest, Event.status?, hfails]
        simp [hnone]
    | false =>
        have hone : events.filterMap (·.status? c.id) = [(decided s c v, changeReason c v)] := by
          refine List.perm_singleton.mp (hwrites.trans (.of_eq ?_))
          simp only [List.filterMap_cons, htest, Event.status?, ite_self, hfails, hchange]
          rfl
        simp [hone, hdue]

theorem Says.times (h : Says events outage c.id (.tested b c r? :: consequences s c v))
    (hjudged : judged? s c r? = some (r, v)) :
    latest (·.time? s c.id) events = timeBy? s r events c := by
  have hattempts := h (·.timeAttempt? s c.id) (fun _ => rfl)
    fun job x hnot => by simp [Event.timeAttempt?, timeWritten?_of_not_isAbout hnot]
  have hwrites := h (·.time? s c.id) (fun _ => rfl)
    fun job x hnot => by simp [Event.time?, timeWritten?_of_not_isAbout hnot]
  have hconsequences : ∀ job ∈ consequences s c v, timeWritten? s c.id job = none :=
    fun job hjob => timeWritten?_of_mem_consequences hjob
  have htest : timeWritten? s c.id (.tested b c r?) = some (keptMs r) := by
    simp [timeWritten?, hjudged]
  have hattempt : events.filterMap (·.timeAttempt? s c.id) =
      [(outage (.tested b c r?)).time] := by
    refine List.perm_singleton.mp (hattempts.trans (.of_eq ?_))
    simp only [List.filterMap_cons, Event.timeAttempt?, htest, Option.map_some]
    refine congrArg _ (List.filterMap_eq_nil_iff.mpr fun job hjob => ?_)
    rw [hconsequences job hjob]
    rfl
  have hothers : (consequences s c v).filterMap
      (fun job => (Event.turn job (outage job)).time? s c.id) = [] := by
    refine List.filterMap_eq_nil_iff.mpr fun job hjob => ?_
    simp [Event.time?, hconsequences job hjob]
  unfold latest timeBy? timeFails
  rw [hattempt]
  cases hfails : (outage (.tested b c r?)).time with
  | true =>
      have hnone : events.filterMap (·.time? s c.id) = [] := by
        refine List.perm_nil.mp (hwrites.trans (.of_eq ?_))
        rw [List.filterMap_cons, hothers]
        simp [Event.time?, hfails]
      simp [hnone]
  | false =>
      have hone : events.filterMap (·.time? s c.id) = [keptMs r] := by
        refine List.perm_singleton.mp (hwrites.trans (.of_eq ?_))
        rw [List.filterMap_cons, hothers]
        simp [Event.time?, hfails, htest]
      simp [hone]

theorem filterMap_probed?_batchJobs :
    (batchJobs s result notifies channels).filterMap
        (fun job => (Event.turn job (outage job)).probed?) = reached s result channels := by
  induction channels with
  | nil => rfl
  | cons c rest ih =>
      have hsequel : (sequel s result c).filterMap
          (fun job => (Event.turn job (outage job)).probed?) = [] := by
        refine List.filterMap_eq_nil_iff.mpr fun job hjob => ?_
        have habout := isAbout_of_mem_sequel hjob
        cases job <;> first | rfl | exact habout.elim
      have hnext (x : Outage) :
          (Event.turn (.testNext ⟨c :: rest, notifies, none⟩) x).probed? = some c := rfl
      have htest (b : Batch) (r? : Option TestResult) (x : Outage) :
          (Event.turn (.tested b c r?) x).probed? = none := rfl
      simp only [batchJobs, reached, List.filterMap_cons, hnext, htest, List.filterMap_append,
        hsequel, List.nil_append]
      split
      · rfl
      · rw [ih]

theorem notices_of_consequences (c : Channel) (v : Verdict) {knows : Int → Bool}
    (hknows : knows c.id = true) :
    (consequences s c v).flatMap (fun job => (Event.turn job (outage job)).notices knows) =
      if decided s c v = c.status ∨ (outage (change c v)).status = true then []
      else [changeNotice c v] := by
  rw [consequences_eq]
  by_cases hdue : decided s c v = c.status
  · rw [if_pos hdue, if_pos (.inl hdue)]
    rfl
  · rw [if_neg hdue, List.flatMap_singleton, notices_change]
    simp [hdue, hknows]

theorem Says.notices (h : Says events outage c.id (.tested b c r? :: consequences s c v))
    {knows : Int → Bool} (hknows : knows c.id = true) :
    (consequences s c v).flatMap (fun job => (Event.turn job (outage job)).notices knows) =
      told s v events c := by
  rw [notices_of_consequences c v hknows, told]
  by_cases hdue : decided s c v = c.status
  · rw [if_pos (.inl hdue), if_pos (.inl hdue)]
  · rw [h.statuses.2 hdue]

theorem notices_of_batchJobs (knows : Int → Bool) :
    (batchJobs s result notifies channels).flatMap
        (fun job => (Event.turn job (outage job)).notices knows) =
      ((reached s result channels).flatMap fun c => (sequel s result c).flatMap
        fun job => (Event.turn job (outage job)).notices knows) ++
      if ∃ c ∈ channels, Crashes s result c then [] else completion notifies := by
  induction channels with
  | nil => simp [batchJobs, reached, Event.notices, completion]
  | cons c rest ih =>
      have hnext (x : Outage) :
          (Event.turn (.testNext ⟨c :: rest, notifies, none⟩) x).notices knows = [] := rfl
      have htest (b : Batch) (r? : Option TestResult) (x : Outage) :
          (Event.turn (.tested b c r?) x).notices knows = [] := rfl
      simp only [batchJobs, reached, List.flatMap_cons, List.flatMap_append, hnext, htest,
        List.nil_append]
      by_cases hcrash : Crashes s result c
      · simp [hcrash]
      · rw [if_neg hcrash, if_neg hcrash, ih]
        simp [hcrash]

theorem flatMap_notices_perm (hown : ∀ event ∈ events, event.isOwn)
    (hturns : (turns events).Perm
      ((batchJobs s result notifies channels).map fun job => (job, outage job)))
    (knows : Int → Bool) :
    (events.flatMap (·.notices knows)).Perm
      ((batchJobs s result notifies channels).flatMap
        fun job => (Event.turn job (outage job)).notices knows) := by
  have hturn : events.flatMap (·.notices knows) =
      (turns events).flatMap fun turn => (Event.turn turn.1 turn.2).notices knows := by
    unfold turns
    rw [List.filterMap_eq_flatMap_toList, List.flatMap_assoc]
    refine List.flatMap_congr fun event hevent => ?_
    cases event with
    | turn job outage => simp [Event.turn?]
    | alarm timer => rfl
    | start notifies outage => exact absurd (hown _ hevent) (by simp [Event.isOwn])
    | order id status reason => exact absurd (hown _ hevent) (by simp [Event.isOwn])
  rw [hturn]
  refine (hturns.flatMap_right _).trans (.of_eq ?_)
  rw [List.flatMap_map]

end

end ModelGateway.Monitor
