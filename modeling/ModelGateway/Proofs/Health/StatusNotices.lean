import ModelGateway.Proofs.Channel.History
import ModelGateway.Proofs.Health.ManualDisable
import ModelGateway.Proofs.Json.Texts
import ModelGateway.Proofs.Text.Search

/-!
# Notices of statuses

The store answers an order for a status with whether there is such a channel, not with whether the
status changed.  So the operator is told of every job that sets the status of a channel, also if the
channel had the status before.
-/

namespace ModelGateway

namespace ChannelTable

variable {t : ChannelTable} {id : Int}

def statusOf (t : ChannelTable) (id : Int) : Option ChannelStatus :=
  (t.find? id).map fun row => .ofNumber row.status

theorem setStatus_answers_iff (status : ChannelStatus) (reason : Option String) :
    (t.setStatus id status reason).1 = true ↔ ∃ old, t.statusOf id = some old := by
  simp [setStatus, statusOf, ← Option.isSome_iff_exists]

theorem statusOf_setStatus (status : ChannelStatus) (reason : Option String) :
    (t.setStatus id status reason).2.statusOf id = (t.statusOf id).map fun _ => status := by
  have hfind : (t.setStatus id status reason).2.find? id =
      (t.find? id).map fun row => { row with status := status.number, reason } := by
    refine (find?_modify ?_ id).trans (if_pos rfl)
    exact fun _ hrow => hrow
  rw [statusOf, hfind, statusOf, Option.map_map, Option.map_map]
  exact congrFun (congrArg _ (funext fun _ => ChannelStatus.ofNumber_number status)) _

theorem statusOf_setStatus_ne_iff (status : ChannelStatus) (reason : Option String) :
    (t.setStatus id status reason).2.statusOf id ≠ t.statusOf id ↔
      ∃ old, t.statusOf id = some old ∧ old ≠ status := by
  rw [statusOf_setStatus]
  cases t.statusOf id with
  | none => simp
  | some old => simp [eq_comm]

/-- The answer tells of a change exactly if the channel does not have the status already. -/
theorem setStatus_tells_iff (status : ChannelStatus) (reason : Option String) :
    ((t.setStatus id status reason).1 = true ↔
        (t.setStatus id status reason).2.statusOf id ≠ t.statusOf id) ↔
      t.statusOf id ≠ some status := by
  rw [setStatus_answers_iff, statusOf_setStatus_ne_iff]
  cases t.statusOf id with
  | none => simp
  | some old => simp

end ChannelTable

namespace Notice

def endings (id : Int) : List String :=
  ["(#" ++ Text.ofInt id ++ ") disabled", "(#" ++ Text.ofInt id ++ ") enabled"]

def isOf (id : Int) (n : Notice) : Bool :=
  (endings id).any (Text.endsWith · n.title)

theorem eq_of_marked_suffix {i id : Int} {before change change' : List Char}
    (hchange : '#' ∉ change) (hchange' : '#' ∉ change')
    (h : '#' :: ((Text.ofInt id).toList ++ ')' :: change') <:+
      before ++ '#' :: ((Text.ofInt i).toList ++ ')' :: change)) : i = id ∧ change' = change := by
  obtain ⟨start, hstart⟩ := h
  have hmark (n : Int) : '#' ∉ (Text.ofInt n).toList := Json.not_mem_ofInt rfl (by decide) n
  have hparen (n : Int) : ')' ∉ (Text.ofInt n).toList := Json.not_mem_ofInt rfl (by decide) n
  have hbehind := congrArg (Text.splitAtLast? ['#']) hstart
  rw [Text.splitAtLast?_of_not_mem _ (by simp [hmark, hchange']),
    Text.splitAtLast?_of_not_mem _ (by simp [hmark, hchange])] at hbehind
  have hnumber := congrArg (Text.splitAtFirst? [')']) (Prod.mk.inj (Option.some.inj hbehind)).2
  rw [Text.splitAtFirst?_of_not_mem (hparen id), Text.splitAtFirst?_of_not_mem (hparen i)] at hnumber
  obtain ⟨hid, hsame⟩ := Prod.mk.inj (Option.some.inj hnumber)
  exact ⟨(Json.ofInt_inj hid).symm, hsame⟩

theorem isOf_iff {i id : Int} {n : Notice} {name change : String}
    (htitle : n.title = channelLabel i name ++ change)
    (hchange : change ∈ [" disabled", " enabled"]) : n.isOf id = true ↔ i = id := by
  have hmark : ∀ change ∈ [" disabled", " enabled"], '#' ∉ change.toList := by decide
  have hending (n : Int) (change : String) : ("(#" ++ Text.ofInt n ++ ")" ++ change).toList =
      '(' :: '#' :: ((Text.ofInt n).toList ++ ')' :: change.toList) := by
    simp [String.toList_append]
  have htext : n.title.toList = ("Channel " ++ name ++ " (").toList ++
      '#' :: ((Text.ofInt i).toList ++ ')' :: change.toList) := by
    simp [htitle, channelLabel, String.toList_append]
  have hendings : n.isOf id = true ↔ ∃ change' ∈ [" disabled", " enabled"],
      ("(#" ++ Text.ofInt id ++ ")" ++ change').toList <:+ n.title.toList := by
    simp [isOf, endings, Text.endsWith, String.toList_append]
  rw [hendings]
  constructor
  · rintro ⟨change', hchange', hsuffix⟩
    rw [hending, htext] at hsuffix
    exact (eq_of_marked_suffix (hmark change hchange) (hmark change' hchange')
      ((List.suffix_cons _ _).trans hsuffix)).1
  · rintro rfl
    refine ⟨change, hchange, ("Channel " ++ name ++ " ").toList, ?_⟩
    rw [hending, htext]
    simp [String.toList_append]

theorem isOf_disabled (id i : Int) (name reason : String) :
    (disabled i name reason).isOf id = true ↔ i = id :=
  isOf_iff rfl (List.mem_cons_self : " disabled" ∈ _)

theorem isOf_enabled (id i : Int) (name : String) :
    (enabled i name).isOf id = true ↔ i = id :=
  isOf_iff rfl (by decide : " enabled" ∈ _)

theorem isOf_allTested (id : Int) : allTested.isOf id = false := by
  have hled : ∀ ending ∈ endings id, "led".toList <:+ ending.toList := by
    have hdisabled : "led".toList <:+ ") disabled".toList := by decide
    have henabled : "led".toList <:+ ") enabled".toList := by decide
    simp only [endings, List.forall_mem_cons, String.toList_append]
    exact ⟨hdisabled.trans (List.suffix_append _ _), henabled.trans (List.suffix_append _ _),
      List.forall_mem_nil _⟩
  have hother : ¬ "led".toList <:+ allTested.title.toList := by decide
  rw [isOf, List.any_eq_false]
  intro ending hending hends
  exact hother ((hled ending hending).trans (List.isSuffixOf_iff_suffix.mp hends))

end Notice

/-! ## Runs -/

namespace Monitor

variable {σ : Type} {s : HealthSettings} {probe : Probe σ} {id : Int} {m m₁ m₂ : Monitor σ}
  {event : Event}

/-- A run with the monitors that it goes through. -/
inductive Walk (s : HealthSettings) (probe : Probe σ) :
    Monitor σ → List (Event × Monitor σ) → Monitor σ → Prop
  | nil (m : Monitor σ) : Walk s probe m [] m
  | cons {m m₁ m₂ : Monitor σ} {event : Event} {steps : List (Event × Monitor σ)}
      (first : Next s probe m event m₁) (rest : Walk s probe m₁ steps m₂) :
      Walk s probe m ((event, m₁) :: steps) m₂

theorem runs_iff_exists_walk {events : List Event} :
    Runs s probe m events m₁ ↔ ∃ steps, Walk s probe m steps m₁ ∧ steps.map Prod.fst = events := by
  constructor
  · intro h
    induction h with
    | refl m => exact ⟨[], .nil m, rfl⟩
    | next first _ ih =>
        obtain ⟨steps, hwalk, rfl⟩ := ih
        exact ⟨_, .cons first hwalk, rfl⟩
  · rintro ⟨steps, hwalk, rfl⟩
    induction hwalk with
    | nil m => exact .refl m
    | cons first _ ih => exact .next first ih

def Event.setsStatus : Event → Bool
  | .turn (.disable _ _ _) _ | .turn (.enable _ _) _ => true
  | _ => false

def changes (id : Int) (m : Monitor σ) (event : Event) (m₁ : Monitor σ) : Bool :=
  event.setsStatus && decide (m₁.statusOf id ≠ m.statusOf id)

/-- A job sets the status that a channel has already. -/
def repeats (id : Int) (m : Monitor σ) (event : Event) : Bool :=
  event.setsStatus && (m.statusOf id).isSome &&
    decide ((event.status? id).map (·.1) = m.statusOf id)

def timesChanged (id : Int) : Monitor σ → List (Event × Monitor σ) → Nat
  | _, [] => 0
  | m, (event, m₁) :: steps => (changes id m event m₁).toNat + timesChanged id m₁ steps

def timesRepeated (id : Int) : Monitor σ → List (Event × Monitor σ) → Nat
  | _, [] => 0
  | m, (event, m₁) :: steps => (repeats id m event).toNat + timesRepeated id m₁ steps

def timesTold (id : Int) (m : Monitor σ) : Nat :=
  m.notices.countP (·.isOf id)

theorem isSome_statusOf (m : Monitor σ) (id : Int) : (m.statusOf id).isSome = m.Knows id := by
  simp [statusOf, Knows]

theorem countP_notices_of_sets {i : Int} {job : Job} {outage : Outage} {n : Notice}
    {written : ChannelStatus × Option String} {knows : Int → Bool}
    (hnotices : (Event.turn job outage).notices knows =
      if outage.status || !knows i then [] else [n])
    (hwritten : statusWritten? id job = if i = id then some written else none)
    (hn : n.isOf id = true ↔ i = id) :
    ((Event.turn job outage).notices knows).countP (·.isOf id) =
      (((Event.turn job outage).status? id).isSome && knows id).toNat := by
  rw [hnotices, Event.status?, hwritten]
  by_cases hid : i = id
  · subst hid
    cases outage.status <;> cases knows i <;> simp [hn]
  · cases outage.status <;> cases knows i <;> simp [hid, hn]

theorem Event.countP_notices (event : Event) (knows : Int → Bool) (id : Int) :
    (event.notices knows).countP (·.isOf id) =
      (event.setsStatus && ((event.status? id).isSome && knows id)).toNat := by
  cases event with
  | turn job outage =>
      cases job with
      | disable i name reason =>
          exact countP_notices_of_sets rfl rfl (Notice.isOf_disabled id i name reason)
      | enable i name => exact countP_notices_of_sets rfl rfl (Notice.isOf_enabled id i name)
      | testNext b =>
          rw [Event.notices]
          split <;> simp [setsStatus, Notice.isOf_allTested]
      | recordTime | tested | await | trigger => rfl
  | alarm | start | order => rfl

theorem Next.timesTold (h : Next s probe m event m₁) (id : Int) :
    m₁.timesTold id =
      m.timesTold id + (changes id m event m₁).toNat + (repeats id m event).toNat := by
  have hstatus := statusOf_of_find? (h.find? id)
  have htold : m₁.timesTold id = m.timesTold id +
      (event.setsStatus && ((event.status? id).isSome && (m.statusOf id).isSome)).toNat := by
    rw [Monitor.timesTold, h.notices, List.countP_append, event.countP_notices, isSome_statusOf,
      Monitor.timesTold]
  rw [htold, Nat.add_assoc, changes, repeats, hstatus]
  -- What a job sets is another status than that of the channel, or the same.
  cases event.setsStatus with
  | false => rfl
  | true =>
      cases m.statusOf id with
      | none => simp
      | some old =>
          rcases event.status? id with _ | ⟨status, reason⟩
          · simp
          · by_cases hsame : status = old <;> simp [hsame]

theorem Walk.timesTold {steps : List (Event × Monitor σ)} (h : Walk s probe m steps m₁) (id : Int) :
    m₁.timesTold id = m.timesTold id + timesChanged id m steps + timesRepeated id m steps := by
  induction h with
  | nil m => rfl
  | cons first _ ih =>
      rw [ih, first.timesTold, timesChanged, timesRepeated]
      omega

/-- The store answers whether it has the channel, which is whether the status changes exactly if the
channel has another one.  In every run, a channel has as many notices as its status was changed by a
job or was set again by one. -/
theorem told_as_changed_iff (s : HealthSettings) (probe : Probe σ) :
    (∀ history id status reason,
      let t := ChannelTable.after history
      let (answer, t') := t.setStatus id status reason
      (answer = true ↔ ∃ old, t.statusOf id = some old) ∧
      (t'.statusOf id ≠ t.statusOf id ↔ ∃ old, t.statusOf id = some old ∧ old ≠ status) ∧
      ((answer = true ↔ t'.statusOf id ≠ t.statusOf id) ↔ t.statusOf id ≠ some status)) ∧
    (∀ m events m₁, Runs s probe m events m₁ ↔
      ∃ steps, Walk s probe m steps m₁ ∧ steps.map Prod.fst = events) ∧
    ∀ m steps m₁, Walk s probe m steps m₁ → ∀ id,
      m₁.timesTold id = m.timesTold id + timesChanged id m steps + timesRepeated id m steps ∧
      (m₁.timesTold id = m.timesTold id + timesChanged id m steps ↔
        timesRepeated id m steps = 0) := by
  refine ⟨?_, fun m events m₁ => runs_iff_exists_walk, ?_⟩
  · intro history id status reason
    exact ⟨ChannelTable.setStatus_answers_iff status reason,
      ChannelTable.statusOf_setStatus_ne_iff status reason,
      ChannelTable.setStatus_tells_iff status reason⟩
  · intro m steps m₁ hwalk id
    refine ⟨hwalk.timesTold id, ?_⟩
    rw [hwalk.timesTold id]
    omega

def condemned (jobs : List Job) : Monitor Unit :=
  { store := { table := ⟨[.ofChannel (plainChannel 1 .enabled)]⟩ }, ready := jobs, world := () }

def tooSlow : Job := .disable 1 "one" "too slow"

def refused : Job := .disable 1 "one" "refused"

theorem told_as_changed_iff_tooSlow :
    ∃ m₁, Walk {} (fixed refusedFirst) (condemned [tooSlow]) [(.turn tooSlow {}, m₁)] m₁ ∧
      m₁.timesTold 1 = 1 ∧ timesChanged 1 (condemned [tooSlow]) [(.turn tooSlow {}, m₁)] = 1 := by
  obtain ⟨-, -, htold⟩ := told_as_changed_iff {} (fixed refusedFirst)
  have hturn : Next {} (fixed refusedFirst) (condemned [tooSlow]) (.turn tooSlow {}) _ :=
    @Next.turn _ _ _ _ [] [] tooSlow {} rfl
  refine ⟨_, .cons hturn (.nil _), ?_, by decide +kernel⟩
  rw [(htold _ _ _ (.cons hturn (.nil _)) 1).1]
  decide +kernel

/-- Two jobs disable one channel: the second changes nothing, and the operator is told twice. -/
theorem repeated_disable_told :
    (∃ history,
      ((ChannelTable.after history).setStatus 1 .autoDisabled none).1 = true ∧
      ((ChannelTable.after history).setStatus 1 .autoDisabled none).2.statusOf 1 =
        (ChannelTable.after history).statusOf 1) ∧
    ∃ steps m₁, Walk {} (fixed refusedFirst) (condemned [tooSlow, refused]) steps m₁ ∧
      m₁.timesTold 1 = 2 ∧ timesChanged 1 (condemned [tooSlow, refused]) steps = 1 := by
  constructor
  · exact ⟨[.put (plainChannel 1 .autoDisabled)], by decide +kernel, by decide +kernel⟩
  · have hfirst : Next {} (fixed refusedFirst) (condemned [tooSlow, refused])
        (.turn tooSlow {}) _ := @Next.turn _ _ _ _ [] [refused] tooSlow {} rfl
    refine ⟨_, _, .cons hfirst (.cons (@Next.turn _ _ _ _ [] [] refused {} rfl) (.nil _)), ?_, ?_⟩
    · decide +kernel
    · decide +kernel

end Monitor

end ModelGateway
