import Mathlib.Data.List.Perm.Basic
import ModelGateway.Proofs.Health.Effects
import ModelGateway.Proofs.Health.Verdict

/-!
# The jobs that stem from a batch

A batch over given channels, whose probes have given results, has a fixed list of jobs.  Whatever
the order of the turns, every job of the list has exactly one turn before nothing is left to be
done, and the channels are probed in their order, up to the first one whose test crashes.
-/

namespace ModelGateway.Monitor

open Policy (verdict judge?_eq_verdict)

variable {σ : Type} {s : HealthSettings} {probe : Probe σ} {outcome : Int → TestResult}
  {result : Int → Option TestResult} {m m₁ : Monitor σ}

/-- Every channel has its result, or none if its probe crashes, however long the probe takes. -/
def Results (probe : Probe σ) (result : Int → Option TestResult) : Prop :=
  ∀ c model kind world, (probe c model kind world).1.result = result c.id

theorem Results.logged (h : Results probe result) : Results (logged probe) result :=
  fun c model kind world => h c model kind world.2

def Brings (probe : Probe σ) (outcome : Int → TestResult) : Prop :=
  ∀ c model kind world, (probe c model kind world).1.result = some (outcome c.id)

theorem Brings.logged (h : Brings probe outcome) : Brings (logged probe) outcome :=
  fun c model kind world => h c model kind world.2

theorem Brings.results (h : Brings probe outcome) : Results probe fun id => some (outcome id) := h

theorem judged?_outcome (hthreshold : s.threshold ≠ .unrepresentable) (c : Channel)
    (r : TestResult) : judged? s c (some r) = some (r, verdict s c r) := by
  simp [judged?, judge?_eq_verdict hthreshold]

/-- The probe of a channel crashes, or the judgement of its result. -/
def Crashes (s : HealthSettings) (result : Int → Option TestResult) (c : Channel) : Prop :=
  judged? s c (result c.id) = none

instance (c : Channel) : Decidable (Crashes s result c) :=
  inferInstanceAs (Decidable (judged? s c (result c.id) = none))

theorem not_crashes_outcome (hthreshold : s.threshold ≠ .unrepresentable) (c : Channel) :
    ¬ Crashes s (fun id => some (outcome id)) c := by
  rw [Crashes, judged?_outcome hthreshold]
  exact Option.some_ne_none _

/-- The channels that a batch tests: all up to the first one whose test crashes. -/
def reached (s : HealthSettings) (result : Int → Option TestResult) :
    List Channel → List Channel
  | [] => []
  | c :: rest => c :: if Crashes s result c then [] else reached s result rest

theorem reached_isPrefix (channels : List Channel) : reached s result channels <+: channels := by
  induction channels with
  | nil => exact List.prefix_rfl
  | cons c rest ih =>
      rw [reached, List.prefix_cons_inj]
      split
      · exact List.nil_prefix
      · exact ih

theorem reached_of_not_crashes {channels : List Channel}
    (h : ∀ c ∈ channels, ¬ Crashes s result c) : reached s result channels = channels := by
  induction channels with
  | nil => rfl
  | cons c rest ih =>
      obtain ⟨hc, hrest⟩ := List.forall_mem_cons.mp h
      rw [reached, if_neg hc, ih hrest]

theorem reached_outcome (hthreshold : s.threshold ≠ .unrepresentable) (channels : List Channel) :
    reached s (fun id => some (outcome id)) channels = channels :=
  reached_of_not_crashes fun c _ => not_crashes_outcome hthreshold c

/-! ## Jobs -/

def sequel (s : HealthSettings) (result : Int → Option TestResult) (c : Channel) : List Job :=
  match judged? s c (result c.id) with
  | none => []
  | some (_, v) => consequences s c v

theorem sequel_of_judged {c : Channel} {r : TestResult} {v : Verdict}
    (h : judged? s c (result c.id) = some (r, v)) : sequel s result c = consequences s c v := by
  simp [sequel, h]

theorem sequel_of_crashes {c : Channel} (h : Crashes s result c) : sequel s result c = [] := by
  rw [Crashes] at h
  simp [sequel, h]

theorem mem_sequel {c : Channel} {job : Job} (h : job ∈ sequel s result c) :
    ∃ v, job ∈ consequences s c v := by
  unfold sequel at h
  split at h
  · contradiction
  · exact ⟨_, h⟩

theorem offspring_tested (b : Batch) (c : Channel) :
    offspring s probe m (.tested b c (result c.id)) =
      if Crashes s result c then successor b else .testNext b :: sequel s result c := by
  cases h : judged? s c (result c.id) with
  | none => simp only [offspring, Crashes, h, if_true]
  | some found => simp only [offspring, Crashes, sequel_of_judged h, h, reduceCtorEq, if_false]

def batchJobs (s : HealthSettings) (result : Int → Option TestResult) (notifies : Bool) :
    List Channel → List Job
  | [] => [.testNext ⟨[], notifies, none⟩]
  | c :: rest =>
    .testNext ⟨c :: rest, notifies, none⟩ :: .tested ⟨rest, notifies, none⟩ c (result c.id) ::
      (sequel s result c ++ if Crashes s result c then [] else batchJobs s result notifies rest)

def OfBatch (result : Int → Option TestResult) : Job → Prop
  | .testNext b => b.waiter = none
  | .tested b c r => b.waiter = none ∧ r = result c.id
  | .disable _ _ _ | .enable _ _ => True
  | _ => False

/-- A job and all that it leads to. -/
def lineage (s : HealthSettings) (result : Int → Option TestResult) : Job → List Job
  | .testNext b => batchJobs s result b.notifies b.rest
  | .tested b c r =>
    .tested b c r ::
      (sequel s result c ++
        if Crashes s result c then [] else batchJobs s result b.notifies b.rest)
  | job => [job]

theorem ofBatch_of_mem_consequences (result : Int → Option TestResult) {c : Channel} {v : Verdict}
    {job : Job} (h : job ∈ consequences s c v) :
    OfBatch result job ∧ lineage s result job = [job] := by
  rw [consequences_eq] at h
  split at h
  · simp at h
  · obtain rfl := List.mem_singleton.mp h
    unfold change
    split <;> exact ⟨trivial, rfl⟩

theorem flatMap_lineage_sequel (c : Channel) :
    (sequel s result c).flatMap (lineage s result) = sequel s result c := by
  calc (sequel s result c).flatMap (lineage s result)
      = (sequel s result c).flatMap fun job => [job] :=
        List.flatMap_congr fun job hjob => by
          obtain ⟨v, hmem⟩ := mem_sequel hjob
          exact (ofBatch_of_mem_consequences result hmem).2
    _ = sequel s result c := List.flatMap_singleton' _

theorem ofBatch_offspring (hresults : Results probe result) {job : Job} (hjob : OfBatch result job)
    {child : Job} (h : child ∈ offspring s probe m job) : OfBatch result child := by
  cases job with
  | disable id name reason => simp [offspring] at h
  | enable id name => simp [offspring] at h
  | testNext b =>
      obtain ⟨rest, notifies, waiter⟩ := b
      obtain rfl : waiter = none := hjob
      cases rest with
      | nil => simp [offspring, successor] at h
      | cons c rest =>
          obtain rfl := List.mem_singleton.mp h
          exact ⟨rfl, hresults c none .text m.world⟩
  | tested b c r =>
      obtain ⟨rest, notifies, waiter⟩ := b
      obtain ⟨rfl, rfl⟩ : waiter = none ∧ r = result c.id := hjob
      rw [offspring_tested] at h
      split at h
      · simp [successor] at h
      · rcases List.mem_cons.mp h with rfl | hmem
        · exact rfl
        · obtain ⟨v, hmem⟩ := mem_sequel hmem
          exact (ofBatch_of_mem_consequences result hmem).1
  | recordTime id ms => exact hjob.elim
  | await minutes => exact hjob.elim
  | trigger minutes => exact hjob.elim

theorem lineage_perm (hresults : Results probe result) {job : Job} (hjob : OfBatch result job) :
    (lineage s result job).Perm
      (job :: (offspring s probe m job).flatMap (lineage s result)) := by
  cases job with
  | disable id name reason => exact .rfl
  | enable id name => exact .rfl
  | testNext b =>
      obtain ⟨rest, notifies, waiter⟩ := b
      obtain rfl : waiter = none := hjob
      cases rest with
      | nil => exact .rfl
      | cons c rest => simp [offspring, lineage, batchJobs, hresults c none .text m.world]
  | tested b c r =>
      obtain ⟨rest, notifies, waiter⟩ := b
      obtain ⟨rfl, rfl⟩ : waiter = none ∧ r = result c.id := hjob
      refine List.Perm.cons _ ?_
      rw [offspring_tested]
      by_cases hcrash : Crashes s result c
      · rw [if_pos hcrash, if_pos hcrash, sequel_of_crashes hcrash]
        exact .rfl
      · rw [if_neg hcrash, if_neg hcrash, List.flatMap_cons, flatMap_lineage_sequel]
        exact List.perm_append_comm
  | recordTime id ms => exact hjob.elim
  | await minutes => exact hjob.elim
  | trigger minutes => exact hjob.elim

namespace Event

def turn? : Event → Option (Job × Outage)
  | .turn job outage => some (job, outage)
  | _ => none

end Event

def turns (events : List Event) : List (Job × Outage) :=
  events.filterMap Event.turn?

theorem turns_cons (event : Event) (events : List Event) :
    turns (event :: events) = event.turn?.toList ++ turns events := by
  unfold turns
  cases h : event.turn? <;> simp [h]

/-- Nothing but jobs of one batch is in flight. -/
def OnlyBatch (result : Int → Option TestResult) (m : Monitor σ) : Prop :=
  ∀ job ∈ m.inFlight, OfBatch result job

/-- A turn takes the job out of what stems from all that is in flight. -/
theorem Next.lineage_perm {event : Event} (h : Next s probe m event m₁) (hown : event.isOwn)
    (hresults : Results probe result) (hbatch : OnlyBatch result m) :
    OnlyBatch result m₁ ∧
      (event.turn?.toList.map (·.1) ++ m₁.inFlight.flatMap (lineage s result)).Perm
        (m.inFlight.flatMap (lineage s result)) := by
  cases h with
  | @turn before after job outage hready =>
      have hperm : List.Perm _ (offspring s probe (m.under outage) job ++ m.inFlight) :=
        inFlight_turn hready outage
      have hjob : OfBatch result job := hbatch job (by simp [inFlight, hready])
      constructor
      · intro other hother
        have hmem := hperm.mem_iff.mp (List.mem_cons_of_mem job hother)
        rcases List.mem_append.mp hmem with hchild | hold
        · exact ofBatch_offspring hresults hjob hchild
        · exact hbatch other hold
      · have hstem := hperm.flatMap_right (lineage s result)
        rw [List.flatMap_cons, List.flatMap_append] at hstem
        have hjobs := lineage_perm (s := s) (m := m.under outage) hresults hjob
        refine (List.perm_append_left_iff
          ((offspring s probe (m.under outage) job).flatMap (lineage s result))).mp ?_
        refine List.Perm.trans ?_ ((hjobs.append_right _).symm.trans hstem)
        exact List.perm_middle
  | alarm htimers =>
      have hperm := inFlight_ring htimers
      exact ⟨fun job hjob => hbatch job (hperm.mem_iff.mp hjob), hperm.flatMap_right _⟩
  | start notifies outage => contradiction
  | order id status reason => contradiction

theorem Runs.lineage_perm {events : List Event} (h : Runs s probe m events m₁)
    (hown : ∀ event ∈ events, event.isOwn) (hresults : Results probe result)
    (hbatch : OnlyBatch result m) :
    ((turns events).map (·.1) ++ m₁.inFlight.flatMap (lineage s result)).Perm
      (m.inFlight.flatMap (lineage s result)) := by
  induction h with
  | refl => exact .rfl
  | @next m m₁ m₂ event events first _ ih =>
      obtain ⟨hbatch₁, hfirst⟩ :=
        first.lineage_perm (hown _ List.mem_cons_self) hresults hbatch
      have hrest := ih (fun e he => hown e (List.mem_cons_of_mem _ he)) hbatch₁
      rw [turns_cons, List.map_append, List.append_assoc]
      exact (hrest.append_left _).trans hfirst

/-! ## The order of the probes -/

def ahead? : Job → Option (List Channel)
  | .testNext b | .tested b _ _ => some b.rest
  | _ => none

def Ahead (m : Monitor σ) (channels : List Channel) : Prop :=
  m.inFlight.filterMap ahead? = [channels] ∨ m.inFlight.filterMap ahead? = []

theorem Ahead.of_perm {channels : List Channel} (h : Ahead m channels)
    (hperm : (m₁.inFlight.filterMap ahead?).Perm (m.inFlight.filterMap ahead?)) :
    Ahead m₁ channels := by
  rcases h with h | h
  · exact .inl (List.perm_singleton.mp (h ▸ hperm))
  · exact .inr (List.perm_nil.mp (h ▸ hperm))

theorem filterMap_ahead?_sequel (c : Channel) : (sequel s result c).filterMap ahead? = [] := by
  refine List.filterMap_eq_nil_iff.mpr fun job hjob => ?_
  obtain ⟨v, hmem⟩ := mem_sequel hjob
  rw [consequences_eq] at hmem
  split at hmem
  · contradiction
  · obtain rfl := List.mem_singleton.mp hmem
    unfold change
    split <;> rfl

theorem Ahead.of_mem {channels : List Channel} (h : Ahead m channels) {job : Job}
    (hmem : job ∈ m.inFlight) {rest : List Channel} (hjob : ahead? job = some rest) :
    m.inFlight.filterMap ahead? = [rest] ∧ channels = rest := by
  have hrest : rest ∈ m.inFlight.filterMap ahead? := List.mem_filterMap.mpr ⟨job, hmem, hjob⟩
  rcases h with h | h
  · rw [h, List.mem_singleton] at hrest
    exact ⟨by rw [h, hrest], hrest.symm⟩
  · rw [h] at hrest
    contradiction

/-- The probe goes to the first channel that is ahead. -/
theorem Next.ahead {event : Event} (h : Next s probe m event m₁) (hown : event.isOwn)
    (hbatch : OnlyBatch result m) {channels : List Channel} (hahead : Ahead m channels) :
    ∃ rest, channels = event.probed?.toList ++ rest ∧ Ahead m₁ rest := by
  cases h with
  | @turn before after job outage hready =>
      have hperm : List.Perm _ (offspring s probe (m.under outage) job ++ m.inFlight) :=
        inFlight_turn hready outage
      have hmem : job ∈ m.inFlight := by simp [inFlight, hready]
      have hjob : OfBatch result job := hbatch job hmem
      replace hperm := hperm.filterMap ahead?
      rw [List.filterMap_append] at hperm
      cases job with
      | disable id name reason => exact ⟨channels, rfl, hahead.of_perm hperm⟩
      | enable id name => exact ⟨channels, rfl, hahead.of_perm hperm⟩
      | testNext b =>
          obtain ⟨hall, rfl⟩ := hahead.of_mem hmem rfl
          obtain ⟨rest, notifies, waiter⟩ := b
          obtain rfl : waiter = none := hjob
          rw [hall] at hperm
          cases rest with
          | nil => exact ⟨[], rfl, .inr (List.perm_nil.mp hperm.cons_inv)⟩
          | cons c rest =>
              refine ⟨rest, rfl, .inl (List.perm_singleton.mp ?_)⟩
              exact (hperm.trans (List.Perm.swap _ _ _)).cons_inv
      | tested b c r =>
          obtain ⟨hall, rfl⟩ := hahead.of_mem hmem rfl
          obtain ⟨rest, notifies, waiter⟩ := b
          obtain ⟨rfl, rfl⟩ : waiter = none ∧ r = result c.id := hjob
          refine ⟨rest, rfl, ?_⟩
          rw [hall] at hperm
          rw [offspring_tested] at hperm
          split at hperm
          · -- The crash ends the batch, so no channel is ahead any more.
            exact .inr (List.perm_nil.mp hperm.cons_inv)
          · simp only [List.filterMap_cons, ahead?, filterMap_ahead?_sequel] at hperm
            exact .inl (List.perm_singleton.mp hperm.cons_inv)
      | recordTime id ms => exact hjob.elim
      | await minutes => exact hjob.elim
      | trigger minutes => exact hjob.elim
  | alarm htimers =>
      exact ⟨channels, rfl, hahead.of_perm ((inFlight_ring htimers).filterMap ahead?)⟩
  | start notifies outage => contradiction
  | order id status reason => contradiction

theorem Runs.probed_isPrefix {events : List Event} (h : Runs s probe m events m₁)
    (hown : ∀ event ∈ events, event.isOwn) (hresults : Results probe result)
    (hbatch : OnlyBatch result m) {channels : List Channel} (hahead : Ahead m channels) :
    events.filterMap Event.probed? <+: channels := by
  induction h generalizing channels with
  | refl => exact List.nil_prefix
  | @next m m₁ m₂ event events first _ ih =>
      have hfirst := hown event List.mem_cons_self
      obtain ⟨hbatch₁, -⟩ := first.lineage_perm hfirst hresults hbatch
      obtain ⟨rest, rfl, hahead₁⟩ := first.ahead hfirst hbatch hahead
      have hrest := ih (fun e he => hown e (List.mem_cons_of_mem _ he)) hbatch₁ hahead₁
      cases hprobed : event.probed? with
      | none =>
          rw [List.filterMap_cons_none hprobed]
          exact hrest
      | some c =>
          rw [List.filterMap_cons_some hprobed]
          exact (List.prefix_cons_inj c).mpr hrest

end ModelGateway.Monitor
