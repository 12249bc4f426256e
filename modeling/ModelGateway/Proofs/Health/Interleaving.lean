import ModelGateway.Proofs.Health.Runs

/-!
# Calls and batches side by side

A call for a batch takes the flag, lists the channels and leaves a batch behind; a batch gives the
flag back and then tells of its end.  Between any two of these steps everything else may happen:
other calls, jobs, alarms and orders.  A call may be dropped while it lists, the listing may fail,
and any probe may crash.  The runs in which a call or an end is one step are among these.
-/

namespace ModelGateway.Monitor

/-- A call that holds the flag and has yet to list the channels. -/
structure Listing where
  notifies : Bool
  waiter : Option Nat
  deriving DecidableEq, Repr

/-- A batch that has given the flag back and has yet to tell of its end. -/
structure Closing where
  batch : Batch
  completed : Bool
  deriving DecidableEq, Repr

def Closing.isTold (c : Closing) : Bool :=
  c.completed && c.batch.notifies

/-- The batch that a job ends: no channel is left, or a probe or the judgement on it crashed. -/
def closing? (s : HealthSettings) : Job → Option Closing
  | .testNext b => if b.rest.isEmpty then some ⟨b, true⟩ else none
  | .tested b c result => if (judged? s c result).isNone then some ⟨b, false⟩ else none
  | _ => none

def isTrigger : Job → Bool
  | .trigger _ => true
  | _ => false

theorem exists_minutes {job : Job} (h : isTrigger job = true) :
    ∃ minutes, job = .trigger minutes := by
  cases job with
  | trigger minutes => exact ⟨minutes, rfl⟩
  | _ => cases h

variable {σ : Type}

def tell (m : Monitor σ) (c : Closing) : Monitor σ :=
  let m := if c.isTold then m.notify .allTested else m
  match c.batch.waiter with
  | some minutes => m.spawn (.await minutes)
  | none => m

def retry (m : Monitor σ) : Option Nat → Monitor σ
  | some minutes => m.await minutes
  | none => m

theorem finish_eq_tell (m : Monitor σ) (b : Batch) (completed : Bool) :
    m.finish b completed = m.release.tell ⟨b, completed⟩ := rfl

theorem isBatch_of_closing {s : HealthSettings} {job : Job} {c : Closing}
    (h : closing? s job = some c) : isBatch job = true := by
  cases job with
  | testNext b => rfl
  | tested b channel result => rfl
  | _ => cases h

theorem runJob_of_closing {s : HealthSettings} {job : Job} {c : Closing}
    (h : closing? s job = some c) (probe : Probe σ) (m : Monitor σ) :
    runJob s probe m job = m.release.tell c := by
  cases job with
  | testNext b =>
      obtain ⟨rest, notifies, waiter⟩ := b
      cases rest with
      | nil =>
          obtain rfl := Option.some.inj h
          exact finish_eq_tell m _ true
      | cons c rest => cases h
  | tested b channel result =>
      cases hjudged : judged? s channel result with
      | some judged => simp [closing?, hjudged] at h
      | none =>
          obtain rfl : ⟨b, false⟩ = c := by simpa [closing?, hjudged] using h
          exact (tested_of_none hjudged m b).trans (finish_eq_tell m b false)
  | disable id name reason => cases h
  | enable id name => cases h
  | recordTime id ms => cases h
  | await minutes => cases h
  | trigger minutes => cases h

/-! ## Steps -/

/-- The monitor, the calls that list its channels, and the batches that have yet to tell of their
end. -/
structure Scene (σ : Type) where
  monitor : Monitor σ
  listing : List Listing := []
  closing : List Closing := []

/-- Anyone may call for a batch at any time, and a trigger in its turn. -/
inductive Calls (m : Monitor σ) : Listing → Monitor σ → Prop
  | manual (notifies : Bool) : Calls m ⟨notifies, none⟩ m
  | periodic {before after : List Job} {minutes : Nat}
      (hready : m.ready = before ++ .trigger minutes :: after) :
      Calls m ⟨false, some minutes⟩ { m with ready := before ++ after }

inductive Act where
  | begun (l : Listing)
  | refused (l : Listing)
  | listed (l : Listing)
  | unlisted (l : Listing)
  | dropped (l : Listing)
  | turn (job : Job)
  | ended (c : Closing)
  | told (c : Closing)
  | alarm (timer : Timer)
  | order (id : Int) (status : ChannelStatus) (reason : Option String)
  /-- Other operations of the store fail from now on. -/
  | weather (outage : Outage)
  deriving DecidableEq, Repr

def Act.isCall : Act → Bool
  | .begun _ | .refused _ => true
  | _ => false

def Act.isBeginning : Act → Bool
  | .begun _ => true
  | _ => false

/-- A call or a batch that held the flag is over. -/
def Act.isExit : Act → Bool
  | .unlisted _ | .dropped _ | .ended _ => true
  | _ => false

theorem Act.isExit_of_beginning (act : Act) (h : act.isBeginning = true) : act.isExit = false := by
  cases act with
  | begun l => rfl
  | _ => cases h

def Act.ended? : Act → Option Closing
  | .ended c => some c
  | _ => none

def Act.told? : Act → Option Closing
  | .told c => some c
  | _ => none

namespace Scene

inductive Step (s : HealthSettings) (probe : Probe σ) : Scene σ → Act → Scene σ → Prop
  | begun {m m₀ m₁ : Monitor σ} {ls : List Listing} {cs : List Closing} {l : Listing}
      (hcalls : Calls m l m₀) (hfree : m₀.acquire? = some m₁) :
      Step s probe ⟨m, ls, cs⟩ (.begun l) ⟨m₁, ls ++ [l], cs⟩
  | refused {m m₀ : Monitor σ} {ls : List Listing} {cs : List Closing} {l : Listing}
      (hcalls : Calls m l m₀) (htaken : m₀.acquire? = none) :
      Step s probe ⟨m, ls, cs⟩ (.refused l) ⟨m₀.retry l.waiter, ls, cs⟩
  | listed {m m₁ : Monitor σ} {before after : List Listing} {cs : List Closing} {l : Listing}
      (hlist : m.launch l.notifies l.waiter = (.ok (), m₁)) :
      Step s probe ⟨m, before ++ l :: after, cs⟩ (.listed l) ⟨m₁, before ++ after, cs⟩
  | unlisted {m m₁ : Monitor σ} {before after : List Listing} {cs : List Closing} {l : Listing}
      {e : GatewayError} (hlist : m.launch l.notifies l.waiter = (.error e, m₁)) :
      Step s probe ⟨m, before ++ l :: after, cs⟩ (.unlisted l)
        ⟨m₁.retry l.waiter, before ++ after, cs⟩
  | dropped (m : Monitor σ) (before after : List Listing) (cs : List Closing) (l : Listing) :
      Step s probe ⟨m, before ++ l :: after, cs⟩ (.dropped l) ⟨m.release, before ++ after, cs⟩
  | turn {m : Monitor σ} {before after : List Job} {ls : List Listing} {cs : List Closing}
      {job : Job} (hready : m.ready = before ++ job :: after)
      (htrigger : isTrigger job = false) (hopen : closing? s job = none) :
      Step s probe ⟨m, ls, cs⟩ (.turn job)
        ⟨runJob s probe { m with ready := before ++ after } job, ls, cs⟩
  | ended {m : Monitor σ} {before after : List Job} {ls : List Listing} {cs : List Closing}
      {job : Job} {c : Closing} (hready : m.ready = before ++ job :: after)
      (hclosing : closing? s job = some c) :
      Step s probe ⟨m, ls, cs⟩ (.ended c)
        ⟨{ m with ready := before ++ after }.release, ls, cs ++ [c]⟩
  | told (m : Monitor σ) (ls : List Listing) (before after : List Closing) (c : Closing) :
      Step s probe ⟨m, ls, before ++ c :: after⟩ (.told c) ⟨m.tell c, ls, before ++ after⟩
  | alarm {m : Monitor σ} {before after : List Timer} {ls : List Listing} {cs : List Closing}
      {timer : Timer} (htimers : m.timers = before ++ timer :: after) :
      Step s probe ⟨m, ls, cs⟩ (.alarm timer) ⟨m.ring timer (before ++ after), ls, cs⟩
  | order (m : Monitor σ) (ls : List Listing) (cs : List Closing) (id : Int)
      (status : ChannelStatus) (reason : Option String) :
      Step s probe ⟨m, ls, cs⟩ (.order id status reason) ⟨m.order id status reason, ls, cs⟩
  | weather (m : Monitor σ) (ls : List Listing) (cs : List Closing) (outage : Outage) :
      Step s probe ⟨m, ls, cs⟩ (.weather outage) ⟨m.under outage, ls, cs⟩

inductive Steps (s : HealthSettings) (probe : Probe σ) : Scene σ → List Act → Scene σ → Prop
  | refl (st : Scene σ) : Steps s probe st [] st
  | next {st st₁ st₂ : Scene σ} {act : Act} {acts : List Act}
      (first : Step s probe st act st₁) (rest : Steps s probe st₁ acts st₂) :
      Steps s probe st (act :: acts) st₂

variable {s : HealthSettings} {probe : Probe σ} {st st₁ st₂ : Scene σ} {act : Act}

theorem Steps.trans {acts acts' : List Act} (first : Steps s probe st acts st₁)
    (rest : Steps s probe st₁ acts' st₂) : Steps s probe st (acts ++ acts') st₂ := by
  induction first with
  | refl => exact rest
  | next step _ ih => exact .next step (ih rest)

theorem Step.steps (h : Step s probe st act st₁) : Steps s probe st [act] st₁ :=
  .next h (.refl st₁)

/-! ## Runs are made of these steps -/

def called (m : Monitor σ) (l : Listing) : Monitor σ :=
  match m.start l.notifies l.waiter with
  | (.ok (), m₁) => m₁
  | (.error _, m₁) => m₁.retry l.waiter

theorem called_manual (m : Monitor σ) (notifies : Bool) :
    called m ⟨notifies, none⟩ = (m.start notifies none).2 := by
  unfold called
  rcases m.start notifies none with ⟨_ | _, m₁⟩ <;> rfl

theorem called_periodic (m : Monitor σ) (minutes : Nat) :
    called m ⟨false, some minutes⟩ = m.trigger minutes := by
  unfold called trigger
  rcases m.start false (some minutes) with ⟨_ | _, m₁⟩ <;> rfl

theorem exists_steps_called {m m₀ : Monitor σ} {l : Listing} (hcalls : Calls m l m₀)
    (ls : List Listing) (cs : List Closing) :
    ∃ acts, Steps s probe ⟨m, ls, cs⟩ acts ⟨called m₀ l, ls, cs⟩ := by
  -- The flag is taken, or the channels cannot be listed, or there is a new batch.
  cases hacquire : m₀.acquire? with
  | none =>
      have hcalled : called m₀ l = m₀.retry l.waiter := by simp [called, start, hacquire]
      exact ⟨_, hcalled ▸ (Step.refused hcalls hacquire).steps⟩
  | some m₁ =>
      have hbegun : Step s probe ⟨m, ls, cs⟩ (.begun l) ⟨m₁, ls ++ [l], cs⟩ :=
        .begun hcalls hacquire
      rcases hlaunch : m₁.launch l.notifies l.waiter with ⟨e | _, m₂⟩
      · have hcalled : called m₀ l = m₂.retry l.waiter := by simp [called, start, hacquire, hlaunch]
        have hunlisted : Step s probe ⟨m₁, ls ++ [l], cs⟩ (.unlisted l)
            ⟨m₂.retry l.waiter, ls ++ [], cs⟩ := .unlisted hlaunch
        rw [List.append_nil, ← hcalled] at hunlisted
        exact ⟨_, .next hbegun hunlisted.steps⟩
      · have hcalled : called m₀ l = m₂ := by simp [called, start, hacquire, hlaunch]
        have hlisted : Step s probe ⟨m₁, ls ++ [l], cs⟩ (.listed l) ⟨m₂, ls ++ [], cs⟩ :=
          .listed hlaunch
        rw [List.append_nil, ← hcalled] at hlisted
        exact ⟨_, .next hbegun hlisted.steps⟩

theorem exists_steps_runJob {m : Monitor σ} {before after : List Job} {job : Job}
    (hready : m.ready = before ++ job :: after) (ls : List Listing) (cs : List Closing) :
    ∃ acts, Steps s probe ⟨m, ls, cs⟩ acts
      ⟨runJob s probe { m with ready := before ++ after } job, ls, cs⟩ := by
  cases hclosing : closing? s job with
  | some c =>
      have hended : Step s probe ⟨m, ls, cs⟩ (.ended c)
          ⟨{ m with ready := before ++ after }.release, ls, cs ++ [c]⟩ := .ended hready hclosing
      have htold : Step s probe ⟨{ m with ready := before ++ after }.release, ls, cs ++ [c]⟩
          (.told c) ⟨{ m with ready := before ++ after }.release.tell c, ls, cs ++ []⟩ :=
        .told _ ls cs [] c
      rw [List.append_nil, ← runJob_of_closing hclosing probe] at htold
      exact ⟨_, .next hended htold.steps⟩
  | none =>
      cases htrigger : isTrigger job with
      | false => exact ⟨_, (Step.turn hready htrigger hclosing).steps⟩
      | true =>
          obtain ⟨minutes, rfl⟩ := exists_minutes htrigger
          obtain ⟨acts, hsteps⟩ := exists_steps_called (.periodic hready) ls cs
          rw [called_periodic] at hsteps
          exact ⟨acts, hsteps⟩

theorem exists_steps_of_next {m m₁ : Monitor σ} {event : Event}
    (h : Next s probe m event m₁) (ls : List Listing) (cs : List Closing) :
    ∃ acts, Steps s probe ⟨m, ls, cs⟩ acts ⟨m₁, ls, cs⟩ := by
  cases h with
  | turn outage hready =>
      have hunder : (m.under outage).ready = _ := hready
      obtain ⟨acts, hsteps⟩ := exists_steps_runJob hunder ls cs
      exact ⟨_, .next (.weather m ls cs outage) hsteps⟩
  | alarm htimers => exact ⟨_, (Step.alarm htimers).steps⟩
  | start notifies outage =>
      obtain ⟨acts, hsteps⟩ := exists_steps_called (.manual notifies) ls cs
      rw [called_manual] at hsteps
      exact ⟨_, .next (.weather m ls cs outage) hsteps⟩
  | order id status reason => exact ⟨_, (Step.order m ls cs id status reason).steps⟩

theorem exists_steps_of_runs {m m₁ : Monitor σ} {events : List Event}
    (h : Runs s probe m events m₁) (ls : List Listing) (cs : List Closing) :
    ∃ acts, Steps s probe ⟨m, ls, cs⟩ acts ⟨m₁, ls, cs⟩ := by
  induction h with
  | refl m => exact ⟨[], .refl _⟩
  | next first _ ih =>
      obtain ⟨acts, hfirst⟩ := exists_steps_of_next first ls cs
      obtain ⟨acts', hrest⟩ := ih
      exact ⟨acts ++ acts', hfirst.trans hrest⟩

end Scene

end ModelGateway.Monitor
