import ModelGateway.PromptCache.Memory
import Mathlib.Tactic.ByContra

/-!
# Concurrent calls on one memory

A call holds the memory for one section at a time.  A read that has seen an expired entry lets go of
the memory before it removes what stands under the key, and a write may put another entry there in
between.  That entry is lost; no other is, and no read shows an entry that had expired when it
began.
-/

namespace ModelGateway.PromptCache

namespace Memory

variable {m : Memory} {key other value : String} {now ttl : Nat} {e : Entry}

theorem find?_remove_self (m : Memory) (key : String) : (m.remove key).find? key = none := by
  simp [Memory.find?, remove]

theorem find?_remove_of_ne (h : other ≠ key) : (m.remove key).find? other = m.find? other := by
  simp only [Memory.find?, remove, List.find?_filter]
  congr 1
  funext e
  by_cases he : e.key = other <;> simp [he, h]

theorem find?_set_self (m : Memory) (now : Nat) (key value : String) (ttl : Nat) :
    (m.set now key value ttl).find? key = some ⟨key, value, now + ttl⟩ := by
  have hothers : (m.entries.filter fun e => now < e.expires && e.key != key).find?
      (·.key == key) = none := by
    simp
  simp [Memory.find?, set, List.find?_append, hothers]

def unexpired (m : Memory) (now : Nat) : Memory := ⟨m.entries.filter fun e => now < e.expires⟩

theorem find?_filter_of_find? {p : Entry → Bool} {entries : List Entry}
    (h : entries.find? (·.key == key) = some e) (hp : p e = true) :
    (entries.filter p).find? (·.key == key) = some e := by
  induction entries with
  | nil => cases h
  | cons first rest ih =>
      by_cases hkey : first.key = key
      · obtain rfl : first = e := by simpa [hkey] using h
        simp [hp, hkey]
      · have hrest : rest.find? (·.key == key) = some e := by simpa [hkey] using h
        by_cases hfirst : p first = true <;> simp [hfirst, hkey, ih hrest]

theorem find?_unexpired (h : m.find? key = some e) (hlive : now < e.expires) :
    (m.unexpired now).find? key = some e :=
  find?_filter_of_find? h (by simpa using hlive)

theorem find?_set_of_ne (hne : other ≠ key) (h : m.find? other = some e)
    (hlive : now < e.expires) : (m.set now key value ttl).find? other = some e := by
  have hkey : e.key = other := by simpa using List.find?_some h
  have hkept := find?_filter_of_find? (p := fun e => now < e.expires && e.key != key) h
    (by simp [hlive, hkey, hne])
  simp [Memory.find?, set, List.find?_append, hkept]

end Memory

/-! ## Calls in progress -/

/-- A call that waits for its next section. -/
inductive Task where
  /-- A read that began at the given time and has not seen the memory yet. -/
  | reading (key : String) (since : Nat)
  /-- A read that saw an expired entry. -/
  | removing (key : String)
  | writing (key value : String) (ttl : Nat)
  deriving DecidableEq, Repr

def Task.Begins (now : Nat) : Task → Prop
  | .reading _ since => since = now
  | .removing _ => False
  | .writing .. => True

def Task.afterLook (key : String) : Holding → List Task
  | .expired => [.removing key]
  | .live _ | .nothing => []

/-- A memory, and the calls in progress on it. -/
structure Sharing where
  memory : Memory := {}
  now : Nat := 0
  tasks : List Task := []
  deriving DecidableEq, Repr

inductive Event where
  | passed
  | called (task : Task)
  | looked (key : String) (since : Nat) (found : Holding)
  | removed (key : String)
  | stored (key value : String) (ttl : Nat)
  /-- A write that crashed, since the clock has no time for its entry to expire at. -/
  | overran (key : String)
  /-- A call that was given up. -/
  | dropped (task : Task)
  deriving DecidableEq, Repr

namespace Event

def key? : Event → Option String
  | .looked key _ _ | .removed key | .stored key _ _ | .overran key => some key
  | .passed | .called _ | .dropped _ => none

def storedKey? : Event → Option String
  | .stored key _ _ => some key
  | _ => none

theorem spares_of_key? {e : Event} {key : String} (h : e.key? ≠ some key) :
    e.storedKey? ≠ some key ∧ e ≠ .removed key := by
  cases e with
  | stored => exact ⟨h, nofun⟩
  | removed =>
      refine ⟨nofun, ?_⟩
      rintro ⟨⟩
      exact h rfl
  | passed | called | looked | overran | dropped => exact ⟨nofun, nofun⟩

end Event

inductive Step : Sharing → Event → Sharing → Prop
  | pass {s : Sharing} {later : Nat} (h : s.now ≤ later) : Step s .passed { s with now := later }
  | call {s : Sharing} {task : Task} (h : task.Begins s.now) :
      Step s (.called task) { s with tasks := task :: s.tasks }
  | look {s : Sharing} {key : String} {since : Nat} (h : .reading key since ∈ s.tasks) :
      Step s (.looked key since (s.memory.look since key))
        { s with
          tasks := Task.afterLook key (s.memory.look since key) ++
            s.tasks.erase (.reading key since) }
  | remove {s : Sharing} {key : String} (h : .removing key ∈ s.tasks) :
      Step s (.removed key)
        { s with memory := s.memory.remove key, tasks := s.tasks.erase (.removing key) }
  | store {s : Sharing} {key value : String} {ttl : Nat} (h : .writing key value ttl ∈ s.tasks)
      (httl : Memory.isCountable ttl = true) :
      Step s (.stored key value ttl)
        { s with
          memory := s.memory.set s.now key value ttl
          tasks := s.tasks.erase (.writing key value ttl) }
  | overrun {s : Sharing} {key value : String} {ttl : Nat} (h : .writing key value ttl ∈ s.tasks)
      (httl : Memory.isCountable ttl = false) :
      Step s (.overran key)
        { s with
          memory := s.memory.unexpired s.now
          tasks := s.tasks.erase (.writing key value ttl) }
  | drop {s : Sharing} {task : Task} (h : task ∈ s.tasks) :
      Step s (.dropped task) { s with tasks := s.tasks.erase task }

inductive Runs : Sharing → List Event → Sharing → Prop
  | refl (s : Sharing) : Runs s [] s
  | snoc {s mid s' : Sharing} {events : List Event} {e : Event} (h : Runs s events mid)
      (hstep : Step mid e s') : Runs s (events ++ [e]) s'

namespace Sharing

variable {s s' mid after : Sharing} {events : List Event} {e : Event} {key other value : String}
  {since ttl expires : Nat} {entry : Entry}

def Timed (s : Sharing) : Prop := ∀ key since, .reading key since ∈ s.tasks → since ≤ s.now

theorem now_le_of_step (h : Step s e s') : s.now ≤ s'.now := by
  cases h with
  | pass h => exact h
  | call | look | remove | store | overrun | drop => exact Nat.le_refl _

theorem not_reading_afterLook {found : Holding} :
    .reading other since ∉ Task.afterLook key found := by
  cases found <;> simp [Task.afterLook]

theorem Timed.step (ht : s.Timed) (h : Step s e s') : s'.Timed := by
  intro key since hmem
  cases h with
  | pass h => exact Nat.le_trans (ht key since hmem) h
  | call h =>
      rcases List.mem_cons.mp hmem with rfl | hold
      · exact Nat.le_of_eq h
      · exact ht key since hold
  | look h =>
      rcases List.mem_append.mp hmem with hnew | hold
      · exact absurd hnew not_reading_afterLook
      · exact ht key since (List.mem_of_mem_erase hold)
  | remove | store | overrun | drop => exact ht key since (List.mem_of_mem_erase hmem)

theorem shown_of_step (h : Step s (.looked key since (.live value)) s') :
    ∃ entry, s.memory.find? key = some entry ∧ entry.value = value ∧ since < entry.expires := by
  generalize hfound : Holding.live value = found at h
  cases h with
  | look h =>
      unfold Memory.look at hfound
      cases hentry : s.memory.find? key with
      | none => simp [hentry] at hfound
      | some entry =>
          by_cases hlive : since < entry.expires
          · simp only [hentry, hlive, if_true, Holding.live.injEq] at hfound
            exact ⟨entry, rfl, hfound.symm, hlive⟩
          · simp [hentry, hlive] at hfound

/-- A live entry stays unless another takes its place or a read removes what stands there. -/
theorem find?_of_step (h : Step s e s') (hstored : e.storedKey? ≠ some other)
    (hremoved : e ≠ .removed other) (hentry : s.memory.find? other = some entry)
    (hlive : s.now < entry.expires) : s'.memory.find? other = some entry := by
  cases h with
  | pass | call | look | drop => exact hentry
  | remove =>
      have hne : other ≠ _ := fun heq => hremoved (congrArg Event.removed heq.symm)
      exact (Memory.find?_remove_of_ne hne).trans hentry
  | store =>
      have hne : other ≠ _ := fun heq => hstored (congrArg some heq.symm)
      exact Memory.find?_set_of_ne hne hentry hlive
  | overrun => exact Memory.find?_unexpired hentry hlive

/-- A read that nothing comes between does what `Memory.get` does. -/
theorem runs_get (s : Sharing) (key : String) :
    ∃ events, Runs s events { s with memory := (s.memory.get s.now key).2 } ∧
      .looked key s.now (s.memory.look s.now key) ∈ events := by
  have hcall : Step s (.called (.reading key s.now))
      { s with tasks := .reading key s.now :: s.tasks } := .call rfl
  have hlook := (Runs.refl s).snoc hcall |>.snoc (.look List.mem_cons_self)
  simp only [List.erase_cons_head] at hlook
  cases hfound : s.memory.look s.now key with
  | nothing | live =>
      simp only [hfound, Task.afterLook, List.nil_append] at hlook
      exact ⟨_, by simpa [Memory.get, hfound] using hlook, by simp⟩
  | expired =>
      simp only [hfound, Task.afterLook] at hlook
      have hremove := hlook.snoc (.remove List.mem_cons_self)
      exact ⟨_, by simpa [Memory.get, hfound] using hremove, by simp⟩

/-! ## An entry that stays -/

/-- The entry stands under its key, and no read is about to remove what stands there. -/
structure Safe (s : Sharing) (entry : Entry) : Prop where
  timed : s.Timed
  held : s.memory.find? entry.key = some entry
  spared : .removing entry.key ∉ s.tasks

theorem Safe.look (h : s.Safe entry) (hlive : s.now < entry.expires)
    (hmem : .reading entry.key since ∈ s.tasks) :
    s.memory.look since entry.key = .live entry.value := by
  have hsince := h.timed _ _ hmem
  simp [Memory.look, h.held, Nat.lt_of_le_of_lt hsince hlive]

theorem Safe.step (h : s.Safe entry) (hstep : Step s e s') (hstored : e.storedKey? ≠ some entry.key)
    (hlive : s.now < entry.expires) : s'.Safe entry := by
  refine ⟨h.timed.step hstep, find?_of_step hstep hstored ?_ h.held hlive, ?_⟩
  · rintro rfl
    cases hstep with
    | remove hmem => exact h.spared hmem
  · cases hstep with
    | pass => exact h.spared
    | call hbegins =>
        intro hmem
        rcases List.mem_cons.mp hmem with rfl | hold
        · exact hbegins
        · exact h.spared hold
    | @look key since hmem =>
        intro hremoving
        rcases List.mem_append.mp hremoving with hnew | hold
        · -- The read that goes on to remove saw an entry whose time was over, which is not this one.
          cases hfound : s.memory.look since key with
          | nothing | live => simp [hfound, Task.afterLook] at hnew
          | expired =>
              obtain rfl : entry.key = key := by simpa [hfound, Task.afterLook] using hnew
              cases hfound.symm.trans (h.look hlive hmem)
        · exact h.spared (List.mem_of_mem_erase hold)
    | remove | store | overrun | drop => exact fun hmem => h.spared (List.mem_of_mem_erase hmem)

theorem now_le_of_runs (h : Runs s events s') : s.now ≤ s'.now := by
  induction h with
  | refl => exact Nat.le_refl _
  | snoc h hstep ih => exact Nat.le_trans ih (now_le_of_step hstep)

theorem Timed.runs (ht : s.Timed) (h : Runs s events s') : s'.Timed := by
  induction h with
  | refl => exact ht
  | snoc h hstep ih => exact ih.step hstep

def Leaves (key : String) (events : List Event) : Prop := ∀ e ∈ events, e.storedKey? ≠ some key

theorem Safe.runs (h : s.Safe entry) (hruns : Runs s events s') (hleaves : Leaves entry.key events)
    (hlive : s'.now < entry.expires) : s'.Safe entry := by
  induction hruns with
  | refl => exact h
  | @snoc mid s' events e hruns hstep ih =>
      have hmid : mid.now < entry.expires := Nat.lt_of_le_of_lt (now_le_of_step hstep) hlive
      have hsafe := ih (fun e he => hleaves e (List.mem_append_left _ he)) hmid
      exact hsafe.step hstep (hleaves e (by simp)) hmid

/-- Every read of the key shows the entry until it expires or another is stored under the key. -/
structure Kept (s : Sharing) (entry : Entry) : Prop where
  stays : ∀ {events s'}, Runs s events s' → Leaves entry.key events → s'.now < entry.expires →
    s'.memory.find? entry.key = some entry
  shows : ∀ {events mid since found after}, Runs s events mid → Leaves entry.key events →
    mid.now < entry.expires → Step mid (.looked entry.key since found) after →
      found = .live entry.value

theorem Safe.kept (h : s.Safe entry) : s.Kept entry where
  stays hruns hleaves hlive := (h.runs hruns hleaves hlive).held
  shows hruns hleaves hlive hstep := by
    cases hstep with
    | look hmem => exact (h.runs hruns hleaves hlive).look hlive hmem

theorem not_kept_of_removing (hremoving : .removing entry.key ∈ s.tasks)
    (hlive : s.now < entry.expires) : ¬ s.Kept entry := by
  intro hkept
  have hruns := (Runs.refl s).snoc (.remove hremoving)
  have hheld := hkept.stays hruns (by simp [Leaves, Event.storedKey?]) hlive
  rw [Memory.find?_remove_self] at hheld
  cases hheld

/-- An entry that was stored is kept exactly if no read was about to remove what its key holds, or
it expires at once.  No read shows an entry that had expired when the read began, and no section
changes a live entry under another key. -/
theorem stored_kept_iff (hruns : Runs {} events s) (hstore : Step s (.stored key value ttl) s') :
    (s'.Kept ⟨key, value, s.now + ttl⟩ ↔ ttl = 0 ∨ .removing key ∉ s'.tasks) ∧
    (∀ {mid e after}, Step mid e after →
      (∀ key since value, e = .looked key since (.live value) →
        ∃ entry, mid.memory.find? key = some entry ∧ entry.value = value ∧
          since < entry.expires) ∧
      ∀ other entry, e.key? ≠ some other → mid.memory.find? other = some entry →
        mid.now < entry.expires → after.memory.find? other = some entry) ∧
    ∀ before other, ∃ events,
      Runs before events { before with memory := (before.memory.get before.now other).2 } ∧
      .looked other before.now (before.memory.look before.now other) ∈ events := by
  have ht : s.Timed := Timed.runs (by simp [Timed]) hruns
  refine ⟨?_, fun hstep => ⟨?_, fun other entry hkey hentry hlive => ?_⟩, runs_get⟩
  · have hnow : s'.now = s.now := by
      cases hstore
      rfl
    have hheld : s'.memory.find? key = some ⟨key, value, s.now + ttl⟩ := by
      cases hstore
      exact Memory.find?_set_self ..
    constructor
    · intro hkept
      by_contra! hremoving
      obtain ⟨httl, hmem⟩ := hremoving
      exact not_kept_of_removing hmem (by simp; omega) hkept
    · rintro (rfl | hspared)
      · refine ⟨fun hruns _ hlive => ?_, fun hruns _ hlive => ?_⟩ <;>
          · have hle := now_le_of_runs hruns
            simp at hlive
            omega
      · exact Safe.kept ⟨ht.step hstore, hheld, hspared⟩
  · rintro key since value rfl
    exact shown_of_step hstep
  · obtain ⟨hstored, hremoved⟩ := Event.spares_of_key? hkey
    exact find?_of_step hstep hstored hremoved hentry hlive

theorem stored_kept_iff_beside_a_read :
    ∃ s s', Runs {} [.called (.reading "k" 0), .called (.writing "k" "a" 60)] s ∧
      Step s (.stored "k" "a" 60) s' ∧ .reading "k" 0 ∈ s'.tasks ∧ s'.Kept ⟨"k", "a", 60⟩ := by
  have hread : Step {} (.called (.reading "k" 0)) { tasks := [.reading "k" 0] } := .call rfl
  have hwrite : Step { tasks := [.reading "k" 0] } (.called (.writing "k" "a" 60))
      { tasks := [.writing "k" "a" 60, .reading "k" 0] } := .call trivial
  have hstore : Step { tasks := [.writing "k" "a" 60, .reading "k" 0] } (.stored "k" "a" 60)
      ⟨⟨[⟨"k", "a", 60⟩]⟩, 0, [.reading "k" 0]⟩ := .store (by simp) rfl
  have hruns := ((Runs.refl {}).snoc hread).snoc hwrite
  have hkept := (stored_kept_iff hruns hstore).1.mpr (.inr (by simp))
  exact ⟨_, _, hruns, hstore, by simp, hkept⟩

/-- A read that saw an entry whose time was over removes the one that a write has since put in its
place. -/
theorem fresh_entry_removed :
    ∃ s s', Runs {} [.called (.writing "k" "a" 1), .stored "k" "a" 1, .passed,
        .called (.reading "k" 1), .looked "k" 1 .expired, .called (.writing "k" "b" 60),
        .stored "k" "b" 60] s ∧
      s.memory.find? "k" = some ⟨"k", "b", 61⟩ ∧
      Step s (.removed "k") s' ∧ s'.now = 1 ∧ s'.memory.find? "k" = none := by
  have hwrite : Step {} (.called (.writing "k" "a" 1)) { tasks := [.writing "k" "a" 1] } :=
    .call trivial
  have hstore : Step { tasks := [.writing "k" "a" 1] } (.stored "k" "a" 1)
      ⟨⟨[⟨"k", "a", 1⟩]⟩, 0, []⟩ := .store (by simp) rfl
  have hpass : Step ⟨⟨[⟨"k", "a", 1⟩]⟩, 0, []⟩ .passed ⟨⟨[⟨"k", "a", 1⟩]⟩, 1, []⟩ :=
    .pass (Nat.zero_le 1)
  have hread : Step ⟨⟨[⟨"k", "a", 1⟩]⟩, 1, []⟩ (.called (.reading "k" 1))
      ⟨⟨[⟨"k", "a", 1⟩]⟩, 1, [.reading "k" 1]⟩ := .call rfl
  have hlook : Step ⟨⟨[⟨"k", "a", 1⟩]⟩, 1, [.reading "k" 1]⟩ (.looked "k" 1 .expired)
      ⟨⟨[⟨"k", "a", 1⟩]⟩, 1, [.removing "k"]⟩ := .look (by simp)
  have hagain : Step ⟨⟨[⟨"k", "a", 1⟩]⟩, 1, [.removing "k"]⟩ (.called (.writing "k" "b" 60))
      ⟨⟨[⟨"k", "a", 1⟩]⟩, 1, [.writing "k" "b" 60, .removing "k"]⟩ := .call trivial
  have hfresh : Step ⟨⟨[⟨"k", "a", 1⟩]⟩, 1, [.writing "k" "b" 60, .removing "k"]⟩
      (.stored "k" "b" 60) ⟨⟨[⟨"k", "b", 61⟩]⟩, 1, [.removing "k"]⟩ := .store (by simp) rfl
  have hruns := (Runs.refl {}).snoc hwrite |>.snoc hstore |>.snoc hpass |>.snoc hread
    |>.snoc hlook |>.snoc hagain |>.snoc hfresh
  exact ⟨_, _, hruns, rfl, .remove (by simp), rfl, rfl⟩

end Sharing

end ModelGateway.PromptCache
