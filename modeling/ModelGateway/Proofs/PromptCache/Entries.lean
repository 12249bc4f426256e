import ModelGateway.Proofs.PromptCache.Calls
import ModelGateway.Relay.Settlement
import ModelGateway.Wire.Gemini.Caching

/-!
# Entries of a store

A store has a view of the entries in its world: reading shows entries of the view, writing puts one
of them, and no call makes up another.  The store in memory has the view of its live entries.
-/

namespace ModelGateway

namespace PromptCache

variable {σ : Type}

/-- The worlds that can be, and the entries that live in each. -/
structure View (σ : Type) where
  Sound : σ → Prop
  entry? : σ → (key : String) → Option String

/-- A store whose calls may fail at any time, but that neither makes entries up nor loses them. -/
structure Store.Keeps (store : Store σ) (view : View σ) : Prop where
  get_keeps : ∀ {key w answer w'}, view.Sound w → store.get key w = (answer, w') →
    view.Sound w' ∧ view.entry? w' = view.entry? w
  get_shows : ∀ {key w found w'}, view.Sound w → store.get key w = (.ok found, w') →
    view.entry? w key = found
  set_sound : ∀ {key value ttlSecs w answer w'}, view.Sound w →
    store.set key value ttlSecs w = (answer, w') → view.Sound w'
  set_puts : ∀ {key value ttlSecs w w'}, view.Sound w → 0 < ttlSecs →
    store.set key value ttlSecs w = (.ok (), w') → view.entry? w' key = some value
  set_adds : ∀ {key value ttlSecs w answer w' other found}, view.Sound w →
    store.set key value ttlSecs w = (answer, w') → view.entry? w' other = some found →
      view.entry? w other = some found ∨ other = key ∧ found = value

/-- A provider that does not change the store. -/
structure Backend.Spares (backend : Backend σ) (view : View σ) : Prop where
  verify_keeps : ∀ {handle w answer w'}, view.Sound w →
    backend.verify handle w = (answer, w') → view.Sound w' ∧ view.entry? w' = view.entry? w
  create_keeps : ∀ {model ttlSecs displayName w answer w'}, view.Sound w →
    backend.create model ttlSecs displayName w = (answer, w') →
      view.Sound w' ∧ view.entry? w' = view.entry? w

/-- A provider whose creations never answer with an empty handle. -/
def Backend.Names (backend : Backend σ) : Prop :=
  ∀ {model ttlSecs displayName w handle w'},
    backend.create model ttlSecs displayName w = (.ok handle, w') → handle ≠ ""

def onePrompt (handle : String) : Backend σ where
  verify asked := return .ok (asked == handle)
  create _ _ _ := return .ok handle

theorem onePrompt_spares (handle : String) (view : View σ) : (onePrompt handle).Spares view where
  verify_keeps := by
    rintro asked w answer w' hsound ⟨⟩
    exact ⟨hsound, rfl⟩
  create_keeps := by
    rintro model ttlSecs displayName w answer w' hsound ⟨⟩
    exact ⟨hsound, rfl⟩

namespace Session

variable {s : PromptCacheSettings} {store : Store σ} {backend : Backend σ} {q : Query}
  {view : View σ} {w w' : σ} {session session' : Session} {call : Call}

theorem Moves.sound (hstore : store.Keeps view) (hbackend : backend.Spares view)
    (hsound : view.Sound w) (h : Moves s store backend q session w call session' w') :
    view.Sound w' := by
  cases h with
  | read h => exact (hstore.get_keeps hsound h).1
  | verify h => exact (hbackend.verify_keeps hsound h).1
  | create h => exact (hbackend.create_keeps hsound h).1
  | write h => exact hstore.set_sound hsound h

theorem Moves.keeps (hstore : store.Keeps view) (hbackend : backend.Spares view)
    (hsound : view.Sound w) (h : Moves s store backend q session w call session' w')
    (hcall : call.isWrite = false) : view.entry? w' = view.entry? w := by
  cases h with
  | read h => exact (hstore.get_keeps hsound h).2
  | verify h => exact (hbackend.verify_keeps hsound h).2
  | create h => exact (hbackend.create_keeps hsound h).2
  | write h => cases hcall

theorem Moves.adds {key value : String} (hstore : store.Keeps view)
    (hbackend : backend.Spares view) (hsound : view.Sound w)
    (h : Moves s store backend q session w call session' w')
    (hentry : view.entry? w' key = some value) :
    view.entry? w key = some value ∨ ∃ handle, session = .storing handle ∧ key = q.key s ∧
      value = Envelope.write handle q.channel := by
  cases h with
  | write h =>
      rcases hstore.set_adds hsound h hentry with hold | ⟨hkey, hvalue⟩
      · exact .inl hold
      · exact .inr ⟨_, rfl, hkey, hvalue⟩
  | read h => exact .inl (by rwa [(hstore.get_keeps hsound h).2] at hentry)
  | verify h => exact .inl (by rwa [(hbackend.verify_keeps hsound h).2] at hentry)
  | create h => exact .inl (by rwa [(hbackend.create_keeps hsound h).2] at hentry)

theorem Converses.keeps {calls : List Call} {result : Except CacheError Outcome}
    (hstore : store.Keeps view) (hbackend : backend.Spares view) (hsound : view.Sound w)
    (h : Converses s store backend q session w calls result w')
    (hcalls : ∀ call ∈ calls, call.isWrite = false) : view.entry? w' = view.entry? w := by
  induction h with
  | finished result w => rfl
  | next hmove hrest ih =>
      rw [ih (hmove.sound hstore hbackend hsound) fun call hcall =>
        hcalls call (List.mem_cons_of_mem _ hcall)]
      exact hmove.keeps hstore hbackend hsound (hcalls _ List.mem_cons_self)

end Session

/-! ## The store in memory -/

namespace Memory

def Distinct (m : Memory) : Prop := (m.entries.map (·.key)).Nodup

def live? (m : Memory) (now : Nat) (key : String) : Option String :=
  match m.look now key with
  | .live value => some value
  | _ => none

variable {m : Memory} {now ttl : Nat} {key other value found : String}

theorem Distinct.find? (h : m.Distinct) {e : Entry} (he : e ∈ m.entries) :
    m.find? e.key = some e := by
  obtain ⟨entries⟩ := m
  induction entries with
  | nil => cases he
  | cons first rest ih =>
      obtain ⟨hfirst, hrest⟩ := List.nodup_cons.mp h
      rcases List.mem_cons.mp he with rfl | hmem
      · simp [Memory.find?]
      · have hne : first.key ≠ e.key := by
          intro heq
          exact hfirst (List.mem_map.mpr ⟨e, hmem, heq.symm⟩)
        have hfind := ih hrest hmem
        simpa [Memory.find?, hne] using hfind

theorem live?_eq_some (h : m.Distinct) :
    m.live? now key = some value ↔
      ∃ e ∈ m.entries, e.key = key ∧ now < e.expires ∧ e.value = value := by
  unfold live? look
  constructor
  · intro hlive
    cases hfind : m.find? key with
    | none => simp [hfind] at hlive
    | some e =>
        have hkey : e.key = key := by simpa using List.find?_some hfind
        by_cases htime : now < e.expires
        · simp only [hfind, htime, if_true, Option.some.injEq] at hlive
          exact ⟨e, List.mem_of_find?_eq_some hfind, hkey, htime, hlive⟩
        · simp [hfind, htime] at hlive
  · rintro ⟨e, he, rfl, htime, rfl⟩
    simp [h.find? he, htime]

theorem Distinct.get (h : m.Distinct) : (m.get now key).2.Distinct := by
  have hremove : (m.remove key).Distinct := h.sublist (List.filter_sublist.map _)
  unfold Memory.get
  split <;> assumption

theorem Distinct.set (h : m.Distinct) : (m.set now key value ttl).Distinct := by
  unfold Distinct Memory.set
  rw [List.map_append, List.map_singleton, List.nodup_append]
  refine ⟨h.sublist (List.filter_sublist.map _), by simp, ?_⟩
  intro k hk k' hk'
  obtain ⟨e, he, rfl⟩ := List.mem_map.mp hk
  have hkey := (List.mem_filter.mp he).2
  simp only [Bool.and_eq_true, bne_iff_ne] at hkey
  rw [List.mem_singleton.mp hk']
  exact hkey.2

theorem live?_get (h : m.Distinct) : (m.get now key).2.live? now = m.live? now := by
  unfold Memory.get
  split
  · rfl
  · rfl
  · rename_i hexpired
    have hremove : (m.remove key).Distinct := h.sublist (List.filter_sublist.map _)
    funext other
    refine Option.ext fun found => ?_
    rw [live?_eq_some hremove, live?_eq_some h]
    constructor
    · rintro ⟨e, he, hrest⟩
      exact ⟨e, (List.mem_filter.mp he).1, hrest⟩
    · rintro ⟨e, he, hkey, htime, hvalue⟩
      have hne : e.key ≠ key := by
        rintro rfl
        simp [look, h.find? he, htime] at hexpired
      exact ⟨e, List.mem_filter.mpr ⟨he, by simpa using hne⟩, hkey, htime, hvalue⟩

theorem get_fst (m : Memory) (now : Nat) (key : String) : (m.get now key).1 = m.live? now key := by
  unfold Memory.get live?
  split <;> simp_all

theorem live?_set_self (h : m.Distinct) (httl : 0 < ttl) :
    (m.set now key value ttl).live? now key = some value :=
  (live?_eq_some h.set).mpr
    ⟨⟨key, value, now + ttl⟩, by simp [Memory.set], rfl, by simp; omega, rfl⟩

theorem live?_set (h : m.Distinct) (hlive : (m.set now key value ttl).live? now other = some found) :
    m.live? now other = some found ∨ other = key ∧ found = value := by
  obtain ⟨e, he, hkey, htime, hvalue⟩ := (live?_eq_some h.set).mp hlive
  rcases List.mem_append.mp he with hold | hnew
  · exact .inl ((live?_eq_some h).mpr ⟨e, (List.mem_filter.mp hold).1, hkey, htime, hvalue⟩)
  · obtain rfl := List.mem_singleton.mp hnew
    exact .inr ⟨hkey.symm, hvalue.symm⟩

end Memory

end PromptCache

namespace RelayState

open PromptCache (View)

variable {σ : Type}

def view : View (RelayState σ) where
  Sound r := r.memory.Distinct
  entry? r := r.memory.live? r.stamp.now

theorem store_keeps : (store (σ := σ)).Keeps view where
  get_keeps := by
    rintro key w answer w' hsound ⟨⟩
    exact ⟨hsound.get, PromptCache.Memory.live?_get hsound⟩
  get_shows := by
    rintro key w found w' hsound ⟨⟩
    exact (PromptCache.Memory.get_fst _ _ _).symm
  set_sound := by
    rintro key value ttlSecs w answer w' hsound ⟨⟩
    exact hsound.set
  set_puts := by
    rintro key value ttlSecs w w' hsound httl ⟨⟩
    exact PromptCache.Memory.live?_set_self hsound httl
  set_adds := by
    rintro key value ttlSecs w answer w' other found hsound ⟨⟩ hentry
    exact PromptCache.Memory.live?_set hsound hentry

theorem exchange_sends (network : Network σ) (call : Call) (method : Method) (url : String)
    (body : Option Json) (w : σ) :
    (Wire.Gemini.exchange network call method url body w).2 = w ∨
      ∃ request, (Wire.Gemini.exchange network call method url body w).2 =
        (network request w).2 := by
  unfold Wire.Gemini.exchange
  cases Wire.Gemini.authorization call with
  | error f => exact .inl rfl
  | ok header =>
      refine .inr ⟨⟨method, url, if body.isSome then [jsonHeader, header] else [header], body,
        call.timeoutMs⟩, ?_⟩
      simp only [bind, StateT.bind]
      split
      rename_i answer w' heq
      rw [heq]
      cases answer <;> rfl

theorem exchange_keeps (network : Network σ) (call : Call) (method : Method) (url : String)
    (body : Option Json) {r : RelayState σ} (hsound : view.Sound r) :
    view.Sound (Wire.Gemini.exchange (RelayState.network network) call method url body r).2 ∧
      view.entry? (Wire.Gemini.exchange (RelayState.network network) call method url body r).2 =
        view.entry? r := by
  rcases exchange_sends (RelayState.network network) call method url body r with
    hnone | ⟨request, hone⟩
  · rw [hnone]
    exact ⟨hsound, rfl⟩
  · rw [hone]
    exact ⟨hsound, rfl⟩

theorem gemini_spares (network : Network σ) (call : Call) (shared : Wire.Gemini.Shared) :
    (Wire.Gemini.backend (RelayState.network network) call shared).Spares view where
  verify_keeps := by
    intro handle r answer r' hsound h
    obtain rfl := congrArg Prod.snd h
    exact exchange_keeps network call _ _ _ hsound
  create_keeps := by
    intro model ttlSecs displayName r answer r' hsound h
    obtain rfl := congrArg Prod.snd h
    exact exchange_keeps network call _ _ _ hsound

end RelayState

namespace Wire.Gemini

variable {σ : Type}

theorem keptHandle_ne_empty {answer : Except PromptCache.CacheError HttpResponse} {handle : String}
    (h : keptHandle answer = .ok handle) : handle ≠ "" := by
  unfold keptHandle at h
  split at h
  · cases h
  · split at h
    · cases h
    · split at h
      · cases h
      · split at h
        · cases h
        · rename_i hname
          cases h
          simpa using hname

theorem backend_names (network : Network σ) (call : Call) (shared : Shared) :
    (backend network call shared).Names := by
  intro model ttlSecs displayName w handle w' h
  exact keptHandle_ne_empty (congrArg Prod.fst h)

end Wire.Gemini

end ModelGateway
