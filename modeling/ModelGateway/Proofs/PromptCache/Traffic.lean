import ModelGateway.Proofs.PromptCache.Entries
import ModelGateway.Proofs.PromptCache.Envelope
import ModelGateway.Proofs.PromptCache.Keys

/-!
# Concurrent sessions

Any number of sessions share a store, and any of them may make the next call.  In between, entries
may expire, and writes may take effect that were given up.  The invariant is that every entry and
every handle in a session comes from a creation for its channel under its key.
-/

namespace ModelGateway.PromptCache

variable {σ : Type}

def Session.handle? : Session → Option String
  | .verifying handle => some handle
  | .storing handle => some handle
  | .finished (.ok outcome) => some outcome.handle
  | _ => none

structure Flight (σ : Type) where
  query : Query
  backend : Backend σ
  session : Session

/-- Sessions that share a world, and all calls that they have made. -/
structure Traffic (σ : Type) where
  world : σ
  flights : List (Flight σ)
  said : List (Query × Call)

namespace Traffic

/-- A session begins or makes its next call, or entries expire or are written late. -/
inductive Next (s : PromptCacheSettings) (store : Store σ) (view : View σ) :
    Traffic σ → Traffic σ → Prop
  | begin (t : Traffic σ) {q : Query} {backend : Backend σ} (hspares : backend.Spares view)
      (hfingerprint : IsFingerprint q.preamble.fingerprint)
      (hchannel : Envelope.IsChannelId q.channel) :
      Next s store view t { t with flights := t.flights ++ [⟨q, backend, .reading⟩] }
  | move {t : Traffic σ} {before after : List (Flight σ)} {f : Flight σ} {call : Call}
      {session : Session} {w : σ} (hflights : t.flights = before ++ f :: after)
      (hmove : Session.Moves s store f.backend f.query f.session t.world call session w) :
      Next s store view t
        ⟨w, before ++ { f with session } :: after, t.said ++ [(f.query, call)]⟩
  | lapse (t : Traffic σ) {w : σ} (hsound : view.Sound w)
      (hentries : ∀ key value, view.entry? w key = some value →
        view.entry? t.world key = some value ∨
          ∃ q ttlSecs answer, (q, Call.write key value ttlSecs answer) ∈ t.said) :
      Next s store view t { t with world := w }

inductive Reachable (s : PromptCacheSettings) (store : Store σ) (view : View σ) :
    Traffic σ → Prop
  | start {w : σ} (hsound : view.Sound w) (hempty : ∀ key, view.entry? w key = none) :
      Reachable s store view ⟨w, [], []⟩
  | next {t t' : Traffic σ} (h : Reachable s store view t) (hnext : Next s store view t t') :
      Reachable s store view t'

/-! ## What handles come from -/

def Created (s : PromptCacheSettings) (said : List (Query × Call)) (q : Query)
    (handle : String) : Prop :=
  (q, Call.create q.model (max s.ttlSecs 1) q.digest (.ok handle)) ∈ said

/-- The handle was created for the channel and the key of the query. -/
def Owned (s : PromptCacheSettings) (said : List (Query × Call)) (q : Query)
    (handle : String) : Prop :=
  ∃ maker : Query, Created s said maker handle ∧ maker.channel = q.channel ∧
    maker.key s = q.key s

/-- What stands under a key is an envelope for a handle that was created under that key. -/
def Backed (s : PromptCacheSettings) (said : List (Query × Call)) (key value : String) : Prop :=
  ∃ maker handle, Created s said maker handle ∧ maker.key s = key ∧
    value = Envelope.write handle maker.channel

/-- The invariant of all reachable traffic. -/
structure Sourced (s : PromptCacheSettings) (view : View σ) (t : Traffic σ) : Prop where
  sound : view.Sound t.world
  proper : ∀ f ∈ t.flights, f.backend.Spares view ∧ IsFingerprint f.query.preamble.fingerprint ∧
    Envelope.IsChannelId f.query.channel
  asked : ∀ q call, (q, call) ∈ t.said → ∃ f ∈ t.flights, f.query = q
  entries : ∀ key value, view.entry? t.world key = some value → Backed s t.said key value
  writes : ∀ q key value ttlSecs answer, (q, Call.write key value ttlSecs answer) ∈ t.said →
    Backed s t.said key value
  handles : ∀ f ∈ t.flights, ∀ handle, f.session.handle? = some handle →
    Owned s t.said f.query handle

variable {s : PromptCacheSettings} {store : Store σ} {view : View σ} {t t' : Traffic σ}

theorem Owned.more {said : List (Query × Call)} {q : Query} {handle : String}
    (h : Owned s said q handle) (later : List (Query × Call)) :
    Owned s (said ++ later) q handle := by
  obtain ⟨maker, hcreated, hsame⟩ := h
  exact ⟨maker, List.mem_append_left later hcreated, hsame⟩

theorem Backed.more {said : List (Query × Call)} {key value : String}
    (h : Backed s said key value) (later : List (Query × Call)) :
    Backed s (said ++ later) key value := by
  obtain ⟨maker, handle, hcreated, hmade⟩ := h
  exact ⟨maker, handle, List.mem_append_left later hcreated, hmade⟩

theorem Owned.backed {said : List (Query × Call)} {q : Query} {handle : String}
    (h : Owned s said q handle) :
    Backed s said (q.key s) (Envelope.write handle q.channel) := by
  obtain ⟨maker, hcreated, hchannel, hkey⟩ := h
  exact ⟨maker, handle, hcreated, hkey, hchannel ▸ rfl⟩

theorem Sourced.owned_of_entry (h : Sourced s view t) {q : Query} {raw handle : String}
    (hentry : view.entry? t.world (q.key s) = some raw) (hgrants : Grants raw handle q.channel) :
    Owned s t.said q handle := by
  obtain ⟨maker, made, hcreated, hkey, rfl⟩ := h.entries _ _ hentry
  obtain ⟨f, hf, rfl⟩ := h.asked _ _ hcreated
  obtain ⟨owner, hread, howner⟩ := hgrants
  have henvelope := Envelope.eq_of_read?_write (h.proper f hf).2.2 hread
  injection henvelope with hhandle hchannel
  subst hhandle hchannel
  refine ⟨f.query, hcreated, ?_, hkey⟩
  simpa using howner

theorem Sourced.owned_of_move (h : Sourced s view t) (hstore : store.Keeps view) {f : Flight σ}
    (hf : f ∈ t.flights) {call : Call} {session : Session} {w : σ} {handle : String}
    (hmove : Session.Moves s store f.backend f.query f.session t.world call session w)
    (hhandle : session.handle? = some handle) :
    Owned s (t.said ++ [(f.query, call)]) f.query handle := by
  have hkept := h.handles f hf
  obtain ⟨q, backend, before⟩ := f
  cases hmove with
  | @read _ _ answer hget =>
      rcases Session.afterReading_cases q.channel answer with
        ⟨raw, other, rfl, hgrants, hafter⟩ | ⟨-, hafter⟩
      · rw [hafter] at hhandle
        obtain rfl := Option.some.inj hhandle
        exact (h.owned_of_entry (hstore.get_shows h.sound hget) hgrants).more _
      · rw [hafter] at hhandle
        cases hhandle
  | @verify _ _ other answer hverify =>
      by_cases hconfirmed : answer = .ok true
      · subst hconfirmed
        exact (hkept handle hhandle).more _
      · rw [Session.afterVerifying_of_ne hconfirmed] at hhandle
        cases hhandle
  | @create _ _ answer hcreate =>
      cases answer with
      | error e => cases hhandle
      | ok made =>
          obtain rfl := Option.some.inj hhandle
          exact ⟨q, List.mem_append_right _ List.mem_cons_self, rfl, rfl⟩
  | write hwrite => exact (hkept handle hhandle).more _

theorem Sourced.backed_of_write (h : Sourced s view t) {f : Flight σ} (hf : f ∈ t.flights)
    {session : Session} {w : σ} {key value : String} {ttlSecs : Nat}
    {answer : Except CacheError Unit}
    (hmove : Session.Moves s store f.backend f.query f.session t.world
      (.write key value ttlSecs answer) session w) : Backed s t.said key value := by
  have hkept := h.handles f hf
  obtain ⟨q, backend, before⟩ := f
  cases hmove with
  | write hset => exact (hkept _ rfl).backed

theorem Sourced.begin (h : Sourced s view t) {q : Query} {backend : Backend σ}
    (hspares : backend.Spares view) (hfingerprint : IsFingerprint q.preamble.fingerprint)
    (hchannel : Envelope.IsChannelId q.channel) :
    Sourced s view { t with flights := t.flights ++ [⟨q, backend, .reading⟩] } where
  sound := h.sound
  proper f hf := by
    rcases List.mem_append.mp hf with hold | hnew
    · exact h.proper f hold
    · rw [List.mem_singleton.mp hnew]
      exact ⟨hspares, hfingerprint, hchannel⟩
  asked q call hsaid := by
    obtain ⟨f, hf, hquery⟩ := h.asked q call hsaid
    exact ⟨f, List.mem_append_left _ hf, hquery⟩
  entries := h.entries
  writes := h.writes
  handles f hf handle hhandle := by
    rcases List.mem_append.mp hf with hold | hnew
    · exact h.handles f hold handle hhandle
    · rw [List.mem_singleton.mp hnew] at hhandle
      cases hhandle

theorem Sourced.move (h : Sourced s view t) (hstore : store.Keeps view)
    {before after : List (Flight σ)} {f : Flight σ} {call : Call} {session : Session} {w : σ}
    (hflights : t.flights = before ++ f :: after)
    (hmove : Session.Moves s store f.backend f.query f.session t.world call session w) :
    Sourced s view ⟨w, before ++ { f with session } :: after, t.said ++ [(f.query, call)]⟩ := by
  have hf : f ∈ t.flights := hflights ▸ List.mem_append_right _ List.mem_cons_self
  have hspares := (h.proper f hf).1
  have hcases : ∀ g ∈ before ++ { f with session } :: after,
      g ∈ t.flights ∨ g = { f with session } := by
    intro g hg
    rw [hflights]
    simp only [List.mem_append, List.mem_cons] at hg ⊢
    tauto
  refine ⟨hmove.sound hstore hspares h.sound, ?_, ?_, ?_, ?_, ?_⟩
  · intro g hg
    rcases hcases g hg with hold | rfl
    · exact h.proper g hold
    · exact h.proper f hf
  · intro q call' hsaid
    rcases List.mem_append.mp hsaid with hold | hnew
    · obtain ⟨g, hg, hquery⟩ := h.asked q call' hold
      rw [hflights] at hg
      rcases List.mem_append.mp hg with hbefore | hrest
      · exact ⟨g, List.mem_append_left _ hbefore, hquery⟩
      · rcases List.mem_cons.mp hrest with rfl | hafter
        · exact ⟨_, List.mem_append_right _ List.mem_cons_self, hquery⟩
        · exact ⟨g, List.mem_append_right _ (List.mem_cons_of_mem _ hafter), hquery⟩
    · obtain ⟨rfl, rfl⟩ := Prod.mk.inj (List.mem_singleton.mp hnew)
      exact ⟨_, List.mem_append_right _ List.mem_cons_self, rfl⟩
  · intro key value hentry
    rcases hmove.adds hstore hspares h.sound hentry with hold | ⟨handle, hstoring, rfl, rfl⟩
    · exact (h.entries key value hold).more _
    · exact (h.handles f hf handle (hstoring ▸ rfl)).backed.more _
  · intro q key value ttlSecs answer hsaid
    rcases List.mem_append.mp hsaid with hold | hnew
    · exact (h.writes q key value ttlSecs answer hold).more _
    · obtain ⟨rfl, rfl⟩ := Prod.mk.inj (List.mem_singleton.mp hnew)
      exact (h.backed_of_write hf hmove).more _
  · intro g hg handle hhandle
    rcases hcases g hg with hold | rfl
    · exact (h.handles g hold handle hhandle).more _
    · exact h.owned_of_move hstore hf hmove hhandle

theorem Sourced.lapse (h : Sourced s view t) {w : σ} (hsound : view.Sound w)
    (hentries : ∀ key value, view.entry? w key = some value →
      view.entry? t.world key = some value ∨
        ∃ q ttlSecs answer, (q, Call.write key value ttlSecs answer) ∈ t.said) :
    Sourced s view { t with world := w } where
  sound := hsound
  proper := h.proper
  asked := h.asked
  entries key value hentry := by
    rcases hentries key value hentry with hold | ⟨q, ttlSecs, answer, hsaid⟩
    · exact h.entries key value hold
    · exact h.writes q key value ttlSecs answer hsaid
  writes := h.writes
  handles := h.handles

theorem Reachable.sourced (hstore : store.Keeps view) (h : Reachable s store view t) :
    Sourced s view t := by
  induction h with
  | start hsound hempty =>
      refine ⟨hsound, ?_, ?_, ?_, ?_, ?_⟩
      · intro f hf
        cases hf
      · intro q call hsaid
        cases hsaid
      · intro key value hentry
        rw [hempty] at hentry
        cases hentry
      · intro q key value ttlSecs answer hsaid
        cases hsaid
      · intro f hf
        cases hf
  | next hreach hnext ih =>
      cases hnext with
      | begin hspares hfingerprint hchannel => exact ih.begin hspares hfingerprint hchannel
      | move hflights hmove => exact ih.move hstore hflights hmove
      | lapse hsound hentries => exact ih.lapse hsound hentries

/-- In whatever order sessions make their calls, every handle that a call is answered with was
created for the same channel, the same model and the same prompt. -/
theorem answered_was_created (hstore : store.Keeps view) (h : Reachable s store view t)
    (hapart : ∀ f ∈ t.flights, ∀ f' ∈ t.flights, f.query.Apart f'.query) {f : Flight σ}
    (hf : f ∈ t.flights) {outcome : Outcome} (hdone : f.session = .finished (.ok outcome)) :
    ∃ maker : Query,
      (maker, Call.create maker.model (max s.ttlSecs 1) maker.digest (.ok outcome.handle)) ∈ t.said ∧
        maker.channel = f.query.channel ∧ maker.model = f.query.model ∧
        maker.preamble.fingerprint = f.query.preamble.fingerprint := by
  have hsourced := h.sourced hstore
  obtain ⟨maker, hcreated, hchannel, hkey⟩ :=
    hsourced.handles f hf outcome.handle (by rw [hdone]; rfl)
  -- The channel comes with the handle; the model and the prompt only come with the key.
  obtain ⟨g, hg, rfl⟩ := hsourced.asked _ _ hcreated
  obtain ⟨hmodel, hfingerprint⟩ := Query.same_of_key (hsourced.proper g hg).2.1
    (hsourced.proper f hf).2.1 (hapart g hg f hf) hkey
  exact ⟨g.query, hcreated, hchannel, hmodel, hfingerprint⟩

theorem answered_was_created_side_by_side :
    let s : PromptCacheSettings := { perChannel := false }
    let q (channel : Int) : Query := ⟨channel, "gemini-2.5-pro", ⟨"[]", 5000⟩⟩
    let answered (channel : Int) (handle : String) : Flight (RelayState Unit) :=
      ⟨q channel, onePrompt handle, .finished (.ok ⟨handle, true, 5000⟩)⟩
    ∃ w said, Reachable s RelayState.store RelayState.view
        ⟨w, [answered 1 "cachedContents/c1", answered 2 "cachedContents/c2"], said⟩ ∧
      ∃ maker : Query, Created s said maker "cachedContents/c2" ∧ maker.channel = 2 ∧
        maker.model = "gemini-2.5-pro" ∧ maker.preamble.fingerprint = "[]" := by
  intro s q answered
  let r : RelayState Unit := { providers := (), stamp := { now := 0, drawn := 0 } }
  let asking (channel : Int) (handle : String) : Flight (RelayState Unit) :=
    ⟨q channel, onePrompt handle, .reading⟩
  have hfirst : ∀ {w w' : RelayState Unit} {f g : Flight (RelayState Unit)}
      {said : List (Query × Call)} {call : Call} {session : Session},
      Session.Moves s RelayState.store f.backend f.query f.session w call session w' →
        Next s RelayState.store RelayState.view ⟨w, [f, g], said⟩
          ⟨w', [{ f with session }, g], said ++ [(f.query, call)]⟩ :=
    fun {_ _ f g _ _ _} h => @Next.move _ _ _ _ _ [] [g] f _ _ _ rfl h
  have hsecond : ∀ {w w' : RelayState Unit} {f g : Flight (RelayState Unit)}
      {said : List (Query × Call)} {call : Call} {session : Session},
      Session.Moves s RelayState.store g.backend g.query g.session w call session w' →
        Next s RelayState.store RelayState.view ⟨w, [f, g], said⟩
          ⟨w', [f, { g with session }], said ++ [(g.query, call)]⟩ :=
    fun {_ _ f g _ _ _} h => @Next.move _ _ _ _ _ [f] [] g _ _ _ rfl h
  have hstart : Reachable s RelayState.store RelayState.view ⟨r, [], []⟩ :=
    .start List.nodup_nil fun _ => rfl
  have hbegun : Reachable s RelayState.store RelayState.view
      ⟨r, [asking 1 "cachedContents/c1", asking 2 "cachedContents/c2"], []⟩ :=
    (hstart.next (.begin _ (onePrompt_spares _ _) ⟨.arr [], rfl⟩ ⟨by decide, by decide⟩)).next
      (.begin _ (onePrompt_spares _ _) ⟨.arr [], rfl⟩ ⟨by decide, by decide⟩)
  have hread := (hbegun.next (hfirst (.read rfl))).next (hsecond (.read rfl))
  have hcreated := (hread.next (hfirst (.create rfl))).next (hsecond (.create rfl))
  obtain ⟨w, said, hdone⟩ : ∃ w said, Reachable s RelayState.store RelayState.view
      ⟨w, [answered 1 "cachedContents/c1", answered 2 "cachedContents/c2"], said⟩ :=
    ⟨_, _, (hcreated.next (hfirst (.write rfl))).next (hsecond (.write rfl))⟩
  have hinput : ∀ f ∈ [answered 1 "cachedContents/c1", answered 2 "cachedContents/c2"],
      digestInput f.query.model f.query.preamble = digestInput "gemini-2.5-pro" ⟨"[]", 5000⟩ := by
    intro f hf
    simp only [List.mem_cons, List.not_mem_nil, or_false] at hf
    rcases hf with rfl | rfl <;> rfl
  exact ⟨w, said, hdone, answered_was_created RelayState.store_keeps hdone
    (fun f hf f' hf' _ => (hinput f hf).trans (hinput f' hf').symm)
    (List.mem_cons_of_mem _ List.mem_cons_self) rfl⟩

end Traffic

end ModelGateway.PromptCache
