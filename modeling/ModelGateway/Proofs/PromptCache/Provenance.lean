import ModelGateway.Proofs.PromptCache.Reuse
import ModelGateway.Proofs.PromptCache.Traffic

/-!
# Where handles come from

Every handle that a session is answered with was once the answer of a backend: its own if the
session creates, and otherwise that of an earlier session for the same prompt, model and channel.
-/

namespace ModelGateway.PromptCache

variable {σ : Type} {s : PromptCacheSettings} {store : Store σ} {backend : Backend σ} {q : Query}
  {view : View σ} {w w' : σ} {model displayName : String} {ttlSecs : Nat}
  {answer : Except CacheError String}

def Backend.Answers (backend : Backend σ) (model : String) (ttlSecs : Nat) (displayName : String)
    (answer : Except CacheError String) : Prop :=
  ∃ w, (backend.create model ttlSecs displayName w).1 = answer

namespace Session

theorem Moves.answers {session session' : Session}
    (h : Moves s store backend q session w (.create model ttlSecs displayName answer) session' w') :
    backend.Answers model ttlSecs displayName answer := by
  cases h with
  | create hcreate => exact ⟨w, congrArg Prod.fst hcreate⟩

theorem Converses.answers {session : Session} {calls : List Call}
    {result : Except CacheError Outcome}
    (h : Converses s store backend q session w calls result w')
    (hcall : Call.create model ttlSecs displayName answer ∈ calls) :
    backend.Answers model ttlSecs displayName answer := by
  induction h with
  | finished result w => cases hcall
  | next hmove hrest ih =>
      rcases List.mem_cons.mp hcall with rfl | hlater
      · exact hmove.answers
      · exact ih hlater

theorem Converses.opens {calls : List Call} {result : Except CacheError Outcome}
    (h : Converses s store backend q .reading w calls result w') :
    ∃ answer later next, calls = .read (q.key s) answer :: later ∧
      store.get (q.key s) w = (answer, next) := by
  cases h with
  | next hmove hrest =>
      cases hmove with
      | read hget => exact ⟨_, _, _, rfl, hget⟩

end Session

namespace Traffic

variable {t : Traffic σ}

theorem Reachable.answers (h : Reachable s store view t) {asker : Query}
    (hsaid : (asker, Call.create model ttlSecs displayName answer) ∈ t.said) :
    ∃ f ∈ t.flights, f.query = asker ∧ f.backend.Answers model ttlSecs displayName answer := by
  induction h with
  | start hsound hempty => cases hsaid
  | next hreach hnext ih =>
      cases hnext with
      | begin hspares hfingerprint hchannel =>
          obtain ⟨f, hf, hasked⟩ := ih hsaid
          exact ⟨f, List.mem_append_left _ hf, hasked⟩
      | lapse hsound hentries => exact ih hsaid
      | move hflights hmove =>
          rcases List.mem_append.mp hsaid with hold | hnew
          · obtain ⟨g, hg, hasked⟩ := ih hold
            rw [hflights] at hg
            rcases List.mem_append.mp hg with hbefore | hrest
            · exact ⟨g, List.mem_append_left _ hbefore, hasked⟩
            · rcases List.mem_cons.mp hrest with rfl | hafter
              · exact ⟨_, List.mem_append_right _ List.mem_cons_self, hasked⟩
              · exact ⟨g, List.mem_append_right _ (List.mem_cons_of_mem _ hafter), hasked⟩
          · obtain ⟨rfl, rfl⟩ := Prod.mk.inj (List.mem_singleton.mp hnew)
            exact ⟨_, List.mem_append_right _ List.mem_cons_self, rfl, hmove.answers⟩

theorem Reachable.alone {f : Flight σ} {said : List (Query × Call)} {call : Call}
    {session : Session} (h : Reachable s store view ⟨w, [f], said⟩)
    (hmove : Session.Moves s store f.backend f.query f.session w call session w') :
    Reachable s store view ⟨w', [{ f with session }], said ++ [(f.query, call)]⟩ :=
  h.next (@Next.move _ _ _ _ _ [] [] f _ _ _ rfl hmove)

/-- An earlier session for the prompt was answered with the handle that it created. -/
structure Earlier (s : PromptCacheSettings) (t : Traffic σ) (q : Query) (handle : String)
    (f : Flight σ) : Prop where
  flight : f ∈ t.flights
  created : Created s t.said f.query handle
  answers : f.backend.Answers f.query.model (max s.ttlSecs 1) f.query.digest (.ok handle)
  channel : f.query.channel = q.channel
  model : f.query.model = q.model
  fingerprint : f.query.preamble.fingerprint = q.preamble.fingerprint

theorem Reachable.earlier (hstore : store.Keeps view) (h : Reachable s store view t)
    (hq : IsFingerprint q.preamble.fingerprint) (hapart : ∀ f ∈ t.flights, f.query.Apart q)
    {raw handle : String} (hentry : view.entry? t.world (q.key s) = some raw)
    (hgrants : Grants raw handle q.channel) : ∃ f, Earlier s t q handle f := by
  have hsourced := h.sourced hstore
  obtain ⟨maker, hcreated, hchannel, hkey⟩ := hsourced.owned_of_entry hentry hgrants
  obtain ⟨f, hf, rfl, hanswers⟩ := h.answers hcreated
  obtain ⟨hmodel, hfingerprint⟩ :=
    Query.same_of_key (hsourced.proper f hf).2.1 hq (hapart f hf) hkey
  exact ⟨f, hf, hcreated, hanswers, hchannel, hmodel, hfingerprint⟩

end Traffic

/-- A handle was created in this conversation or by an earlier session. -/
inductive Found (s : PromptCacheSettings) (t : Traffic σ) (backend : Backend σ) (q : Query)
    (calls : List Call) : Outcome → Prop
  | created {handle : String}
      (hcall : Call.create q.model (max s.ttlSecs 1) q.digest (.ok handle) ∈ calls)
      (hanswers : backend.Answers q.model (max s.ttlSecs 1) q.digest (.ok handle)) :
      Found s t backend q calls ⟨handle, true, q.preamble.tokens⟩
  | reused {handle : String} (hcalls : ∀ call ∈ calls, call.isCreate = false) {f : Flight σ}
      (hearlier : Traffic.Earlier s t q handle f) :
      Found s t backend q calls ⟨handle, false, q.preamble.tokens⟩

theorem Creation.create_mem {calls : List Call} {outcome : Outcome}
    (h : Creation s q calls (.ok outcome)) :
    outcome = ⟨outcome.handle, true, q.preamble.tokens⟩ ∧
      Call.create q.model (max s.ttlSecs 1) q.digest (.ok outcome.handle) ∈ calls := by
  cases h with
  | stored handle answer => exact ⟨rfl, List.mem_cons_self⟩

theorem found_of_converses {t : Traffic σ} (hstore : store.Keeps view)
    (hreach : Traffic.Reachable s store view t) (hq : IsFingerprint q.preamble.fingerprint)
    (hapart : ∀ f ∈ t.flights, f.query.Apart q) {calls : List Call} {outcome : Outcome}
    (h : Session.Converses s store backend q .reading t.world calls (.ok outcome) w') :
    Found s t backend q calls outcome := by
  have hnew {later : List Call} (hcreation : Creation s q later (.ok outcome))
      (hlater : ∀ call ∈ later, call ∈ calls) : Found s t backend q calls outcome := by
    obtain ⟨houtcome, hcall⟩ := hcreation.create_mem
    have hcall := hlater _ hcall
    rw [houtcome]
    exact .created hcall (h.answers hcall)
  cases h.course with
  | @reused raw handle hgrants =>
      obtain ⟨answer, later, next, hcalls, hget⟩ := h.opens
      obtain ⟨hread, -⟩ := List.cons.inj hcalls
      cases hread
      have hsound := (hreach.sourced hstore).sound
      obtain ⟨f, hearlier⟩ :=
        hreach.earlier hstore hq hapart (hstore.get_shows hsound hget) hgrants
      exact .reused (by simp [Call.isCreate]) hearlier
  | refused hgrants hanswer hcreation =>
      exact hnew hcreation fun call hcall =>
        List.mem_cons_of_mem _ (List.mem_cons_of_mem _ hcall)
  | unread hanswer hcreation =>
      exact hnew hcreation fun call hcall => List.mem_cons_of_mem _ hcall

theorem Course.failed {calls : List Call} {result : Except CacheError Outcome}
    (h : Course s q calls result) {e : CacheError}
    (hcall : Call.create model ttlSecs displayName (.error e) ∈ calls) : result = .error e := by
  have hfailed {calls : List Call} (hcreation : Creation s q calls result)
      (hcall : Call.create model ttlSecs displayName (.error e) ∈ calls) : result = .error e := by
    cases hcreation with
    | failed e' =>
        cases List.mem_singleton.mp hcall
        rfl
    | stored handle answer => simp at hcall
  cases h with
  | reused hgrants => simp at hcall
  | refused hgrants hanswer hcreation =>
      exact hfailed hcreation (by simpa using hcall)
  | unread hanswer hcreation =>
      exact hfailed hcreation (by simpa using hcall)

end ModelGateway.PromptCache
