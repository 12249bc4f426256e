import ModelGateway.Proofs.PromptCache.Entries
import ModelGateway.Proofs.PromptCache.Envelope

/-!
# Reusing and creating

A call to get a prompt answers with a stored handle exactly if the channel may use it and the
provider confirms it.  Otherwise it asks once for a creation and answers as that ends.  A handle
that was created and stored is what the next such call answers with.
-/

namespace ModelGateway.PromptCache

open Envelope (IsChannelId)

theorem grants_write {handle : String} {channel : Int} (hchannel : IsChannelId channel)
    (hhandle : handle ≠ "") : Grants (Envelope.write handle channel) handle channel :=
  ⟨some channel, Envelope.read?_write hchannel hhandle, .inr rfl⟩

variable {σ : Type} {s : PromptCacheSettings} {store : Store σ} {backend : Backend σ} {q : Query}

/-- A creation fails, or its handle is stored, which may fail as well. -/
inductive Creation (s : PromptCacheSettings) (q : Query) :
    List Call → Except CacheError Outcome → Prop
  | failed (e : CacheError) :
      Creation s q [.create q.model (max s.ttlSecs 1) q.digest (.error e)] (.error e)
  | stored (handle : String) (answer : Except CacheError Unit) :
      Creation s q
        [.create q.model (max s.ttlSecs 1) q.digest (.ok handle),
          .write (q.key s) (Envelope.write handle q.channel) (max s.mappingTtlSecs 1) answer]
        (.ok ⟨handle, true, q.preamble.tokens⟩)

inductive Course (s : PromptCacheSettings) (q : Query) :
    List Call → Except CacheError Outcome → Prop
  | reused {raw handle : String} (hgrants : Grants raw handle q.channel) :
      Course s q [.read (q.key s) (.ok (some raw)), .verify handle (.ok true)]
        (.ok ⟨handle, false, q.preamble.tokens⟩)
  | refused {raw handle : String} {answer : Except CacheError Bool} {calls : List Call}
      {result : Except CacheError Outcome} (hgrants : Grants raw handle q.channel)
      (hanswer : answer ≠ .ok true) (hcreation : Creation s q calls result) :
      Course s q (.read (q.key s) (.ok (some raw)) :: .verify handle answer :: calls) result
  | unread {answer : Except CacheError (Option String)} {calls : List Call}
      {result : Except CacheError Outcome}
      (hanswer : ∀ raw handle, answer = .ok (some raw) → ¬ Grants raw handle q.channel)
      (hcreation : Creation s q calls result) :
      Course s q (.read (q.key s) answer :: calls) result

namespace Session

theorem Converses.creation {w w' : σ} {calls : List Call} {result : Except CacheError Outcome}
    (h : Converses s store backend q .creating w calls result w') : Creation s q calls result := by
  cases h with
  | next hmove hrest =>
      cases hmove with
      | @create _ _ answer hcreate =>
          cases answer with
          | error e =>
              cases hrest with
              | finished => exact .failed e
              | next hmove _ => cases hmove
          | ok handle =>
              cases hrest with
              | next hmove hrest =>
                  cases hmove with
                  | write hwrite =>
                      cases hrest with
                      | finished => exact .stored handle _
                      | next hmove _ => cases hmove

theorem Converses.course {w w' : σ} {calls : List Call} {result : Except CacheError Outcome}
    (h : Converses s store backend q .reading w calls result w') : Course s q calls result := by
  cases h with
  | next hmove hrest =>
      cases hmove with
      | @read _ _ answer hread =>
          rcases afterReading_cases q.channel answer with
            ⟨raw, handle, rfl, hgrants, hafter⟩ | ⟨hanswer, hafter⟩
          · rw [hafter] at hrest
            cases hrest with
            | next hmove hrest =>
                cases hmove with
                | @verify _ _ _ answer hverify =>
                    by_cases hconfirmed : answer = .ok true
                    · subst hconfirmed
                      cases hrest with
                      | finished => exact .reused hgrants
                      | next hmove _ => cases hmove
                    · rw [afterVerifying_of_ne hconfirmed] at hrest
                      exact .refused hgrants hconfirmed hrest.creation
          · rw [hafter] at hrest
            exact .unread hanswer hrest.creation

end Session

/-! ## What a call answers -/

/-- The calls and the answer of a call to get a prompt. -/
structure Served (s : PromptCacheSettings) (q : Query) (calls : List Call)
    (result : Except CacheError Outcome) : Prop where
  verifies : calls.countP Call.isVerify ≤ 1
  creates : calls.countP Call.isCreate ≤ 1
  reused_iff : ∀ handle, (∃ tokens, result = .ok ⟨handle, false, tokens⟩) ↔
    ∃ raw, Call.read (q.key s) (.ok (some raw)) ∈ calls ∧ Grants raw handle q.channel ∧
      Call.verify handle (.ok true) ∈ calls
  reused : ∀ handle tokens, result = .ok ⟨handle, false, tokens⟩ →
    tokens = q.preamble.tokens ∧ calls.countP Call.isCreate = 0
  otherwise : (∀ handle tokens, result ≠ .ok ⟨handle, false, tokens⟩) →
    ∃ answer, calls.filter Call.isCreate =
        [.create q.model (max s.ttlSecs 1) q.digest answer] ∧
      result = answer.map (⟨·, true, q.preamble.tokens⟩)

theorem Creation.asks {calls : List Call} {result : Except CacheError Outcome}
    (h : Creation s q calls result) :
    (∃ answer, calls.filter Call.isCreate =
        [.create q.model (max s.ttlSecs 1) q.digest answer] ∧
      result = answer.map (⟨·, true, q.preamble.tokens⟩)) ∧
    (∀ call ∈ calls, call.isVerify = false) ∧
    ∀ handle tokens, result ≠ .ok ⟨handle, false, tokens⟩ := by
  cases h with
  | failed e => exact ⟨⟨.error e, rfl, rfl⟩, by simp [Call.isVerify], by simp⟩
  | stored handle answer => exact ⟨⟨.ok handle, rfl, rfl⟩, by simp [Call.isVerify], by simp⟩

theorem Creation.served {calls : List Call} {result : Except CacheError Outcome}
    (h : Creation s q calls result) (before : List Call)
    (hcreates : ∀ call ∈ before, call.isCreate = false)
    (hverifies : before.countP Call.isVerify ≤ 1)
    (hunused : ¬ ∃ raw handle, Call.read (q.key s) (.ok (some raw)) ∈ before ++ calls ∧
      Grants raw handle q.channel ∧ Call.verify handle (.ok true) ∈ before ++ calls) :
    Served s q (before ++ calls) result := by
  obtain ⟨⟨answer, hfilter, hresult⟩, hnone, hne⟩ := h.asks
  have hbefore : before.filter Call.isCreate = [] :=
    List.filter_eq_nil_iff.mpr fun call hcall => by simp [hcreates call hcall]
  have hall : (before ++ calls).filter Call.isCreate =
      [.create q.model (max s.ttlSecs 1) q.digest answer] := by
    rw [List.filter_append, hbefore, hfilter, List.nil_append]
  refine ⟨?_, ?_, ?_, ?_, ?_⟩
  · have hcalls : calls.countP Call.isVerify = 0 :=
      List.countP_eq_zero.mpr fun call hcall => by simp [hnone call hcall]
    rw [List.countP_append, hcalls]
    exact hverifies
  · rw [List.countP_eq_length_filter, hall]
    exact Nat.le_refl 1
  · intro handle
    constructor
    · rintro ⟨tokens, hreused⟩
      exact absurd hreused (hne handle tokens)
    · rintro ⟨raw, hused⟩
      exact absurd ⟨raw, handle, hused⟩ hunused
  · intro handle tokens hreused
    exact absurd hreused (hne handle tokens)
  · intro _
    exact ⟨answer, hall, hresult⟩

theorem Creation.mem {calls : List Call} {result : Except CacheError Outcome} {call : Call}
    (h : Creation s q calls result) (hcall : call ∈ calls) :
    call.isCreate = true ∨ call.isWrite = true := by
  cases h with
  | failed e =>
      obtain rfl := List.mem_singleton.mp hcall
      exact .inl rfl
  | stored handle answer =>
      rcases List.mem_cons.mp hcall with rfl | hwrite
      · exact .inl rfl
      · obtain rfl := List.mem_singleton.mp hwrite
        exact .inr rfl

theorem Course.served {calls : List Call} {result : Except CacheError Outcome}
    (h : Course s q calls result) : Served s q calls result := by
  cases h with
  | @reused raw handle hgrants =>
      refine ⟨Nat.le_refl 1, Nat.zero_le 1, ?_, ?_, ?_⟩
      · intro other
        constructor
        · rintro ⟨tokens, hresult⟩
          cases hresult
          exact ⟨raw, by simp, hgrants, by simp⟩
        · rintro ⟨_, _, _, hverify⟩
          obtain rfl : other = handle := by simpa using hverify
          exact ⟨_, rfl⟩
      · intro other tokens hresult
        cases hresult
        exact ⟨rfl, rfl⟩
      · intro hne
        exact absurd rfl (hne handle q.preamble.tokens)
  | @refused raw handle answer calls _ hgrants hanswer hcreation =>
      refine hcreation.served
        [.read (q.key s) (.ok (some raw)), .verify handle answer] ?_ ?_ ?_
      · simp [Call.isCreate]
      · simp [Call.isVerify]
      · rintro ⟨_, other, -, -, hverify⟩
        rcases List.mem_append.mp hverify with hbefore | hcalls
        · simp only [List.mem_cons, reduceCtorEq, Call.verify.injEq, List.not_mem_nil, or_false,
            false_or] at hbefore
          exact hanswer hbefore.2.symm
        · rcases hcreation.mem hcalls with h | h <;> cases h
  | @unread answer calls _ hanswer hcreation =>
      refine hcreation.served [.read (q.key s) answer] ?_ ?_ ?_
      · simp [Call.isCreate]
      · simp [Call.isVerify]
      · rintro ⟨raw, handle, hread, hgrants, -⟩
        rcases List.mem_append.mp hread with hbefore | hcalls
        · obtain rfl : Except.ok (some raw) = answer := by simpa using hbefore
          exact hanswer raw handle rfl hgrants
        · rcases hcreation.mem hcalls with h | h <;> cases h

/-! ## What is remembered -/

/-- What a call to get a prompt leaves in the store for the calls after it. -/
structure Remembered (s : PromptCacheSettings) (store : Store σ) (view : View σ) (q : Query)
    (w : σ) (calls : List Call) (w' : σ) : Prop where
  failed : ∀ {model ttlSecs displayName e},
    Call.create model ttlSecs displayName (.error e) ∈ calls → view.entry? w' = view.entry? w
  stored : ∀ {model ttlSecs displayName handle key value},
    Call.create model ttlSecs displayName (.ok handle) ∈ calls →
    Call.write key value (max s.mappingTtlSecs 1) (.ok ()) ∈ calls → handle ≠ "" →
      ∃ raw, view.entry? w' (q.key s) = some raw ∧
        Envelope.read? raw = some ⟨handle, some q.channel⟩ ∧
        ∀ (next : Query) (backend : Backend σ) (w₁ w₂ w₃ : σ) (found : Option String),
          next.channel = q.channel → next.model = q.model →
          next.preamble.fingerprint = q.preamble.fingerprint →
          view.Sound w₁ → view.entry? w₁ (q.key s) = some raw →
          store.get (q.key s) w₁ = (.ok found, w₂) → backend.verify handle w₂ = (.ok true, w₃) →
            conversation s store backend next w₁ =
              (.ok ⟨handle, false, next.preamble.tokens⟩, w₃,
                [.read (q.key s) (.ok (some raw)), .verify handle (.ok true)])

theorem conversation_of_confirmed {raw handle : String} {w₁ w₂ w₃ : σ}
    (hgrants : Grants raw handle q.channel) (hget : store.get (q.key s) w₁ = (.ok (some raw), w₂))
    (hverify : backend.verify handle w₂ = (.ok true, w₃)) :
    conversation s store backend q w₁ =
      (.ok ⟨handle, false, q.preamble.tokens⟩, w₃,
        [.read (q.key s) (.ok (some raw)), .verify handle (.ok true)]) := by
  have hread : Session.step s store.noted backend.noted q .reading (w₁, []) =
      (.verifying handle, w₂, [.read (q.key s) (.ok (some raw))]) := by
    simp only [Session.step, Store.noted, bind, StateT.bind, hget,
      Session.afterReading_of_grants hgrants, List.nil_append]
    rfl
  have hconfirm : Session.step s store.noted backend.noted q (.verifying handle)
      (w₂, [.read (q.key s) (.ok (some raw))]) =
      (.finished (.ok ⟨handle, false, q.preamble.tokens⟩), w₃,
        [.read (q.key s) (.ok (some raw)), .verify handle (.ok true)]) := by
    simp only [Session.step, Backend.noted, bind, StateT.bind, hverify, Session.afterVerifying,
      List.cons_append, List.nil_append]
    rfl
  have hopen : 0 < (Session.verifying handle).remaining := Nat.succ_pos 2
  rw [conversation, getOrCreate, Session.maxSteps, Session.run_unfinished _ _ _ _ 3 (by decide),
    hread, Session.run_unfinished _ _ _ _ 2 hopen, hconfirm, Session.run_finished]

theorem Session.Converses.puts {view : View σ} {w w' : σ} {session : Session} {calls : List Call}
    {result : Except CacheError Outcome} {key value : String} {ttlSecs : Nat}
    (hstore : store.Keeps view) (hbackend : backend.Spares view) (hsound : view.Sound w)
    (h : Converses s store backend q session w calls result w') (httl : 0 < ttlSecs)
    (hwrite : Call.write key value ttlSecs (.ok ()) ∈ calls) :
    view.entry? w' key = some value := by
  induction h with
  | finished result w => cases hwrite
  | next hmove hrest ih =>
      rcases List.mem_cons.mp hwrite with rfl | hlater
      · cases hmove with
        | write hset =>
            cases hrest with
            | finished => exact hstore.set_puts hsound httl hset
            | next hmove _ => cases hmove
      · exact ih (hmove.sound hstore hbackend hsound) hlater

theorem Course.no_write_of_failed {calls : List Call} {result : Except CacheError Outcome}
    (h : Course s q calls result) {model displayName : String} {ttlSecs : Nat} {e : CacheError}
    (hcreate : Call.create model ttlSecs displayName (.error e) ∈ calls) :
    ∀ call ∈ calls, call.isWrite = false := by
  cases h with
  | reused hgrants => simp at hcreate
  | refused hgrants hanswer hcreation => cases hcreation <;> simp [Call.isWrite] at hcreate ⊢
  | unread hanswer hcreation => cases hcreation <;> simp [Call.isWrite] at hcreate ⊢

theorem Course.written {calls : List Call} {result : Except CacheError Outcome}
    (h : Course s q calls result) {model displayName handle key value : String}
    {ttlSecs ttlSecs' : Nat} {answer : Except CacheError Unit}
    (hcreate : Call.create model ttlSecs displayName (.ok handle) ∈ calls)
    (hwrite : Call.write key value ttlSecs' answer ∈ calls) :
    key = q.key s ∧ value = Envelope.write handle q.channel := by
  cases h with
  | reused hgrants => simp at hcreate
  | refused hgrants hanswer hcreation => cases hcreation <;> simp_all
  | unread hanswer hcreation => cases hcreation <;> simp_all

theorem Query.key_congr {q q' : Query} (hchannel : q'.channel = q.channel)
    (hmodel : q'.model = q.model) (hfingerprint : q'.preamble.fingerprint = q.preamble.fingerprint) :
    q'.key s = q.key s := by
  simp only [Query.key, Query.digest, PromptCache.digest, digestInput, hchannel, hmodel,
    hfingerprint]

theorem Session.Converses.remembered {view : View σ} {w w' : σ} {calls : List Call}
    {result : Except CacheError Outcome} (hstore : store.Keeps view)
    (hbackend : backend.Spares view) (hsound : view.Sound w) (hchannel : IsChannelId q.channel)
    (h : Converses s store backend q .reading w calls result w') :
    Remembered s store view q w calls w' where
  failed hcreate :=
    h.keeps hstore hbackend hsound (h.course.no_write_of_failed hcreate)
  stored := by
    intro model ttlSecs displayName handle key value hcreate hwrite hhandle
    -- There is one creation and one write, so what was written is for what was created.
    obtain ⟨rfl, rfl⟩ := h.course.written hcreate hwrite
    have hentry := h.puts hstore hbackend hsound (by omega) hwrite
    refine ⟨_, hentry, Envelope.read?_write hchannel hhandle, ?_⟩
    intro next backend w₁ w₂ w₃ found hsame hmodel hfingerprint hsound₁ hlive hget hverify
    have hkey : next.key s = q.key s := Query.key_congr hsame hmodel hfingerprint
    obtain rfl := (hstore.get_shows hsound₁ hget).symm.trans hlive
    have hgrants : Grants (Envelope.write handle q.channel) handle next.channel := by
      rw [hsame]
      exact grants_write hchannel hhandle
    rw [← hkey] at hget ⊢
    exact conversation_of_confirmed hgrants hget hverify

/-- A call to get a prompt answers with a stored handle exactly if its channel may use it and the
provider confirms it, and otherwise as one creation ends.  The next call answers with the handle
that was stored, unless it is empty. -/
theorem getOrCreate_reuses_or_creates {w w' : σ} {calls : List Call}
    {result : Except CacheError Outcome}
    (h : conversation s store backend q w = (result, w', calls)) :
    getOrCreate s store backend q w = (result, w') ∧ Served s q calls result ∧
      (∀ view : View σ, store.Keeps view → backend.Spares view → view.Sound w →
        IsChannelId q.channel → Remembered s store view q w calls w') ∧
      ∀ {τ : Type} (network : Network τ) (call : ModelGateway.Call) (shared : Wire.Gemini.Shared),
        (Wire.Gemini.backend network call shared).Names := by
  obtain ⟨calls', result', w'', hconverses, hrun, hsaid⟩ :=
    conversation_converses s store backend q w
  obtain ⟨rfl, rfl, rfl⟩ : result' = result ∧ w'' = w' ∧ calls' = calls := by
    simpa [hsaid] using h
  refine ⟨hrun, hconverses.course.served, ?_, Wire.Gemini.backend_names⟩
  intro view hstore hbackend hsound hchannel
  exact hconverses.remembered hstore hbackend hsound hchannel

theorem getOrCreate_reuses_or_creates_twice :
    let q : Query := ⟨1, "gemini-2.5-pro", ⟨"[]", 5000⟩⟩
    let r : RelayState Unit := { providers := (), stamp := { now := 0, drawn := 0 } }
    ∃ w w', getOrCreate {} RelayState.store (onePrompt "cachedContents/c0") q r =
        (.ok ⟨"cachedContents/c0", true, 5000⟩, w) ∧
      getOrCreate {} RelayState.store (onePrompt "cachedContents/c0") q w =
        (.ok ⟨"cachedContents/c0", false, 5000⟩, w') := by
  intro q r
  let s : PromptCacheSettings := {}
  let w : RelayState Unit :=
    { r with memory := r.memory.set 0 (q.key s) (Envelope.write "cachedContents/c0" 1) 3600 }
  have hfirst : conversation s RelayState.store (onePrompt "cachedContents/c0") q r =
      (.ok ⟨"cachedContents/c0", true, 5000⟩, w,
        [.read (q.key s) (.ok none), .create q.model 3600 q.digest (.ok "cachedContents/c0"),
          .write (q.key s) (Envelope.write "cachedContents/c0" 1) 3600 (.ok ())]) := rfl
  have hsound : RelayState.view.Sound r := List.nodup_nil
  obtain ⟨hrun, -, hremembered, -⟩ := getOrCreate_reuses_or_creates hfirst
  obtain ⟨raw, hentry, -, hnext⟩ :=
    (hremembered RelayState.view RelayState.store_keeps (onePrompt_spares _ _) hsound
      ⟨by decide, by decide⟩).stored
      (List.mem_cons_of_mem _ List.mem_cons_self)
      (List.mem_cons_of_mem _ (List.mem_cons_of_mem _ List.mem_cons_self)) (by decide)
  have hsecond := hnext q (onePrompt "cachedContents/c0") w _ _ _ rfl rfl rfl hsound.set hentry
    rfl rfl
  exact ⟨w, _, hrun, (getOrCreate_reuses_or_creates hsecond).1⟩

end ModelGateway.PromptCache
