import ModelGateway.PromptCache.Session

/-!
# The calls of a session

Every step of a session that is not finished is one call to the store or to the provider.  With a
store and a provider that note their calls, a session does the same as without, and leaves the notes
of all its calls.
-/

namespace ModelGateway.PromptCache

/-- What is asked of the store or of the provider, with the answer. -/
inductive Call where
  | read (key : String) (answer : Except CacheError (Option String))
  | verify (handle : String) (answer : Except CacheError Bool)
  | create (model : String) (ttlSecs : Nat) (displayName : String)
      (answer : Except CacheError String)
  | write (key value : String) (ttlSecs : Nat) (answer : Except CacheError Unit)

namespace Call

def isVerify : Call → Bool
  | .verify _ _ => true
  | _ => false

def isCreate : Call → Bool
  | .create _ _ _ _ => true
  | _ => false

def isWrite : Call → Bool
  | .write _ _ _ _ => true
  | _ => false

end Call

variable {σ : Type}

def Store.noted (store : Store σ) : Store (σ × List Call) where
  get key := fun (w, calls) =>
    let (answer, w) := store.get key w
    (answer, w, calls ++ [.read key answer])
  set key value ttlSecs := fun (w, calls) =>
    let (answer, w) := store.set key value ttlSecs w
    (answer, w, calls ++ [.write key value ttlSecs answer])

def Backend.noted (backend : Backend σ) : Backend (σ × List Call) where
  verify handle := fun (w, calls) =>
    let (answer, w) := backend.verify handle w
    (answer, w, calls ++ [.verify handle answer])
  create model ttlSecs displayName := fun (w, calls) =>
    let (answer, w) := backend.create model ttlSecs displayName w
    (answer, w, calls ++ [.create model ttlSecs displayName answer])

/-- The stored envelope has a handle that the channel may use. -/
def Grants (raw handle : String) (channel : Int) : Prop :=
  ∃ owner, Envelope.read? raw = some ⟨handle, owner⟩ ∧ (owner = none ∨ owner = some channel)

namespace Session

variable {s : PromptCacheSettings} {store : Store σ} {backend : Backend σ} {q : Query}

theorem isFor_iff (e : Envelope) (channel : Int) :
    e.isFor channel = true ↔ e.owner = none ∨ e.owner = some channel := by
  obtain ⟨handle, owner⟩ := e
  cases owner <;> simp [Envelope.isFor]

theorem afterReading_of_grants {raw handle : String} {channel : Int}
    (h : Grants raw handle channel) :
    afterReading channel (.ok (some raw)) = .verifying handle := by
  obtain ⟨owner, hread, howner⟩ := h
  have hfor : Envelope.isFor ⟨handle, owner⟩ channel = true := (isFor_iff _ _).mpr howner
  simp [afterReading, hread, hfor]

theorem afterReading_cases (channel : Int) (answer : Except CacheError (Option String)) :
    (∃ raw handle, answer = .ok (some raw) ∧ Grants raw handle channel ∧
        afterReading channel answer = .verifying handle) ∨
      (∀ raw handle, answer = .ok (some raw) → ¬ Grants raw handle channel) ∧
        afterReading channel answer = .creating := by
  by_cases h : ∃ raw handle, answer = .ok (some raw) ∧ Grants raw handle channel
  · obtain ⟨raw, handle, rfl, hgrants⟩ := h
    exact .inl ⟨raw, handle, rfl, hgrants, afterReading_of_grants hgrants⟩
  · refine .inr ⟨fun raw handle hanswer hgrants => h ⟨raw, handle, hanswer, hgrants⟩, ?_⟩
    unfold afterReading
    split
    · rename_i raw
      split
      · rename_i e hread
        split
        · rename_i hfor
          exact absurd ⟨raw, e.handle, rfl, e.owner, hread, (isFor_iff e channel).mp hfor⟩ h
        · rfl
      · rfl
    · rfl

theorem afterVerifying_of_ne {q : Query} {handle : String} {answer : Except CacheError Bool}
    (h : answer ≠ .ok true) : afterVerifying q handle answer = .creating := by
  unfold afterVerifying
  split
  · exact absurd rfl h
  · rfl

inductive Moves (s : PromptCacheSettings) (store : Store σ) (backend : Backend σ) (q : Query) :
    Session → σ → Call → Session → σ → Prop
  | read {w w' : σ} {answer : Except CacheError (Option String)}
      (h : store.get (q.key s) w = (answer, w')) :
      Moves s store backend q .reading w (.read (q.key s) answer) (afterReading q.channel answer) w'
  | verify {w w' : σ} {handle : String} {answer : Except CacheError Bool}
      (h : backend.verify handle w = (answer, w')) :
      Moves s store backend q (.verifying handle) w (.verify handle answer)
        (afterVerifying q handle answer) w'
  | create {w w' : σ} {answer : Except CacheError String}
      (h : backend.create q.model (max s.ttlSecs 1) q.digest w = (answer, w')) :
      Moves s store backend q .creating w (.create q.model (max s.ttlSecs 1) q.digest answer)
        (afterCreating answer) w'
  | write {w w' : σ} {handle : String} {answer : Except CacheError Unit}
      (h : store.set (q.key s) (Envelope.write handle q.channel) (max s.mappingTtlSecs 1) w =
        (answer, w')) :
      Moves s store backend q (.storing handle) w
        (.write (q.key s) (Envelope.write handle q.channel) (max s.mappingTtlSecs 1) answer)
        (.finished (.ok ⟨handle, true, q.preamble.tokens⟩)) w'

def remaining : Session → Nat
  | .reading => 4
  | .verifying _ => 3
  | .creating => 2
  | .storing _ => 1
  | .finished _ => 0

theorem remaining_afterReading (channel : Int) (answer : Except CacheError (Option String)) :
    (afterReading channel answer).remaining ≤ 3 := by
  unfold afterReading
  split
  · split
    · split <;> simp [remaining]
    · simp [remaining]
  · simp [remaining]

theorem remaining_afterVerifying (q : Query) (handle : String) (answer : Except CacheError Bool) :
    (afterVerifying q handle answer).remaining ≤ 2 := by
  unfold afterVerifying
  split <;> simp [remaining]

theorem remaining_afterCreating (answer : Except CacheError String) :
    (afterCreating answer).remaining ≤ 1 := by
  unfold afterCreating
  split <;> simp [remaining]

theorem Moves.remaining_lt {w w' : σ} {session session' : Session} {call : Call}
    (h : Moves s store backend q session w call session' w') :
    session'.remaining < session.remaining := by
  cases h with
  | read h => exact Nat.lt_succ_of_le (remaining_afterReading _ _)
  | verify h => exact Nat.lt_succ_of_le (remaining_afterVerifying _ _ _)
  | create h => exact Nat.lt_succ_of_le (remaining_afterCreating _)
  | write h => exact Nat.zero_lt_one

theorem step_moves (s : PromptCacheSettings) (store : Store σ) (backend : Backend σ) (q : Query)
    {session : Session} (hsession : 0 < session.remaining) (w : σ) (calls : List Call) :
    ∃ call session' w', Moves s store backend q session w call session' w' ∧
      step s store backend q session w = (session', w') ∧
      step s store.noted backend.noted q session (w, calls) = (session', w', calls ++ [call]) := by
  cases session with
  | reading => exact ⟨_, _, _, .read rfl, rfl, rfl⟩
  | verifying handle => exact ⟨_, _, _, .verify rfl, rfl, rfl⟩
  | creating => exact ⟨_, _, _, .create rfl, rfl, rfl⟩
  | storing handle => exact ⟨_, _, _, .write rfl, rfl, rfl⟩
  | finished result => exact absurd hsession (Nat.lt_irrefl 0)

/-- A session goes on to its result, with all its calls. -/
inductive Converses (s : PromptCacheSettings) (store : Store σ) (backend : Backend σ) (q : Query) :
    Session → σ → List Call → Except CacheError Outcome → σ → Prop
  | finished (result : Except CacheError Outcome) (w : σ) :
      Converses s store backend q (.finished result) w [] result w
  | next {session session' : Session} {w w' w'' : σ} {call : Call} {calls : List Call}
      {result : Except CacheError Outcome}
      (hmove : Moves s store backend q session w call session' w')
      (hrest : Converses s store backend q session' w' calls result w'') :
      Converses s store backend q session w (call :: calls) result w''

theorem run_finished (s : PromptCacheSettings) (store : Store σ) (backend : Backend σ) (q : Query)
    (steps : Nat) (result : Except CacheError Outcome) (w : σ) :
    run s store backend q steps (.finished result) w = (result, w) := by
  cases steps <;> rfl

theorem run_unfinished (s : PromptCacheSettings) (store : Store σ) (backend : Backend σ)
    (q : Query) (steps : Nat) {session : Session} (hsession : 0 < session.remaining) (w : σ) :
    run s store backend q (steps + 1) session w =
      run s store backend q steps (step s store backend q session w).1
        (step s store backend q session w).2 := by
  cases session with
  | finished result => exact absurd hsession (Nat.lt_irrefl 0)
  | _ => rfl

/-- With steps enough, a session comes to its end. -/
theorem run_converses (s : PromptCacheSettings) (store : Store σ) (backend : Backend σ) (q : Query)
    (steps : Nat) (session : Session) (w : σ) (calls : List Call)
    (hsteps : session.remaining ≤ steps) :
    ∃ said result w', Converses s store backend q session w said result w' ∧
      run s store backend q steps session w = (result, w') ∧
      run s store.noted backend.noted q steps session (w, calls) =
        (result, w', calls ++ said) := by
  induction steps generalizing session w calls with
  | zero =>
      cases session with
      | finished result => exact ⟨[], result, w, .finished _ _, rfl, by simp [run_finished]⟩
      | _ => exact absurd hsteps (by simp [remaining])
  | succ steps ih =>
      rcases Nat.eq_zero_or_pos session.remaining with hdone | hopen
      · cases session with
        | finished result => exact ⟨[], result, w, .finished _ _, rfl, by simp [run_finished]⟩
        | _ => exact absurd hdone (by simp [remaining])
      · obtain ⟨call, session', w', hmove, hstep, hnoted⟩ :=
          step_moves s store backend q hopen w calls
        have hless := hmove.remaining_lt
        obtain ⟨said, result, w'', hrest, hrun, hrunNoted⟩ :=
          ih session' w' (calls ++ [call]) (by omega)
        refine ⟨call :: said, result, w'', .next hmove hrest, ?_, ?_⟩
        · rw [run_unfinished s store backend q steps hopen, hstep]
          exact hrun
        · rw [run_unfinished s store.noted backend.noted q steps hopen, hnoted]
          simpa using hrunNoted

end Session

def conversation (s : PromptCacheSettings) (store : Store σ) (backend : Backend σ) (q : Query)
    (w : σ) : Except CacheError Outcome × σ × List Call :=
  getOrCreate s store.noted backend.noted q (w, [])

theorem conversation_converses (s : PromptCacheSettings) (store : Store σ) (backend : Backend σ)
    (q : Query) (w : σ) :
    ∃ calls result w', Session.Converses s store backend q .reading w calls result w' ∧
      getOrCreate s store backend q w = (result, w') ∧
      conversation s store backend q w = (result, w', calls) :=
  Session.run_converses s store backend q Session.maxSteps .reading w [] (Nat.le_refl 4)

end ModelGateway.PromptCache
