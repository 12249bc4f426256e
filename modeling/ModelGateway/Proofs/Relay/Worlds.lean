import ModelGateway.Proofs.Relay.Rounds
import ModelGateway.Relay.Settlement

/-!
# Rounds in corresponding worlds

A round acts on the world only by its store and by the requests that it sends.  In two worlds whose
stores and providers correspond, it has the same result and leaves worlds that correspond.  A round
neither reads nor changes the ledger.
-/

namespace ModelGateway

variable {σ σ' α β : Type}

/-- In corresponding worlds two programs have one result and leave corresponding worlds. -/
def Alike (R : σ' → σ → Prop) (f' : StateM σ' α) (f : StateM σ α) : Prop :=
  ∀ w' w, R w' w → (f' w').1 = (f w).1 ∧ R (f' w').2 (f w).2

namespace Alike

variable {R : σ' → σ → Prop} {f' : StateM σ' α} {f : StateM σ α}

theorem pure (a : α) : Alike R (Pure.pure a) (Pure.pure a) := fun _ _ h => ⟨rfl, h⟩

theorem bind_of_result {g' : α → StateM σ' β} {g : α → StateM σ β} (hf : Alike R f' f)
    (hg : ∀ w, Alike R (g' (f w).1) (g (f w).1)) : Alike R (f' >>= g') (f >>= g) := by
  intro w' w h
  obtain ⟨hresult, hworlds⟩ := hf w' w h
  change (g' (f' w').1 (f' w').2).1 = (g (f w).1 (f w).2).1 ∧
    R (g' (f' w').1 (f' w').2).2 (g (f w).1 (f w).2).2
  rw [hresult]
  exact hg w _ _ hworlds

theorem bind {g' : α → StateM σ' β} {g : α → StateM σ β} (hf : Alike R f' f)
    (hg : ∀ a, Alike R (g' a) (g a)) : Alike R (f' >>= g') (f >>= g) :=
  hf.bind_of_result fun _ => hg _

end Alike

structure PromptCache.Store.Alike (R : σ' → σ → Prop) (store' : PromptCache.Store σ')
    (store : PromptCache.Store σ) : Prop where
  get : ∀ key, ModelGateway.Alike R (store'.get key) (store.get key)
  set : ∀ key value ttlSecs,
    ModelGateway.Alike R (store'.set key value ttlSecs) (store.set key value ttlSecs)

structure Services.Alike (R : σ' → σ → Prop) (P : HttpRequest → Prop) (services' : Services σ')
    (services : Services σ) : Prop where
  gemini : services'.gemini = services.gemini
  cache : Option.Rel (fun c' c => c'.1 = c.1 ∧ c'.2.Alike R c.2) services'.cache services.cache
  network : ∀ request, P request →
    ModelGateway.Alike R (services'.network request) (services.network request)

/-! ## Prompt caches -/

namespace Wire.Gemini

def verification (call : Call) (handle : String) (header : String × String) : HttpRequest :=
  ⟨.get, cacheRoot call ++ handle, [header], none, call.timeoutMs⟩

def keeping (call : Call) (shared : Shared) (model : String) (ttlSecs : Nat) (displayName : String)
    (header : String × String) : HttpRequest :=
  ⟨.post, cacheRoot call ++ "cachedContents", [jsonHeader, header],
    some (shared.creation model ttlSecs displayName), call.timeoutMs⟩

/-- The requests that a call may send about a cached prompt. -/
inductive Keeps (call : Call) (shared : Shared) (model : String) : HttpRequest → Prop
  | verification {header : String × String} (hheader : authorization call = .ok header)
      (handle : String) : Keeps call shared model (verification call handle header)
  | keeping {header : String × String} (hheader : authorization call = .ok header)
      (ttlSecs : Nat) (displayName : String) :
      Keeps call shared model (keeping call shared model ttlSecs displayName header)

end Wire.Gemini

namespace Alike

open Wire.Gemini (Keeps authorization exchange)

variable {R : σ' → σ → Prop} {network' : Network σ'} {network : Network σ} {call : Call}

theorem exchange {method : Method} {url : String} {body : Option Json}
    (h : ∀ header, authorization call = .ok header → Alike R
      (network' ⟨method, url, if body.isSome then [jsonHeader, header] else [header], body,
        call.timeoutMs⟩)
      (network ⟨method, url, if body.isSome then [jsonHeader, header] else [header], body,
        call.timeoutMs⟩)) :
    Alike R (exchange network' call method url body) (exchange network call method url body) := by
  unfold Wire.Gemini.exchange
  cases hheader : authorization call with
  | error f => exact pure _
  | ok header =>
      refine (h header hheader).bind fun result => ?_
      cases result <;> exact pure _

structure Backends (R : σ' → σ → Prop) (model : String) (backend' : PromptCache.Backend σ')
    (backend : PromptCache.Backend σ) : Prop where
  verify : ∀ handle, Alike R (backend'.verify handle) (backend.verify handle)
  create : ∀ ttlSecs displayName,
    Alike R (backend'.create model ttlSecs displayName) (backend.create model ttlSecs displayName)

theorem backends {shared : Wire.Gemini.Shared} {model : String}
    (h : ∀ request, Keeps call shared model request →
      Alike R (network' request) (network request)) :
    Backends R model (Wire.Gemini.backend network' call shared)
      (Wire.Gemini.backend network call shared) where
  verify handle :=
    (exchange fun _ hheader => h _ (.verification hheader handle)).bind fun _ => pure _
  create ttlSecs displayName :=
    (exchange fun _ hheader => h _ (.keeping hheader ttlSecs displayName)).bind fun _ => pure _

variable {store' : PromptCache.Store σ'} {store : PromptCache.Store σ} {q : PromptCache.Query}
  {backend' : PromptCache.Backend σ'} {backend : PromptCache.Backend σ}

theorem step (s : PromptCacheSettings) (hstore : store'.Alike R store)
    (hbackend : Backends R q.model backend' backend) (session : PromptCache.Session) :
    Alike R (session.step s store' backend' q) (session.step s store backend q) := by
  cases session with
  | reading => exact (hstore.get _).bind fun _ => pure _
  | verifying handle => exact (hbackend.verify _).bind fun _ => pure _
  | creating => exact (hbackend.create _ _).bind fun _ => pure _
  | storing handle => exact (hstore.set _ _ _).bind fun _ => pure _
  | finished result => exact pure _

theorem run (s : PromptCacheSettings) (hstore : store'.Alike R store)
    (hbackend : Backends R q.model backend' backend) (steps : Nat)
    (session : PromptCache.Session) :
    Alike R (PromptCache.Session.run s store' backend' q steps session)
      (PromptCache.Session.run s store backend q steps session) := by
  -- By induction on the steps that are left: each does alike, and so does what is left after it.
  induction steps generalizing session with
  | zero => cases session <;> exact pure _
  | succ steps ih =>
      cases session with
      | finished result => exact pure _
      | reading => exact (step s hstore hbackend _).bind ih
      | verifying handle => exact (step s hstore hbackend _).bind ih
      | creating => exact (step s hstore hbackend _).bind ih
      | storing handle => exact (step s hstore hbackend _).bind ih

theorem applyCache (s : PromptCacheSettings) (hstore : store'.Alike R store) {model : String}
    {b : Wire.Gemini.ChatBody}
    (h : ∀ request, Keeps call b.shared model request →
      Alike R (network' request) (network request)) :
    Alike R (Wire.Gemini.applyCache s store' network' model call b)
      (Wire.Gemini.applyCache s store network model call b) := by
  unfold Wire.Gemini.applyCache
  split
  · exact pure _
  dsimp only
  split
  · exact pure _
  refine (run s hstore (backends h) _ _).bind fun result => ?_
  cases result <;> exact pure _

theorem prepareGemini (g : GeminiSettings) (s : PromptCacheSettings)
    (hstore : store'.Alike R store) (body : Json)
    (h : ∀ shared request, Keeps call shared (Wire.Gemini.addressedModel g call) request →
      Alike R (network' request) (network request)) :
    Alike R (Wire.Gemini.prepare g (some (s, store')) network' call body)
      (Wire.Gemini.prepare g (some (s, store)) network call body) := by
  unfold Wire.Gemini.prepare
  cases call.mode with
  | chat =>
      dsimp only
      split
      · exact pure _
      · refine (applyCache s hstore (h _)).bind fun found => ?_
        cases found <;> exact pure _
  | _ => exact pure _

end Alike

/-! ## Rounds -/

namespace Relay

/-- The requests that a round of a call may send. -/
inductive Sends (services : Services σ) (call : Call) (request : Request) : HttpRequest → Prop
  | keeping {call' : Call} {body : Json} {shared : Wire.Gemini.Shared} {sent : HttpRequest}
      (hconvert : Wire.convert services.gemini call request = .ok (body, call'))
      (hwire : call'.wire = .gemini)
      (hkeeps : Wire.Gemini.Keeps call' shared
        (Wire.Gemini.addressedModel services.gemini call') sent) :
      Sends services call request sent
  | relaying {call' : Call} {body : Json} {sent : HttpRequest} (w : σ)
      (hconvert : Wire.convert services.gemini call request = .ok (body, call'))
      (hsent : httpRequest services.gemini (prepare services call' body w).1.2
        (prepare services call' body w).1.1 = .ok sent) :
      Sends services call request sent

end Relay

namespace Alike

variable {R : σ' → σ → Prop} {P : HttpRequest → Prop} {services' : Services σ'}
  {services : Services σ} {call : Call}

theorem prepare (hservices : services'.Alike R P services) (body : Json)
    (h : call.wire = .gemini → ∀ shared request,
      Wire.Gemini.Keeps call shared (Wire.Gemini.addressedModel services.gemini call) request →
        P request) :
    Alike R (Relay.prepare services' call body) (Relay.prepare services call body) := by
  unfold Relay.prepare
  cases hwire : call.wire with
  | gemini =>
      dsimp only
      rw [hservices.gemini]
      have hcache := hservices.cache
      generalize services'.cache = cache', services.cache = cache at hcache
      cases hcache with
      | none => exact pure _
      | @some c' c hsome =>
          obtain ⟨settings', store'⟩ := c'
          obtain ⟨settings, store⟩ := c
          obtain ⟨rfl, hstore⟩ := hsome
          exact prepareGemini services.gemini _ hstore body fun shared request hkeeps =>
            hservices.network request (h hwire shared request hkeeps)
  | openai | zhipu => exact pure _

theorem send (hservices : services'.Alike R P services) (body : Json)
    (h : ∀ request, Relay.httpRequest services.gemini call body = .ok request → P request) :
    Alike R (Relay.send services' call body) (Relay.send services call body) := by
  unfold Relay.send
  rw [hservices.gemini]
  cases hrequest : Relay.httpRequest services.gemini call body with
  | error f => exact pure _
  | ok request =>
      refine (hservices.network request (h request hrequest)).bind fun result => ?_
      cases result <;> exact pure _

theorem answered (hservices : services'.Alike R P services) {request : Request}
    (h : ∀ sent, Relay.Sends services call request sent → P sent) :
    Alike R (Relay.answered services' call request) (Relay.answered services call request) := by
  unfold Relay.answered
  rw [hservices.gemini]
  cases hconvert : Wire.convert services.gemini call request with
  | error f => exact pure _
  | ok converted =>
      obtain ⟨body, call'⟩ := converted
      refine (prepare hservices body fun hwire shared sent hkeeps =>
        h sent (.keeping hconvert hwire hkeeps)).bind_of_result fun w => ?_
      exact (send hservices _ fun sent hsent => h sent (.relaying w hconvert hsent)).bind
        fun _ => pure _

end Alike

namespace RelayState

variable {R : RelayState σ' → RelayState σ → Prop} {P : HttpRequest → Prop}

theorem relay_eq (settings : Settings) (n : Network σ) (call : Call) (request : Request)
    (w : RelayState σ) :
    relay settings n call request w =
      let ((sent, answer), after) := Relay.answered (services settings n) call request w
      let (relayed, stamp) := Relay.finish settings.gemini sent answer w.stamp
      (relayed, { after with stamp }) := by
  rw [relay, Relay.once_eq]
  rfl

def SharesStamp (R : RelayState σ' → RelayState σ → Prop) : Prop :=
  ∀ w' w, R w' w → w'.stamp = w.stamp ∧ ∀ stamp, R { w' with stamp } { w with stamp }

theorem services_alike (settings : Settings) {n' : Network σ'} {n : Network σ}
    (hstore : store.Alike R store)
    (hnetwork : ∀ request, P request → Alike R (network n' request) (network n request)) :
    (services settings n').Alike R P (services settings n) where
  gemini := rfl
  cache := by
    unfold services
    split
    · exact .some ⟨rfl, hstore⟩
    · exact .none
  network := hnetwork

/-- A whole round comes to the same. -/
theorem alike_relay {settings : Settings} {n' : Network σ'} {n : Network σ}
    (hstamp : SharesStamp R) (hservices : (services settings n').Alike R P (services settings n))
    (call : Call) (request : Request)
    (h : ∀ sent, Relay.Sends (services settings n) call request sent → P sent) :
    Alike R (relay settings n' call request) (relay settings n call request) := by
  intro w' w hworlds
  have hanswered := Alike.answered hservices h w' w hworlds
  rw [relay_eq, relay_eq, (hstamp w' w hworlds).1]
  generalize Relay.answered (services settings n') call request w' = first,
    Relay.answered (services settings n) call request w = second at hanswered
  obtain ⟨answered', after'⟩ := first
  obtain ⟨answered, after⟩ := second
  obtain ⟨rfl, hafter⟩ := hanswered
  exact ⟨rfl, (hstamp _ _ hafter).2 _⟩

end RelayState

def RelayState.withLedger (w : RelayState σ) (l : Ledger) : RelayState σ :=
  { w with ledger := l }

/-- What is done neither reads nor changes the ledger. -/
def Blind (f : StateM (RelayState σ) α) : Prop :=
  ∀ w l, f (w.withLedger l) = ((f w).1, (f w).2.withLedger l)

theorem Blind.ledger_eq {f : StateM (RelayState σ) α} (h : Blind f) (w : RelayState σ) :
    (f w).2.ledger = w.ledger :=
  congrArg (·.2.ledger) (h w w.ledger)

theorem RelayState.blind_relay (settings : Settings) (n : Network σ) (call : Call)
    (request : Request) : Blind (relay settings n call request) := by
  intro w l
  have hservices : (services settings n).Alike (fun w' w => w' = w.withLedger l) (fun _ => True)
      (services settings n) :=
    services_alike settings
      ⟨fun _ _ _ h => h ▸ ⟨rfl, rfl⟩, fun _ _ _ _ _ h => h ▸ ⟨rfl, rfl⟩⟩
      fun _ _ _ _ h => h ▸ ⟨rfl, rfl⟩
  have hstamp : SharesStamp fun w' w : RelayState σ => w' = w.withLedger l :=
    fun _ _ h => h ▸ ⟨rfl, fun _ => rfl⟩
  obtain ⟨hresult, hworlds⟩ :=
    alike_relay hstamp hservices call request (fun _ _ => trivial) (w.withLedger l) w rfl
  exact Prod.ext hresult hworlds

end ModelGateway
