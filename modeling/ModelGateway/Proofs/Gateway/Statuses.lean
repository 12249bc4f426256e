import ModelGateway.Proofs.Gateway.Charging
import ModelGateway.Proofs.Relay.Faults

/-!
# Statuses of failed requests

A request that is refused, cannot be routed or has no price is answered with an error status.  So is
one whose round trip brings no usage, unless the provider answered with a status that is neither 200
nor an error status, or a stream was cut off.
-/

namespace ModelGateway

/-! ## Errors of its own -/

/-- An error that does not carry the status of a provider. -/
def GatewayError.IsOwn (e : GatewayError) : Prop :=
  ∀ f, e = .relay f → f.IsOwn

theorem GatewayError.IsOwn.isErrorStatus {e : GatewayError} (h : e.IsOwn) :
    IsErrorStatus e.httpStatus := by
  cases e with
  | relay f => exact (h f rfl).isErrorStatus
  | http _ | json _ | database _ | inputOutput _ | balance _ | config _ | timeParse _
  | badRequest _ | notFound _ | batchRunning => simp [GatewayError.httpStatus, IsErrorStatus]

theorem Refusal.isErrorStatus (r : Refusal) : IsErrorStatus r.response.status := by
  cases r <;> simp [response, ClientResponse.json, ClientResponse.text, ClientResponse.typed,
    IsErrorStatus]

theorem Call.failsAlone_prepare (channel : Channel) (key model : String) (mode : RelayMode)
    (timeoutMs : Nat) : FailsAlone (prepare channel key model mode timeoutMs) := by
  unfold prepare start
  cases channel.provider.wire? with
  | none => exact .error nofun
  | some wire =>
      dsimp only
      rw [withAliases_eq]
      split
      · exact .error nofun
      · split
        · exact .ok _
        · exact .error nofun

theorem PricingSettings.failsAlone_priceFor (s : PricingSettings) (model : String) :
    FailsAlone (s.priceFor model) := by
  unfold priceFor
  split
  · exact .ok _
  · split
    · exact .ok _
    · exact .error nofun

theorem ChannelStore.isOwn_of_list {s : ChannelStore} {e : GatewayError}
    (h : s.list = .error e) : e.IsOwn := by
  unfold list at h
  split at h
  · cases h
    exact nofun
  · unfold ChannelTable.list at h
    split at h
    · cases h
    · cases h
      exact nofun

namespace Gateway

variable {σ : Type} {env : Surroundings σ} {g : Gateway σ} {request : ClientRequest}

theorem isOwn_of_route {s : RelaySettings} {dice : Balancer.Dice}
    {listed : Except GatewayError (List Channel)} {model : String} {mode : RelayMode}
    {rotation : Rotation} {e : GatewayError} (hlisted : ∀ e, listed = .error e → e.IsOwn)
    (h : (Routing.route s dice listed model mode rotation).1 = .error e) : e.IsOwn := by
  unfold Routing.route at h
  split at h
  · cases h
    rintro _ ⟨⟩
    exact nofun
  cases listed with
  | error e' =>
      cases h
      exact hlisted _ rfl
  | ok channels =>
      change Routing.callTo s model mode
        (Balancer.select s.strategy dice (Routing.pool mode channels) model rotation).1 = _ at h
      unfold Routing.callTo at h
      split at h
      · cases h
        exact nofun
      · rename_i channel key _
        have hprepare := Call.failsAlone_prepare channel key model mode (s.timeoutSecs * 1000)
        cases hcall : Call.prepare channel key model mode (s.timeoutSecs * 1000) with
        | ok call =>
            rw [hcall] at h
            cases h
        | error f =>
            rw [hcall] at h
            cases h
            rintro _ ⟨⟩
            exact hprepare f hcall

theorem isOwn_of_orderFor {tokenName : String} {c : ClientCall} {e : GatewayError}
    (h : (orderFor env tokenName c g).1 = .error e) : e.IsOwn := by
  have h : (Routing.route g.settings.relay env.dice g.monitor.store.list c.model c.request.mode
      g.rotation).1.bind (order g.settings c tokenName) = .error e := h
  cases hroute : (Routing.route g.settings.relay env.dice g.monitor.store.list c.model
      c.request.mode g.rotation).1 with
  | error e' =>
      rw [hroute] at h
      cases h
      exact isOwn_of_route (fun _ => ChannelStore.isOwn_of_list) hroute
  | ok call =>
      rw [hroute] at h
      have hprice := PricingSettings.failsAlone_priceFor g.settings.pricing call.requestedModel
      change order g.settings c tokenName call = .error e at h
      unfold order at h
      cases hpriced : g.settings.pricing.priceFor call.requestedModel with
      | ok price =>
          rw [hpriced] at h
          cases h
      | error f =>
          rw [hpriced] at h
          cases h
          rintro _ ⟨⟩
          exact hprice f hpriced

/-! ## Requests without a call -/

theorem isOwn_of_readAction {text : String} {e : GatewayError} (h : readAction text = .error e) :
    e.IsOwn := by
  unfold readAction at h
  split at h
  · cases h
    exact nofun
  split at h
  · cases h
    exact nofun
  split at h
  · cases h
  · cases h
  · cases h
    exact nofun

def Refuses (c? : Option ClientCall) (f : Surroundings σ → StateM (Gateway σ) ClientResponse) :
    Prop :=
  c? = none → ∀ env g, IsErrorStatus (f env g).1.status ∧ (f env g).2 = g

theorem refuses_serveBody {α : Type} (decoder : Json.Decoder α) (call : α → ClientCall)
    (request : ClientRequest) :
    Refuses ((RequestBody.decode decoder request).toOption.map call)
      fun env : Surroundings σ => serveBody env decoder call request := by
  intro hnone env g
  unfold serveBody
  cases h : RequestBody.decode decoder request with
  | error r => exact ⟨r.isErrorStatus, rfl⟩
  | ok body => simp [h, Except.toOption] at hnone

theorem refuses_serveNative (target : String) (request : ClientRequest) :
    Refuses (request.nativeCall? target)
      fun env : Surroundings σ => serveNative env target request := by
  intro hnone env g
  unfold serveNative
  cases htext : Url.pathText? target with
  | none => exact ⟨Refusal.isErrorStatus _, rfl⟩
  | some text =>
      cases hbody : RequestBody.decode Json.Decoder.json request with
      | error r => exact ⟨r.isErrorStatus, rfl⟩
      | ok body =>
          rcases haction : readAction text with e | ⟨model, isStream⟩
          · simp only [haction]
            exact ⟨(isOwn_of_readAction haction).isErrorStatus, rfl⟩
          · simp [ClientRequest.nativeCall?, htext, hbody, haction, Except.toOption] at hnone

theorem refused_of_refuses {c? : Option ClientCall}
    {f : Surroundings σ → StateM (Gateway σ) ClientResponse}
    (hpre : CrossOrigin.isPreflight request = false)
    (hdispatch : dispatch env request = some <$> f env) (hf : Refuses c? f) (hnone : c? = none) :
    ∃ response, serve env request g = (some response, g) ∧ IsErrorStatus response.status := by
  obtain ⟨hstatus, hkept⟩ := hf hnone env g
  refine ⟨deliver request (f env g).1, ?_, by rwa [status_deliver]⟩
  rw [serve_of_dispatch hpre, hdispatch]
  exact congrArg (Prod.mk _) hkept

theorem refused_of_call?_eq_none (env : Surroundings σ) (g : Gateway σ)
    (hpre : CrossOrigin.isPreflight request = false) (htest : request.isTest = false)
    (hnone : request.call? = none) :
    ∃ response, serve env request g = (some response, g) ∧ IsErrorStatus response.status := by
  unfold ClientRequest.call? at hnone
  cases hacceptable : RequestBody.isAcceptable request with
  | false =>
      refine ⟨deliver request (Refusal.response .invalidJson), ?_, ?_⟩
      · rw [serve_of_dispatch hpre, dispatch, hacceptable]
        rfl
      · rw [status_deliver]
        exact Refusal.isErrorStatus _
  | true =>
      rw [if_neg (by simp [hpre, hacceptable])] at hnone
      cases he : Endpoint.ofRequest request with
      | error r =>
          refine ⟨deliver request r.response, ?_, ?_⟩
          · rw [serve_of_dispatch hpre, dispatch, hacceptable, he]
            rfl
          · rw [status_deliver]
            exact r.isErrorStatus
      | ok e =>
          rw [he] at hnone
          have hdispatch := dispatch_of_endpoint hacceptable he env
          cases e with
          | testAll => simp [ClientRequest.isTest, he] at htest
          | testOne id => simp [ClientRequest.isTest, he] at htest
          | chat => exact refused_of_refuses hpre hdispatch (refuses_serveBody _ _ request) hnone
          | embeddings =>
              exact refused_of_refuses hpre hdispatch (refuses_serveBody _ _ request) hnone
          | images => exact refused_of_refuses hpre hdispatch (refuses_serveBody _ _ request) hnone
          | native target =>
              exact refused_of_refuses hpre hdispatch (refuses_serveNative target request) hnone

end Gateway

/-! ## Requests that fail -/

namespace Order

variable {σ : Type}

/-- The provider answers with a status that is neither 200 nor an error status. -/
def Strays (o : Order) (s : Settings) (network : Network σ) (w : RelayState σ) : Prop :=
  Relay.Strays (o.answered s network w).2

/-- The handler crashes after the head of a stream. -/
def IsCutOff (o : Order) (s : Settings) (network : Network σ) (w : RelayState σ) : Prop :=
  Relay.IsCutOff s.gemini (o.answered s network w).1 (o.answered s network w).2

theorem isErrorStatus_iff {o : Order} {s : Settings} {network : Network σ} {w : RelayState σ}
    (hnone : ∀ usage, (o.relayed s network w).outcome ≠ .ok usage) :
    IsErrorStatus (o.relayed s network w).response.status ↔
      ¬ o.Strays s network w ∧ ¬ o.IsCutOff s network w := by
  rw [relayed_eq] at hnone ⊢
  exact Relay.isErrorStatus_iff
    (Relay.failsAlone_answered (RelayState.services s network) o.call o.request w) hnone

end Order

namespace Gateway

variable {σ : Type} {request : ClientRequest}

/-- A request that fails leaves the ledger as it is.  It is answered with an error status, unless
the provider answered with a status that is neither 200 nor an error status or a stream is cut off.
-/
theorem failed_isErrorStatus_iff (env : Surroundings σ) (g : Gateway σ)
    (hpre : CrossOrigin.isPreflight request = false) (htest : request.isTest = false) :
    ∃ response after, serve env request g = (some response, after) ∧
      (g.order? env request = none →
        after.ledger = g.ledger ∧ IsErrorStatus response.status) ∧
      ∀ o, g.order? env request = some o →
        (∀ usage, (g.roundTrip env o).outcome ≠ .ok usage) →
        after.ledger = g.ledger ∧
          (IsErrorStatus response.status ↔
            ¬ o.Strays g.settings env.network g.monitor.world ∧
              ¬ o.IsCutOff g.settings env.network g.monitor.world) := by
  have hstands := stands_call? (σ := σ) htest
  cases hc : request.call? with
  | none =>
      obtain ⟨response, hserve, hstatus⟩ := refused_of_call?_eq_none env g hpre htest hc
      have hnone : g.order? env request = none := by
        rw [order?, hc]
        rfl
      refine ⟨response, g, hserve, fun _ => ⟨rfl, hstatus⟩, fun o ho => ?_⟩
      rw [hnone] at ho
      contradiction
  | some c =>
      rw [hc] at hstands
      rcases horder : orderFor env (tokenName request) c g with ⟨e | o, rotation⟩
      · have hown := isOwn_of_orderFor (congrArg Prod.fst horder)
        have hnone : g.order? env request = none := by
          rw [order?_of_call? hc, horder]
          rfl
        refine ⟨_, _, hstands env g, fun _ => ?_, fun o ho => ?_⟩
        · rw [serveCall_of_error horder, status_deliver]
          exact ⟨rfl, hown.isErrorStatus⟩
        · rw [hnone] at ho
          contradiction
      · have hsome : g.order? env request = some o := by
          rw [order?_of_call? hc, horder]
          rfl
        refine ⟨_, _, hstands env g, fun hnone => ?_, fun o' ho' hnone => ?_⟩
        · rw [hsome] at hnone
          contradiction
        · obtain rfl := Option.some.inj (hsome.symm.trans ho')
          rw [serveCall_of_order horder, status_deliver]
          exact ⟨Order.ledger_of_no_usage hnone, Order.isErrorStatus_iff hnone⟩

def answeringStatus (status : Nat) : Surroundings Unit :=
  ⟨fun _ => pure (.response ⟨status, none, ⟨[], false⟩⟩), fun _ => 0, 0⟩

theorem failed_isErrorStatus_iff_busy :
    let g := ofOneModel
    let env := answeringStatus 503
    let request := chatRequest false
    CrossOrigin.isPreflight request = false ∧ request.isTest = false ∧
      ∃ o response after, g.order? env request = some o ∧
        serve env request g = (some response, after) ∧
        after.ledger = g.ledger ∧ IsErrorStatus response.status := by
  intro g env request
  have hpre : CrossOrigin.isPreflight request = false := by decide +kernel
  have htest : request.isTest = false := by decide +kernel
  obtain ⟨o, ho, hsent⟩ := (Option.any_eq_true (fun o : Order => decide (
      (o.answered g.settings env.network g.monitor.world).2 = .ok ⟨503, none, ⟨[], false⟩⟩ ∧
      (g.roundTrip env o).outcome.isOk = false)) (g.order? env request)).mp (by decide +kernel)
  obtain ⟨hanswer, houtcome⟩ := of_decide_eq_true hsent
  have hnone : ∀ usage, (g.roundTrip env o).outcome ≠ .ok usage := by
    intro usage husage
    rw [husage] at houtcome
    cases houtcome
  obtain ⟨response, after, hserve, -, hordered⟩ := failed_isErrorStatus_iff env g hpre htest
  obtain ⟨hledger, hstatus⟩ := hordered o ho hnone
  refine ⟨hpre, htest, o, response, after, ho, hserve, hledger, hstatus.mpr ⟨?_, ?_⟩⟩
  · rintro ⟨r, hr, -, -, hstatus⟩
    obtain rfl := Except.ok.inj (hanswer.symm.trans hr)
    exact hstatus (by decide)
  · rintro ⟨-, r, hr, h200, -⟩
    obtain rfl := Except.ok.inj (hanswer.symm.trans hr)
    cases h200

/-- A provider that answers 204 makes the request fail, and the client is answered 204. -/
theorem no_content_passed_on :
    let g := ofOneModel
    let env := answeringStatus 204
    let request := chatRequest false
    (∃ o, g.order? env request = some o ∧ ∀ usage, (g.roundTrip env o).outcome ≠ .ok usage) ∧
      ∃ response after, serve env request g = (some response, after) ∧
        after.ledger = g.ledger ∧ response.status = 204 ∧ ¬ IsErrorStatus response.status := by
  intro g env request
  obtain ⟨o, ho, hfailed⟩ := (Option.any_eq_true (fun o : Order =>
    !(g.roundTrip env o).outcome.isOk) (g.order? env request)).mp (by decide +kernel)
  have hnone : ∀ usage, (g.roundTrip env o).outcome ≠ .ok usage := by
    intro usage husage
    rw [husage] at hfailed
    cases hfailed
  refine ⟨⟨o, ho, hnone⟩, ?_⟩
  obtain ⟨response, hresponse, hsent⟩ := (Option.any_eq_true (fun response : ClientResponse =>
    decide (response.status = 204)) (serve env request g).1).mp (by decide +kernel)
  have hstatus : response.status = 204 := of_decide_eq_true hsent
  have hledger : (serve env request g).2.ledger = g.ledger := by decide +kernel
  refine ⟨response, (serve env request g).2, ?_, hledger, hstatus, ?_⟩
  · exact Prod.ext hresponse rfl
  · rw [hstatus]
    decide

end Gateway

end ModelGateway
