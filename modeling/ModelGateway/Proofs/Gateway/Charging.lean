import ModelGateway.Proofs.Gateway.Requests
import ModelGateway.Proofs.Health.TestCharges

/-!
# Charging once

A call of a client and a test of a channel leave one entry in the ledger if the round trip brings
usage, and none otherwise.  Without a price nothing is sent.  The answer does not depend on the
ledger.
-/

namespace ModelGateway

variable {σ : Type}

/-! ## Orders of clients -/

def ClientCall.streams (c : ClientCall) : Bool :=
  match c.request with
  | .chat r => r.stream
  | _ => c.isStream

theorem ClientCall.isFor_complete {c : ClientCall} {call : Call} {channel : Channel}
    {model : String} {isStream : Bool} (h : call.IsFor channel model isStream) :
    (c.complete call).IsFor channel model c.streams := by
  unfold complete streams
  cases c.request <;> exact ⟨h.channelId_eq, h.group_eq, h.requestedModel_eq, rfl⟩

namespace Gateway

/-- The order for a call of a client, with the rotation after it. -/
def orderFor (env : Surroundings σ) (tokenName : String) (c : ClientCall) (g : Gateway σ) :
    Except GatewayError Order × Rotation :=
  let (call, rotation) := Routing.route g.settings.relay env.dice g.monitor.store.list c.model
    c.request.mode g.rotation
  (call.bind (order g.settings c tokenName), rotation)

theorem serveCall_eq (env : Surroundings σ) (tokenName : String) (c : ClientCall) (g : Gateway σ) :
    serveCall env tokenName c g =
      match orderFor env tokenName c g with
      | (.error e, rotation) => (.ofError e, { g with rotation })
      | (.ok o, rotation) =>
        let (relayed, world) := o.run g.settings env.network g.monitor.world
        (relayed.response, { g with rotation, monitor := { g.monitor with world } }) := by
  unfold serveCall orderFor
  simp only [bind, StateT.bind, route]
  rcases Routing.route g.settings.relay env.dice g.monitor.store.list c.model c.request.mode
    g.rotation with ⟨e | call, rotation⟩
  · rfl
  · -- The order is made with the settings that routing has left in the state.
    have hget : ∀ (f : Gateway σ → StateM (Gateway σ) ClientResponse) g', StateT.bind get f g' =
        f g' g' := fun _ _ => rfl
    simp only [hget, Except.bind]
    cases order g.settings c tokenName call <;> rfl

theorem serveCall_of_error {env : Surroundings σ} {tokenName : String} {c : ClientCall}
    {g : Gateway σ} {e : GatewayError} {rotation : Rotation}
    (h : orderFor env tokenName c g = (.error e, rotation)) :
    serveCall env tokenName c g = (.ofError e, { g with rotation }) := by
  rw [serveCall_eq, h]

theorem serveCall_of_order {env : Surroundings σ} {tokenName : String} {c : ClientCall}
    {g : Gateway σ} {o : Order} {rotation : Rotation}
    (h : orderFor env tokenName c g = (.ok o, rotation)) :
    serveCall env tokenName c g =
      ((o.relayed g.settings env.network g.monitor.world).response,
        { g with rotation, monitor := { g.monitor with
          world := (o.run g.settings env.network g.monitor.world).2 } }) := by
  rw [serveCall_eq, h]
  rfl

def Selects (env : Surroundings σ) (g : Gateway σ) (c : ClientCall) (channel : Channel)
    (key : String) : Prop :=
  ∃ channels, g.monitor.store.list = .ok channels ∧
    (Balancer.select g.settings.relay.strategy env.dice (Routing.pool c.request.mode channels)
      c.model g.rotation).1 = .ok (channel, key)

theorem route_eq_ok {s : RelaySettings} {dice : Balancer.Dice}
    {listed : Except GatewayError (List Channel)} {model : String} {mode : RelayMode}
    {rotation : Rotation} {call : Call}
    (h : (Routing.route s dice listed model mode rotation).1 = .ok call) :
    ∃ channels channel key, listed = .ok channels ∧
      (Balancer.select s.strategy dice (Routing.pool mode channels) model rotation).1 =
        .ok (channel, key) ∧
      Call.prepare channel key model mode (s.timeoutSecs * 1000) = .ok call := by
  unfold Routing.route at h
  split at h
  · cases h
  cases listed with
  | error e => cases h
  | ok channels =>
      change Routing.callTo s model mode
        (Balancer.select s.strategy dice (Routing.pool mode channels) model rotation).1 = _ at h
      cases hselect : (Balancer.select s.strategy dice (Routing.pool mode channels) model
          rotation).1 with
      | error e =>
          rw [hselect] at h
          cases h
      | ok choice =>
          obtain ⟨channel, key⟩ := choice
          rw [hselect] at h
          refine ⟨channels, channel, key, rfl, hselect, ?_⟩
          cases hprepare : Call.prepare channel key model mode (s.timeoutSecs * 1000) with
          | error f => simp [Routing.callTo, hprepare, Except.mapError] at h
          | ok call' =>
              simp only [Routing.callTo, hprepare, Except.mapError] at h
              exact congrArg Except.ok (Except.ok.inj h)

theorem order_eq_ok {s : Settings} {c : ClientCall} {tokenName : String} {call : Call} {o : Order}
    (h : order s c tokenName call = .ok o) :
    s.pricing.priceFor call.requestedModel = .ok o.price ∧ o.call = c.complete call := by
  unfold order at h
  cases hprice : s.pricing.priceFor call.requestedModel with
  | error f => simp [hprice] at h
  | ok price =>
      rw [hprice] at h
      obtain rfl := Except.ok.inj h
      exact ⟨rfl, rfl⟩

theorem orderFor_eq_ok {env : Surroundings σ} {tokenName : String} {c : ClientCall}
    {g : Gateway σ} {o : Order} (h : (orderFor env tokenName c g).1 = .ok o) :
    ∃ channel key, g.Selects env c channel key ∧
      g.settings.pricing.priceFor c.model = .ok o.price ∧
      o.call.IsFor channel c.model c.streams := by
  obtain ⟨call, hroute, hordered⟩ := eq_ok_of_bind h
  obtain ⟨channels, channel, key, hlisted, hselect, hprepare⟩ := route_eq_ok hroute
  have hcall := Call.isFor_of_prepare hprepare
  obtain ⟨hprice, hcompleted⟩ := order_eq_ok hordered
  rw [hcall.requestedModel_eq] at hprice
  exact ⟨channel, key, ⟨channels, hlisted, hselect⟩, hprice,
    hcompleted ▸ ClientCall.isFor_complete hcall⟩

def order? (env : Surroundings σ) (request : ClientRequest) (g : Gateway σ) : Option Order :=
  request.call?.bind fun c => (orderFor env (tokenName request) c g).1.toOption

/-! ## What a client's request comes to -/

def withLedger (g : Gateway σ) (ledger : Ledger) : Gateway σ :=
  { g with monitor := { g.monitor with world := g.monitor.world.withLedger ledger } }

def roundTrip (env : Surroundings σ) (g : Gateway σ) (o : Order) : Relayed :=
  o.relayed g.settings env.network g.monitor.world

/-- The ledger after a request, and the answer to it. -/
structure Charged (env : Surroundings σ) (request : ClientRequest) (g : Gateway σ)
    (response : ClientResponse) (after : Gateway σ) : Prop where
  blind : ∀ ledger, ∃ ledger',
    serve env request (g.withLedger ledger) = (some response, after.withLedger ledger')
  unordered : g.order? env request = none → after.monitor = g.monitor ∧
    ∀ network, serve { env with network } request g = (some response, after)
  unpriced : ∀ c f, request.call? = some c → g.settings.pricing.priceFor c.model = .error f →
    g.order? env request = none
  ordered : ∀ o, g.order? env request = some o →
    ∃ c channel key, request.call? = some c ∧ g.Selects env c channel key ∧
      g.settings.pricing.priceFor c.model = .ok o.price ∧
      (∀ usage, (g.roundTrip env o).outcome = .ok usage → ∃ entry : LedgerEntry,
        after.ledger.entries = g.ledger.entries ++ [entry] ∧
        entry.Bills channel.id channel.group c.model c.streams o.price
          g.settings.pricing.quotaPerUnit usage) ∧
      ((∀ usage, (g.roundTrip env o).outcome ≠ .ok usage) → after.ledger = g.ledger)
  answered : ∀ o, g.order? env request = some o →
    response = deliver request (g.roundTrip env o).response ∧
      (g.roundTrip env o).Answers (o.Marked g.settings env.network g.monitor.world)

theorem order?_of_call? {env : Surroundings σ} {request : ClientRequest} {g : Gateway σ}
    {c : ClientCall} (hc : request.call? = some c) :
    g.order? env request = (orderFor env (tokenName request) c g).1.toOption := by
  rw [order?, hc]
  rfl

theorem charged_of_error {env : Surroundings σ} {request : ClientRequest} {g : Gateway σ}
    {c : ClientCall} {e : GatewayError} {rotation : Rotation} (hc : request.call? = some c)
    (hstands : Stands σ request (some c))
    (horder : orderFor env (tokenName request) c g = (.error e, rotation)) :
    Charged env request g (deliver request (.ofError e)) { g with rotation } := by
  have hnone : g.order? env request = none := by
    rw [order?_of_call? hc, horder]
    rfl
  have hledger : ∀ ledger, orderFor env (tokenName request) c (g.withLedger ledger) =
      (.error e, rotation) := fun _ => horder
  have hnetwork : ∀ network, orderFor { env with network } (tokenName request) c g =
      (.error e, rotation) := fun _ => horder
  exact {
    blind := fun ledger => ⟨ledger, by rw [hstands, serveCall_of_error (hledger ledger)]; rfl⟩
    unordered := fun _ =>
      ⟨rfl, fun network => by rw [hstands, serveCall_of_error (hnetwork network)]⟩
    unpriced := fun _ _ _ _ => hnone
    ordered := fun o ho => nomatch hnone.symm.trans ho
    answered := fun o ho => nomatch hnone.symm.trans ho }

theorem charged_of_order {env : Surroundings σ} {request : ClientRequest} {g : Gateway σ}
    {c : ClientCall} {o : Order} {rotation : Rotation} (hc : request.call? = some c)
    (hstands : Stands σ request (some c))
    (horder : orderFor env (tokenName request) c g = (.ok o, rotation))
    (hopen : g.ledger.isClosed = false)
    (hfits : o.Fits g.settings env.network g.monitor.world) :
    Charged env request g (deliver request (g.roundTrip env o).response)
      { g with rotation, monitor := { g.monitor with
        world := (o.run g.settings env.network g.monitor.world).2 } } := by
  have hsome : g.order? env request = some o := by
    rw [order?_of_call? hc, horder]
    rfl
  obtain ⟨channel, key, hselects, hprice, hcall⟩ := orderFor_eq_ok (congrArg Prod.fst horder)
  have hledger : ∀ ledger, orderFor env (tokenName request) c (g.withLedger ledger) =
      (.ok o, rotation) := fun _ => horder
  refine {
    blind := fun ledger => ?_
    unordered := fun hnone => nomatch hsome.symm.trans hnone
    unpriced := fun c' f hc' hf => ?_
    ordered := fun o' ho' => ?_
    answered := fun o' ho' => ?_ }
  · -- The channels and the rounds are not the ledger's, so the same order is made, and it is
    -- answered alike.
    refine ⟨o.settle g.settings.pricing (g.roundTrip env o) ledger, ?_⟩
    rw [hstands, serveCall_of_order (hledger ledger)]
    change (some (deliver request
      (o.relayed g.settings env.network (g.monitor.world.withLedger ledger)).response),
      { g with rotation, monitor := { g.monitor with
        world := (o.run g.settings env.network (g.monitor.world.withLedger ledger)).2 } }) = _
    rw [Order.relayed_withLedger, Order.run_withLedger]
    rfl
  · obtain rfl := Option.some.inj (hc.symm.trans hc')
    cases hprice.symm.trans hf
  · obtain rfl := Option.some.inj (hsome.symm.trans ho')
    refine ⟨c, channel, key, hc, hselects, hprice, fun usage husage => ?_, fun hnone => ?_⟩
    · obtain ⟨entry, hentries, hbills⟩ := Order.entries_of_usage hopen husage
      exact ⟨entry, hentries, hbills.of_isFor hcall⟩
    · exact Order.ledger_of_no_usage hnone
  · obtain rfl := Option.some.inj (hsome.symm.trans ho')
    exact ⟨rfl, Order.answers_relayed hfits⟩

theorem charged_of_serve {env : Surroundings σ} {request : ClientRequest} {g : Gateway σ}
    (htest : request.isTest = false) (hopen : g.ledger.isClosed = false)
    (hfits : ∀ o, g.order? env request = some o →
      o.Fits g.settings env.network g.monitor.world) :
    ∃ response after, serve env request g = (some response, after) ∧
      Charged env request g response after := by
  have hstands := stands_call? (σ := σ) htest
  cases hc : request.call? with
  | none =>
      rw [hc] at hstands
      obtain ⟨response, hserve⟩ := hstands
      have hnone : g.order? env request = none := by
        rw [order?, hc]
        rfl
      refine ⟨response, g, hserve env g, ?_⟩
      exact {
        blind := fun ledger => ⟨ledger, hserve env _⟩
        unordered := fun _ => ⟨rfl, fun network => hserve _ g⟩
        unpriced := fun c f hsome => nomatch hc.symm.trans hsome
        ordered := fun o ho => nomatch hnone.symm.trans ho
        answered := fun o ho => nomatch hnone.symm.trans ho }
  | some c =>
      rw [hc] at hstands
      rcases horder : orderFor env (tokenName request) c g with ⟨e | o, rotation⟩
      · refine ⟨_, _, ?_, charged_of_error hc hstands horder⟩
        rw [hstands, serveCall_of_error horder]
      · have hsome : g.order? env request = some o := by
          rw [order?_of_call? hc, horder]
          rfl
        refine ⟨_, _, ?_, charged_of_order hc hstands horder hopen (hfits o hsome)⟩
        rw [hstands, serveCall_of_order horder]
        rfl

/-- While the ledger takes entries and the sums of tokens are counts, a request leaves one entry if
its round trip brings usage and none otherwise.  So does the test of a channel. -/
theorem charged_once (env : Surroundings σ) {g : Gateway σ} (hopen : g.ledger.isClosed = false) :
    (∀ request : ClientRequest, request.isTest = false →
      (∀ o, g.order? env request = some o → o.Fits g.settings env.network g.monitor.world) →
      ∃ response after, serve env request g = (some response, after) ∧
        Charged env request g response after) ∧
    ∀ channel requested kind,
      (∀ o, Tester.order g.settings channel (TestRequest.modelFor channel requested) kind = .ok o →
        o.Fits g.settings env.network g.monitor.world) →
      ∃ run after, probe env g.settings channel requested kind g.monitor.world = (run, after) ∧
        Tester.Tested g.settings env.network env.testNanos channel requested kind g.monitor.world
          run after := by
  constructor
  · intro request htest hfits
    exact charged_of_serve htest hopen hfits
  · intro channel requested kind hfits
    exact ⟨_, _, rfl, Tester.tested_probe hopen hfits⟩

/-! ## A chat -/

def ofOneModel : Gateway Unit where
  settings := {}
  monitor := {
    store := { table := ChannelTable.upsert {} {
      id := 1, name := "one", provider := .openai, baseUrl := none, key := "k"
      models := "gpt-4o-mini", testModel := none, modelMapping := none, group := "default"
      status := .enabled, responseTimeMs := 0, autoBan := true, testTime := none } }
    world := ⟨(), {}, {}, ⟨0, 0⟩⟩ }

def answering (octets : Bytes) : Surroundings Unit :=
  ⟨fun _ => pure (.response ⟨200, none, ⟨octets, false⟩⟩), fun _ => 0, 0⟩

def chatRequest (stream : Bool) : ClientRequest where
  method := "POST"
  target := ⟨"/v1/chat/completions", ""⟩
  headers := [Headers.field Headers.contentTypeName "application/json"]
  body := Json.bytes (.record [
    .of "model" (.str "gpt-4o-mini"), .of "stream" (.bool stream),
    .of "messages" (.arr [.record [.of "role" (.str "user"), .of "content" (.str "hi")]])])

theorem charged_once_chat :
    let g := ofOneModel
    let octets := Json.bytes (.record [.of "usage" (.record [
      .of "prompt_tokens" (.num (.int 3)), .of "completion_tokens" (.num (.int 1))])])
    let env := answering octets
    let request := chatRequest false
    ∃ o response after, g.order? env request = some o ∧
      (g.roundTrip env o).outcome = .ok ⟨3, 1, 4, none, none⟩ ∧
      serve env request g = (some response, after) ∧ Charged env request g response after ∧
      ∃ entry, after.ledger.entries = [entry] := by
  intro g octets env request
  obtain ⟨o, ho, hsent⟩ := (Option.any_eq_true (fun o : Order => decide (
      (o.answered g.settings env.network g.monitor.world).2 = .ok ⟨200, none, ⟨octets, false⟩⟩ ∧
      (o.answered g.settings env.network g.monitor.world).1.wire = .openai ∧
      (o.answered g.settings env.network g.monitor.world).1.mode = .chat ∧
      (o.answered g.settings env.network g.monitor.world).1.isStream = false ∧
      (g.roundTrip env o).outcome = .ok ⟨3, 1, 4, none, none⟩)) (g.order? env request)).mp
    (by decide +kernel)
  obtain ⟨hanswer, hwire, hmode, hstream, houtcome⟩ := of_decide_eq_true hsent
  have hcounts : ∀ response ∈ Json.read? octets, Usage.reportedSum response < UInt32.size ∧
      Usage.ofResponse? response ≠ .ok none := by
    decide +kernel
  have hfits : ∀ o', g.order? env request = some o' →
      o'.Fits g.settings env.network g.monitor.world := by
    intro o' ho' r hr _
    obtain rfl := Option.some.inj (ho.symm.trans ho')
    obtain rfl := Except.ok.inj (hanswer.symm.trans hr)
    simp only [Wire.Fits, hwire, Wire.Compatible.Fits, hmode, hstream]
    intro octets' response hwhole hread
    obtain rfl := Option.some.inj hwhole
    obtain ⟨hsum, hreported⟩ := hcounts response hread
    exact ⟨hsum, fun h => absurd h hreported⟩
  obtain ⟨response, after, hserve, hcharged⟩ :=
    (@charged_once _ env g rfl).1 request (by decide +kernel) hfits
  obtain ⟨_, _, _, -, -, -, hentry, -⟩ := hcharged.ordered o ho
  obtain ⟨entry, hentries, -⟩ := hentry _ houtcome
  exact ⟨o, response, after, ho, houtcome, hserve, hcharged, entry, hentries⟩

/-- A stream that begins with a byte order mark has a head, and is not charged. -/
theorem head_without_charge :
    let g := ofOneModel
    let octets := [0xEF, 0xBB, 0xBF] ++ Utf8.encode "data: [DONE]\n\n"
    let env := answering octets
    let request := chatRequest true
    ∃ o, g.order? env request = some o ∧ o.Fits g.settings env.network g.monitor.world ∧
      (g.roundTrip env o).head? = some (200, "text/event-stream") ∧
      ∃ response after, serve env request g = (some response, after) ∧ response.status = 200 ∧
        after.ledger = g.ledger := by
  intro g octets env request
  obtain ⟨o, ho, hsent⟩ := (Option.any_eq_true (fun o : Order => decide (
      (o.answered g.settings env.network g.monitor.world).2 = .ok ⟨200, none, ⟨octets, false⟩⟩ ∧
      (o.answered g.settings env.network g.monitor.world).1.wire = .openai ∧
      (o.answered g.settings env.network g.monitor.world).1.mode = .chat ∧
      (o.answered g.settings env.network g.monitor.world).1.isStream = true))
      (g.order? env request)).mp (by decide +kernel)
  obtain ⟨hanswer, hwire, hmode, hstream⟩ := of_decide_eq_true hsent
  have hmarked : Body.IsMarked ⟨octets, false⟩ :=
    show (Utf8.decodePrefix octets).head? = some Sse.byteOrderMark by decide +kernel
  have hmark : o.Marked g.settings env.network g.monitor.world :=
    ⟨_, hanswer, rfl, by simp [Wire.isStreamed, hwire, Wire.Compatible.isStreamed, hmode, hstream],
      hmarked⟩
  have hfits : o.Fits g.settings env.network g.monitor.world := by
    intro r hr _
    obtain rfl := Except.ok.inj (hanswer.symm.trans hr)
    simp only [Wire.Fits, hwire, Wire.Compatible.Fits, hmode, hstream]
    intro events hread
    cases (Body.read_of_isMarked hmarked).symm.trans hread
  obtain ⟨hwrites, houtcome⟩ := Order.relayed_of_marked hmark
  have hhead : (g.roundTrip env o).head? = some (200, "text/event-stream") := by
    rw [Relayed.head?, roundTrip, hwrites]
    rfl
  obtain ⟨response, after, hserve, hcharged⟩ := @charged_of_serve _ env request g
    (by decide +kernel) rfl fun o' ho' => Option.some.inj (ho.symm.trans ho') ▸ hfits
  refine ⟨o, ho, hfits, hhead, response, after, hserve, ?_, ?_⟩
  · obtain ⟨rfl, hanswers⟩ := hcharged.answered o ho
    exact (status_deliver request _).trans (hanswers.headed _ _ hhead).1
  · obtain ⟨_, _, _, -, -, -, -, hnone⟩ := hcharged.ordered o ho
    refine hnone fun usage husage => ?_
    cases houtcome.symm.trans husage

end Gateway

end ModelGateway
