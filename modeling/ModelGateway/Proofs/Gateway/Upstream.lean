import ModelGateway.Proofs.Gateway.Choices
import ModelGateway.Proofs.Relay.Addressees

/-!
# What is sent for a client

A network can keep a list of what is sent to it, which changes nothing else.  All that is sent for
one request of a client goes to one channel on offer, with one key of that channel, and names the
model that the channel's aliases lead to.
-/

namespace ModelGateway

variable {σ : Type}

/-- The network, with a list of what is sent to it. -/
def Network.recording (network : Network σ) : Network (σ × List HttpRequest) :=
  fun request (providers, sent) =>
    let (result, providers) := network request providers
    (result, providers, sent ++ [request])

namespace RelayState

def recorded (w : RelayState σ) (sent : List HttpRequest) :
    RelayState (σ × List HttpRequest) where
  providers := (w.providers, sent)
  memory := w.memory
  ledger := w.ledger
  stamp := w.stamp

def Records (P : HttpRequest → Prop) (w' : RelayState (σ × List HttpRequest))
    (w : RelayState σ) : Prop :=
  ∃ sent, w' = w.recorded sent ∧ ∀ request ∈ sent, P request

variable {P : HttpRequest → Prop}

theorem services_recording (settings : Settings) (network : Network σ) :
    (services settings network.recording).Alike (Records P) P (services settings network) := by
  refine services_alike settings ⟨?_, ?_⟩ ?_
  · rintro key _ w ⟨sent, rfl, hsent⟩
    exact ⟨rfl, sent, rfl, hsent⟩
  · rintro key value ttlSecs _ w ⟨sent, rfl, hsent⟩
    exact ⟨rfl, sent, rfl, hsent⟩
  · rintro request hrequest _ w ⟨sent, rfl, hsent⟩
    refine ⟨rfl, sent ++ [request], rfl, fun r hr => ?_⟩
    rcases List.mem_append.mp hr with hr | hr
    · exact hsent r hr
    · exact List.mem_singleton.mp hr ▸ hrequest

theorem sharesStamp_records : SharesStamp (Records (σ := σ) P) := by
  rintro _ w ⟨sent, rfl, hsent⟩
  exact ⟨rfl, fun _ => ⟨sent, rfl, hsent⟩⟩

end RelayState

theorem Order.run_recorded (o : Order) (settings : Settings) (network : Network σ)
    (w : RelayState σ) {P : HttpRequest → Prop}
    (h : ∀ sent, Relay.Sends (RelayState.services settings network) o.call o.request sent →
      P sent) :
    ∃ sent, o.run settings network.recording (w.recorded []) =
        ((o.run settings network w).1, (o.run settings network w).2.recorded sent) ∧
      ∀ request ∈ sent, P request := by
  obtain ⟨hrelayed, sent, hafter, hsent⟩ :=
    RelayState.alike_relay RelayState.sharesStamp_records
      (RelayState.services_recording settings network) o.call o.request h (w.recorded []) w
      ⟨[], rfl, nofun⟩
  refine ⟨sent, ?_, hsent⟩
  have hrelay : RelayState.relay settings network.recording o.call o.request (w.recorded []) =
      ((RelayState.relay settings network o.call o.request w).1,
        (RelayState.relay settings network o.call o.request w).2.recorded sent) :=
    Prod.ext hrelayed hafter
  rw [Order.run_eq, Order.run_eq, hrelay]
  rfl

def Surroundings.recording (env : Surroundings σ) : Surroundings (σ × List HttpRequest) where
  network := env.network.recording
  dice := env.dice
  testNanos := env.testNanos

/-! ## Calls of clients -/

theorem Call.prepare_eq_ok {channel : Channel} {key model : String} {mode : RelayMode}
    {timeoutMs : Nat} {call : Call} (h : Call.prepare channel key model mode timeoutMs = .ok call) :
    channel.provider.wire? = some call.wire ∧ call.baseUrl = channel.resolvedBaseUrl ∧
      call.apiKey = key ∧
      ∃ aliases, channel.aliases? = some aliases ∧
        Alias.resolve aliases model = .ok call.providerModel := by
  unfold prepare start at h
  cases hwire : channel.provider.wire? with
  | none => simp [hwire] at h
  | some wire =>
      simp only [hwire, withAliases_eq] at h
      cases haliases : channel.aliases? with
      | none => simp [haliases] at h
      | some table =>
          simp only [haliases] at h
          split at h
          · next name hname =>
            obtain rfl := Except.ok.inj h
            exact ⟨rfl, rfl, rfl, table, rfl, hname⟩
          · cases h

theorem ClientCall.complete_eq (c : ClientCall) (call : Call) :
    ∃ isStream includeUsage promptTokens,
      c.complete call = { call with isStream, includeUsage, promptTokens } := by
  unfold complete
  cases c.request <;> exact ⟨_, _, _, rfl⟩

namespace Gateway

def recorded (g : Gateway σ) (sent : List HttpRequest) : Gateway (σ × List HttpRequest) where
  settings := g.settings
  monitor := { g.monitor with world := g.monitor.world.recorded sent }
  rotation := g.rotation

/-- All that is sent for a call goes to one channel on offer, with one of its keys, and names the
model that its aliases lead to. -/
def SendsToOne (g : Gateway σ) (c : ClientCall) (sent : List HttpRequest) : Prop :=
  ∃ channel key wire aliases name,
    g.Offers channel c.model c.request.mode ∧ key ∈ channel.keys ∧
    channel.provider.wire? = some wire ∧
    channel.aliases? = some aliases ∧ Alias.resolve aliases c.model = .ok name ∧
    ∀ request ∈ sent,
      request.GoesTo g.settings.gemini wire channel.resolvedBaseUrl key name c.request

variable {env : Surroundings σ} {tokenName : String} {c : ClientCall} {g : Gateway σ} {o : Order}
  {rotation : Rotation}

theorem request_of_order {s : Settings} {call : Call} (h : order s c tokenName call = .ok o) :
    o.request = c.request := by
  unfold order at h
  split at h
  · cases h
  · exact (Except.ok.inj h) ▸ rfl

theorem sendsToOne_of_order (h : (orderFor env tokenName c g).1 = .ok o) {sent : List HttpRequest}
    (hsent : ∀ request ∈ sent, Relay.Sends (RelayState.services g.settings env.network) o.call
      o.request request) : g.SendsToOne c sent := by
  obtain ⟨call, hroute, hordered⟩ := eq_ok_of_bind h
  obtain ⟨channels, channel, key, hlisted, hselect, hprepare⟩ := route_eq_ok hroute
  have hselects : g.Selects env c channel key := ⟨channels, hlisted, hselect⟩
  obtain ⟨hoffers, hkey⟩ := hselects.offers
  obtain ⟨hwire, hbase, hapiKey, aliases, haliases, hname⟩ := Call.prepare_eq_ok hprepare
  refine ⟨channel, key, call.wire, aliases, call.providerModel, hoffers, hkey, hwire, haliases,
    hname, fun request hrequest => ?_⟩
  have hgoes := (hsent request hrequest).goesTo
  obtain ⟨_, _, _, hcomplete⟩ := c.complete_eq call
  rw [request_of_order hordered, (order_eq_ok hordered).2, hcomplete] at hgoes
  dsimp only at hgoes
  rwa [hbase, channel.trimEndSlashes_resolvedBaseUrl, hapiKey] at hgoes

/-- A call is served alike with a list of what is sent, and all of that goes to one channel. -/
theorem serveCall_recorded (env : Surroundings σ) (tokenName : String) (c : ClientCall)
    (g : Gateway σ) :
    ∃ sent, serveCall env.recording tokenName c (g.recorded []) =
        ((serveCall env tokenName c g).1, (serveCall env tokenName c g).2.recorded sent) ∧
      (sent ≠ [] → g.SendsToOne c sent) := by
  rcases horder : orderFor env tokenName c g with ⟨e | o, rotation⟩
  · have hrecorded : orderFor env.recording tokenName c (g.recorded []) = (.error e, rotation) :=
      horder
    rw [serveCall_of_error horder, serveCall_of_error hrecorded]
    exact ⟨[], rfl, fun hne => absurd rfl hne⟩
  · have hrecorded : orderFor env.recording tokenName c (g.recorded []) = (.ok o, rotation) :=
      horder
    obtain ⟨sent, hrun, hsent⟩ :=
      o.run_recorded g.settings env.network g.monitor.world fun _ h => h
    refine ⟨sent, ?_, fun _ => sendsToOne_of_order (congrArg Prod.fst horder) hsent⟩
    have hrun : o.run (g.recorded []).settings env.recording.network (g.recorded []).monitor.world =
        ((o.run g.settings env.network g.monitor.world).1,
          (o.run g.settings env.network g.monitor.world).2.recorded sent) := hrun
    rw [serveCall_eq, serveCall_eq, horder, hrecorded]
    dsimp only
    rw [hrun]
    rfl

theorem isTest_of_call? {request : ClientRequest} (h : request.call? = some c) :
    request.isTest = false := by
  unfold ClientRequest.call? at h
  unfold ClientRequest.isTest
  split at h
  · cases h
  · split at h <;> simp_all

/-- All that is sent for a request of a client goes to one enabled channel with the model, has one
of its keys, and names the model that its aliases lead to.  Without such a channel the request is
refused and nothing is sent. -/
theorem sends_to_one_channel (env : Surroundings σ) (g : Gateway σ) {request : ClientRequest}
    {c : ClientCall} (hc : request.call? = some c) :
    ∃ response after sent,
      serve env request g = (some response, after) ∧
      serve env.recording request (g.recorded []) = (some response, after.recorded sent) ∧
      (sent ≠ [] → g.SendsToOne c sent) ∧
      ((∀ channel, ¬ g.Offers channel c.model c.request.mode) →
        sent = [] ∧ after = g ∧ ∃ e, response = deliver request (.ofError e)) := by
  have hstands {τ : Type} : Stands τ request (some c) :=
    hc ▸ stands_call? (isTest_of_call? hc)
  obtain ⟨sent, hserved, hone⟩ := serveCall_recorded env (tokenName request) c g
  refine ⟨_, _, sent, hstands env g, ?_, hone, fun hnone => ?_⟩
  · rw [hstands, hserved]
  · have hnil : g.offered c.model c.request.mode = [] :=
      List.eq_nil_iff_forall_not_mem.mpr fun channel hmem => hnone channel (mem_offered.mp hmem)
    obtain ⟨e, horder⟩ := orderFor_of_offered_nil env hnil (tokenName request)
    rw [serveCall_of_error horder]
    refine ⟨by_contra fun hne => ?_, rfl, e, rfl⟩
    obtain ⟨channel, _, _, _, _, hoffers, -⟩ := hone hne
    exact hnone channel hoffers

theorem sends_to_one_channel_chat :
    ∃ c response after sent, (chatRequest false).call? = some c ∧
      serve (answering []).recording (chatRequest false) (ofOneModel.recorded []) =
        (some response, Gateway.recorded after sent) ∧
      sent.length = 1 ∧ ofOneModel.SendsToOne c sent := by
  obtain ⟨c, hc⟩ := Option.isSome_iff_exists.mp
    (show (chatRequest false).call?.isSome = true by decide +kernel)
  obtain ⟨response, after, sent, -, hserve, hone, -⟩ :=
    sends_to_one_channel (answering []) ofOneModel hc
  have hlength : sent.length = 1 := by
    have hsent : (serve (answering []).recording (chatRequest false)
        (ofOneModel.recorded [])).2.monitor.world.providers.2.length = 1 := by decide +kernel
    rwa [hserve] at hsent
  exact ⟨c, response, after, sent, hc, hserve, hlength, hone (by rintro rfl; cases hlength)⟩

def geminiChannel : Channel where
  id := 1
  name := "one"
  provider := .gemini
  baseUrl := none
  key := "k"
  models := "gemini-2.5-flash"
  testModel := none
  modelMapping := none
  group := "default"
  status := .enabled
  responseTimeMs := 0
  autoBan := true
  testTime := none

def ofGemini : Gateway Unit where
  settings := {}
  monitor := {
    store := { table := ChannelTable.upsert {} geminiChannel }
    world := ⟨(), {}, {}, ⟨0, 0⟩⟩ }

def namingRequest : ClientRequest where
  method := "POST"
  target := ⟨"/v1beta/models/gemini-2.5-flash:generateContent", ""⟩
  headers := [Headers.field Headers.contentTypeName "application/json"]
  body := Json.bytes (.obj [
    ("contents", .arr [.obj [("parts", .arr [.obj [("text", .str "hi")]])]]),
    ("model", .str "models/other")])

theorem native_body_names_another :
    (∀ channel, ofGemini.Offers channel "gemini-2.5-flash" .native → channel = geminiChannel) ∧
    geminiChannel.aliases?.map (Alias.resolve · "gemini-2.5-flash") =
      some (.ok "gemini-2.5-flash") ∧
    ∃ c request, namingRequest.call? = some c ∧ c.model = "gemini-2.5-flash" ∧
      (serve (answering []).recording namingRequest
        (ofGemini.recorded [])).2.monitor.world.providers.2 = [request] ∧
      request.url = "https://generativelanguage.googleapis.com/v1beta/models/gemini-2.5-flash" ++
        ":generateContent" ∧
      request.body.bind (Json.get? "model") = some (.str "models/other") := by
  refine ⟨fun channel h => ?_, by decide +kernel, ?_⟩
  · have hmem := mem_offered.mpr h
    have honly : ofGemini.offered "gemini-2.5-flash" .native = [geminiChannel] := by decide +kernel
    exact List.mem_singleton.mp (honly ▸ hmem)
  · obtain ⟨c, hc, hmodel⟩ := (Option.any_eq_true (fun c : ClientCall =>
      decide (c.model = "gemini-2.5-flash")) namingRequest.call?).mp (by decide +kernel)
    have hsent : (serve (answering []).recording namingRequest
        (ofGemini.recorded [])).2.monitor.world.providers.2.map
          (fun request => (request.url, request.body.bind (Json.get? "model"))) =
        [("https://generativelanguage.googleapis.com/v1beta/models/gemini-2.5-flash" ++
          ":generateContent", some (.str "models/other"))] := by decide +kernel
    obtain ⟨request, hrequest, hnamed⟩ := List.map_eq_singleton_iff.mp hsent
    obtain ⟨hurl, hbody⟩ := Prod.mk.inj hnamed
    exact ⟨c, request, hc, of_decide_eq_true hmodel, hrequest, hurl, hbody⟩

end Gateway

end ModelGateway
