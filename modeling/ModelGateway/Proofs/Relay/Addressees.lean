import ModelGateway.Proofs.Json.Rewriting
import ModelGateway.Proofs.Relay.Settlement
import Mathlib.Data.List.DropRight

/-!
# Where the requests of a call go

All requests of a call, to a model or about a cached prompt, go below one address with one key, and
name the model by the provider's name.  Only a native body is the client's own.
-/

namespace ModelGateway

namespace Text

theorem dropEnd_dropEnd (p : Char → Bool) (cs : List Char) :
    dropEnd p (dropEnd p cs) = dropEnd p cs := by
  simp [dropEnd, List.dropWhile_idempotent]

theorem trimEndSlashes_trimEndSlashes (s : String) :
    trimEndSlashes (trimEndSlashes s) = trimEndSlashes s := by
  simp [trimEndSlashes, dropEnd_dropEnd]

end Text

theorem Channel.trimEndSlashes_resolvedBaseUrl (c : Channel) :
    Text.trimEndSlashes c.resolvedBaseUrl = c.resolvedBaseUrl := by
  unfold resolvedBaseUrl
  split
  · exact Text.trimEndSlashes_trimEndSlashes _
  · cases c.provider <;> decide +kernel

/-! ## Wires -/

namespace Wire

def credential (wire : Wire) (key : String) : String × String :=
  match wire with
  | .openai | .zhipu => ("authorization", "Bearer " ++ key)
  | .gemini => (Gemini.keyHeader, key)

def Gemini.addressed (s : GeminiSettings) (name : String) : String :=
  if s.thinkingAdapterEnabled then (ModelName.parseThinking name).1 else name

def named (s : GeminiSettings) (wire : Wire) (name : String) : String :=
  match wire with
  | .openai | .zhipu => name
  | .gemini => "models/" ++ Gemini.addressed s name

/-- The body names no other model than the given one. -/
def NamesIn (s : GeminiSettings) (wire : Wire) (name : String) (body : Json) : Prop :=
  ∀ named, body.get? "model" = some named → named = .str (wire.named s name)

/-- What may stand behind a base address. -/
inductive Leads (s : GeminiSettings) (name : String) : Wire → Method → String → Prop
  | openai {mode : RelayMode} {path : String} (hpath : Compatible.modePath mode = .ok path) :
      Leads s name .openai .post ("v1/" ++ path)
  | zhipu {mode : RelayMode} {path : String} (hpath : Compatible.modePath mode = .ok path) :
      Leads s name .zhipu .post ("api/paas/v4/" ++ path)
  | gemini (e : Gemini.Endpoint) :
      Leads s name .gemini .post (s.versionFor (Gemini.addressed s name) ++ "/models/" ++
        Gemini.addressed s name ++ ":" ++ e.action)
  | keeping : Leads s name .gemini .post "v1beta/cachedContents"
  | kept (handle : String) : Leads s name .gemini .get ("v1beta/" ++ handle)

end Wire

/-- A request goes below an address, with a key, and names the given model unless its body is
native. -/
structure HttpRequest.GoesTo (s : GeminiSettings) (wire : Wire) (base key name : String)
    (request : Request) (sent : HttpRequest) : Prop where
  address : ∃ path, sent.url = base ++ "/" ++ path ∧ wire.Leads s name sent.method path
  credential : sent.headers = [wire.credential key] ∨
    sent.headers = [jsonHeader, wire.credential key]
  body : ∀ body, sent.body = some body → request = .native body ∨ wire.NamesIn s name body

namespace Wire

variable {s : GeminiSettings} {call call' : Call} {request : Request} {body : Json}
  {header : String × String}

theorem authorization_eq_ok (h : authorization call = .ok header) :
    header = call.wire.credential call.apiKey := by
  unfold authorization at h
  cases hwire : call.wire with
  | openai | zhipu =>
      simp only [hwire, Compatible.authorization] at h
      split at h
      · exact (Except.ok.inj h).symm
      · cases h
  | gemini =>
      simp only [hwire, Gemini.authorization] at h
      split at h
      · exact (Except.ok.inj h).symm
      · cases h

theorem Compatible.url_eq_ok {root below url : String} (hroot : root = "/" ++ below)
    (h : Compatible.url root call = .ok url) :
    ∃ path, modePath call.mode = .ok path ∧
      url = Text.trimEndSlashes call.baseUrl ++ "/" ++ (below ++ path) := by
  unfold Compatible.url at h
  cases hpath : modePath call.mode with
  | error f => simp [hpath, Except.map] at h
  | ok path =>
      obtain rfl : _ = url := by simpa [hpath, Except.map] using h
      exact ⟨path, rfl, by simp only [hroot, String.append_assoc]⟩

theorem leads_url {url : String} (h : Wire.url s call = .ok url) :
    ∃ path, url = Text.trimEndSlashes call.baseUrl ++ "/" ++ path ∧
      call.wire.Leads s call.providerModel .post path := by
  unfold Wire.url at h
  cases hwire : call.wire with
  | openai =>
      have hroot : Compatible.openaiRoot = "/" ++ "v1/" := by decide
      have hurl : Compatible.url Compatible.openaiRoot call = .ok url := by simpa [hwire] using h
      obtain ⟨path, hpath, rfl⟩ := Compatible.url_eq_ok hroot hurl
      exact ⟨"v1/" ++ path, rfl, .openai hpath⟩
  | zhipu =>
      have hroot : Zhipu.root = "/" ++ "api/paas/v4/" := by decide
      have hurl : Compatible.url Zhipu.root call = .ok url := by simpa [hwire] using h
      obtain ⟨path, hpath, rfl⟩ := Compatible.url_eq_ok hroot hurl
      exact ⟨"api/paas/v4/" ++ path, rfl, .zhipu hpath⟩
  | gemini =>
      obtain rfl : Gemini.url s call = url := by simpa [hwire] using h
      refine ⟨_, ?_, .gemini (Gemini.Endpoint.of (Gemini.addressedModel s call) call)⟩
      simp only [Gemini.url, Gemini.addressed, Gemini.addressedModel, String.append_assoc]

/-! ## Names in bodies -/

theorem Compatible.get?_model_of_convert (h : Compatible.convert call request = .ok (body, call')) :
    body.get? "model" = some (.str call.providerModel) := by
  cases request with
  | embedding r =>
      simp only [Compatible.convert] at h
      split at h
      · cases h
      · obtain ⟨rfl, -⟩ := Prod.mk.inj (Except.ok.inj h)
        exact (Json.lookup_insertMember "model").trans (if_pos rfl)
  | native sent => cases h
  | chat r | image r | rerank r | speech r =>
      obtain ⟨rfl, -⟩ := Prod.mk.inj (Except.ok.inj h)
      exact (Json.lookup_insertMember "model").trans (if_pos rfl)

theorem Gemini.ChatBody.get?_sorted (b : ChatBody) (key : String) :
    b.json.sorted.get? key = (b.json.get? key).map Json.sorted := by
  obtain ⟨fields, hjson, hnamed⟩ : ∃ fields, b.json = .record fields ∧
      List.Forall₂ Json.Field.Named fields ["contents", "systemInstruction", "safetySettings",
        "generationConfig", "tools", "toolConfig", "cachedContent"] :=
    ⟨_, rfl, .cons (.of _ _) <| .cons (.ifSome _ _ _) <| .cons (.ite _ (.absent _) (.of _ _)) <|
      .cons (.ifSome _ _ _) <| .cons (.ifSome _ _ _) <| .cons (.ifSome _ _ _) <|
      .cons (.ifSome _ _ _) .nil⟩
  rw [hjson]
  exact Json.Field.Named.get?_sorted hnamed (by decide) key

theorem Gemini.ChatBody.get?_model (b : ChatBody) : b.json.sorted.get? "model" = none := by
  have hnone : b.json.get? "model" = none := by
    unfold ChatBody.json
    split <;> simp
  rw [b.get?_sorted, hnone]
  rfl

theorem Gemini.EmbeddingBody.get?_sorted (b : EmbeddingBody) (key : String) :
    b.json.sorted.get? key = (b.json.get? key).map Json.sorted := by
  obtain ⟨fields, hjson, hnamed⟩ : ∃ fields, b.json = .record fields ∧
      List.Forall₂ Json.Field.Named fields ["model", "content", "outputDimensionality"] :=
    ⟨_, rfl, .cons (.of _ _) <| .cons (.of _ _) <| .cons (.ifSome _ _ _) .nil⟩
  rw [hjson]
  exact Json.Field.Named.get?_sorted hnamed (by decide) key

theorem Gemini.EmbeddingBody.get?_model (b : EmbeddingBody) :
    b.json.sorted.get? "model" = some (.str b.model) := by
  have hsome : b.json.get? "model" = some (.str b.model) := by simp [EmbeddingBody.json]
  rw [b.get?_sorted, hsome]
  rfl

theorem Gemini.ImageBody.get?_model (b : ImageBody) : b.json.sorted.get? "model" = none := by
  rfl

theorem Gemini.model_of_embeddingBody {r : EmbeddingRequest} {model : String} {b : EmbeddingBody}
    (h : embeddingBody r model = .ok b) : b.model = "models/" ++ model := by
  unfold embeddingBody at h
  split at h
  · cases h
  split at h
  · cases h
  split at h
  · cases h
  · exact (Except.ok.inj h) ▸ rfl

theorem Gemini.namesIn_of_convert (h : Gemini.convert s call request = .ok (body, call')) :
    request = .native body ∨ Wire.gemini.NamesIn s call.providerModel body := by
  cases request with
  | chat r =>
      cases hb : chatBody r call.providerModel s with
      | error f => simp [convert, hb, Except.map] at h
      | ok b =>
          simp only [convert, hb, Except.map, Except.ok.injEq, Prod.mk.injEq] at h
          obtain ⟨rfl, -⟩ := h
          refine .inr fun named hnamed => ?_
          rw [b.get?_model] at hnamed
          cases hnamed
  | embedding r =>
      cases hb : embeddingBody r (addressedModel s call) with
      | error f => simp [convert, hb, Except.map] at h
      | ok b =>
          simp only [convert, hb, Except.map, Except.ok.injEq, Prod.mk.injEq] at h
          obtain ⟨rfl, -⟩ := h
          refine .inr fun named hnamed => ?_
          rw [b.get?_model, model_of_embeddingBody hb] at hnamed
          exact (Option.some.inj hnamed).symm
  | image r =>
      cases hb : imageBody r (addressedModel s call) with
      | error f => simp [convert, hb, Except.map] at h
      | ok b =>
          simp only [convert, hb, Except.map, Except.ok.injEq, Prod.mk.injEq] at h
          obtain ⟨rfl, -⟩ := h
          refine .inr fun named hnamed => ?_
          rw [b.get?_model] at hnamed
          cases hnamed
  | native sent =>
      cases hb : ChatBody.decoder .json sent.document with
      | error e => simp [convert, hb] at h
      | ok b =>
          simp only [convert, hb, Except.ok.injEq, Prod.mk.injEq] at h
          obtain ⟨rfl, -⟩ := h
          exact .inl rfl
  | rerank r => simp [convert] at h
  | speech r => simp [convert] at h

theorem namesIn_of_convert (h : convert s call request = .ok (body, call')) :
    request = .native body ∨ call.wire.NamesIn s call.providerModel body := by
  unfold convert at h
  cases hwire : call.wire with
  | openai =>
      refine .inr fun named hnamed => ?_
      rw [Compatible.get?_model_of_convert (by simpa [hwire] using h)] at hnamed
      exact (Option.some.inj hnamed).symm
  | zhipu =>
      refine .inr fun named hnamed => ?_
      rw [hwire] at h
      rw [Compatible.get?_model_of_convert ((Zhipu.convert_eq call request).symm.trans h)] at hnamed
      exact (Option.some.inj hnamed).symm
  | gemini => exact Gemini.namesIn_of_convert (by simpa [hwire] using h)

end Wire

/-! ## Requests -/

namespace Relay

variable {σ : Type} {services : Services σ} {call : Call} {request : Request} {sent : HttpRequest}

theorem body_of_prepare (services : Services σ) (call : Call) (body : Json) (w : σ) :
    (prepare services call body w).1.1 = body ∨
      ∃ b : Wire.Gemini.ChatBody, (prepare services call body w).1.1 = b.json.sorted := by
  unfold prepare
  cases call.wire with
  | openai | zhipu => exact .inl rfl
  | gemini =>
      cases services.cache with
      | none => exact .inl rfl
      | some cache =>
          obtain ⟨settings, store⟩ := cache
          rcases Wire.Gemini.prepare_cases services.gemini settings store services.network call body
            w with hkept | ⟨-, b, outcome, -, -, -, hsplit⟩
          · exact .inl (congrArg Prod.fst hkept)
          · exact .inr ⟨_, congrArg Prod.fst hsplit⟩

theorem namesIn_of_prepare {call' : Call} {wire : Wire} {name : String} {body : Json}
    (h : request = .native body ∨ wire.NamesIn services.gemini name body) (w : σ) :
    request = .native (prepare services call' body w).1.1 ∨
      wire.NamesIn services.gemini name (prepare services call' body w).1.1 := by
  rcases body_of_prepare services call' body w with hkept | ⟨b, hsplit⟩
  · rwa [hkept]
  · rw [hsplit]
    refine .inr fun named hnamed => ?_
    rw [b.get?_model] at hnamed
    cases hnamed

theorem goesTo_of_recounts {g : GeminiSettings} {call' : Call} (h : call.Recounts call')
    (hsent : sent.GoesTo g call'.wire (Text.trimEndSlashes call'.baseUrl) call'.apiKey
      call'.providerModel request) :
    sent.GoesTo g call.wire (Text.trimEndSlashes call.baseUrl) call.apiKey call.providerModel
      request := by
  obtain ⟨_, _, rfl⟩ := h
  exact hsent

theorem goesTo_of_httpRequest {g : GeminiSettings} {body : Json}
    (h : httpRequest g call body = .ok sent)
    (hbody : request = .native body ∨ call.wire.NamesIn g call.providerModel body) :
    sent.GoesTo g call.wire (Text.trimEndSlashes call.baseUrl) call.apiKey call.providerModel
      request := by
  obtain ⟨url, hurl, h⟩ := eq_ok_of_bind h
  obtain ⟨header, hheader, h⟩ := eq_ok_of_bind h
  obtain rfl := Except.ok.inj h
  obtain rfl := Wire.authorization_eq_ok hheader
  exact ⟨Wire.leads_url hurl, .inr rfl, fun _ hsent => Option.some.inj hsent ▸ hbody⟩

theorem goesTo_of_keeps {g : GeminiSettings} {shared : Wire.Gemini.Shared}
    (hwire : call.wire = .gemini)
    (h : Wire.Gemini.Keeps call shared (Wire.Gemini.addressedModel g call) sent) :
    sent.GoesTo g call.wire (Text.trimEndSlashes call.baseUrl) call.apiKey call.providerModel
      request := by
  have hroot (rest : String) : Wire.Gemini.cacheRoot call ++ rest =
      Text.trimEndSlashes call.baseUrl ++ "/" ++ ("v1beta/" ++ rest) := by
    have hversion : Wire.Gemini.cacheVersion ++ "/" = "v1beta/" := by decide
    simp only [Wire.Gemini.cacheRoot, ← hversion, String.append_assoc]
  have hkey (header) (h : Wire.Gemini.authorization call = .ok header) :
      header = call.wire.credential call.apiKey :=
    Wire.authorization_eq_ok (by simpa [Wire.authorization, hwire] using h)
  cases h with
  | verification hheader handle =>
      obtain rfl := hkey _ hheader
      exact ⟨⟨_, hroot handle, hwire ▸ .kept handle⟩, .inl rfl, nofun⟩
  | keeping hheader ttlSecs displayName =>
      obtain rfl := hkey _ hheader
      refine ⟨⟨_, hroot _, hwire ▸ .keeping⟩, .inr rfl, fun body hbody => ?_⟩
      obtain rfl := Option.some.inj hbody
      refine .inr fun named hnamed => ?_
      rw [hwire]
      have hmodel : (shared.creation (Wire.Gemini.addressedModel g call) ttlSecs displayName).get?
          "model" = some (.str ("models/" ++ Wire.Gemini.addressedModel g call)) := by
        simp [Wire.Gemini.Shared.creation]
      exact Option.some.inj (hnamed.symm.trans hmodel)

/-- Whatever a call sends goes below its address, has its key and names its model. -/
theorem Sends.goesTo (h : Sends services call request sent) :
    sent.GoesTo services.gemini call.wire (Text.trimEndSlashes call.baseUrl) call.apiKey
      call.providerModel request := by
  cases h with
  | keeping hconvert hwire hkeeps =>
      exact goesTo_of_recounts (Wire.recounts_convert hconvert) (goesTo_of_keeps hwire hkeeps)
  | @relaying call' body sent w hconvert hsent =>
      have hrecounts :=
        (Wire.recounts_convert hconvert).trans (recounts_prepare services call' body w)
      refine goesTo_of_recounts hrecounts (goesTo_of_httpRequest hsent ?_)
      obtain ⟨_, _, hcall⟩ := hrecounts
      rw [hcall]
      exact namesIn_of_prepare (Wire.namesIn_of_convert hconvert) w

end Relay

end ModelGateway
