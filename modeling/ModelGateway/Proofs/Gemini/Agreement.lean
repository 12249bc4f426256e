import ModelGateway.Proofs.Text.Search
import ModelGateway.Wire.Gemini.Endpoint

/-!
# Requests, endpoints and handlers

The body of a call follows from its request; the endpoint and the handler follow from the name of
the model and the mode.  They agree exactly if the name is not one that selects another kind of
request.
-/

namespace ModelGateway

namespace Wire.Gemini

variable {s : GeminiSettings} {call call' : Call} {request : Request} {body : Json}

def Endpoint.all : List Endpoint := [.predict, .embed, .stream, .generate]

def Endpoint.named? (url : String) : Option Endpoint :=
  (Text.splitAtLast? [':'] url.toList).bind fun (_, action) =>
    Endpoint.all.find? (·.action.toList = action)

theorem Endpoint.find?_action (e : Endpoint) :
    Endpoint.all.find? (·.action.toList = e.action.toList) = some e := by
  cases e <;> decide

theorem Endpoint.colon_not_mem_action (e : Endpoint) : ':' ∉ e.action.toList := by
  cases e <;> decide

theorem named?_url (s : GeminiSettings) (call : Call) :
    Endpoint.named? (url s call) = some (Endpoint.of (addressedModel s call) call) := by
  have hsplit : ∀ before : String, ∀ e : Endpoint,
      Text.splitAtLast? [':'] (before ++ ":" ++ e.action).toList =
        some (before.toList, e.action.toList) := by
    intro before e
    rw [String.toList_append, String.toList_append, List.append_assoc]
    exact Text.splitAtLast?_of_not_mem _ e.colon_not_mem_action
  rw [Endpoint.named?, url, hsplit]
  exact Endpoint.find?_action _

def Endpoint.due? (call : Call) : Request → Option Endpoint
  | .chat _ | .native _ => some (if call.isStream then .stream else .generate)
  | .embedding _ => some .embed
  | .image _ => some .predict
  | .rerank _ | .speech _ => none

def handlerDue? (call : Call) : Request → Option (Body → StateM Stamp Handled)
  | .chat _ => some (if call.isStream then handleChatStream call else handleChat call)
  | .embedding _ => some fun body => pure (handleEmbedding call body)
  | .image _ => some handleImage
  | .native _ => some fun body =>
      pure (if call.isStream then handleNativeStream call body else handleNative call body)
  | .rerank _ | .speech _ => none

/-- The body for a request of its kind. -/
def HasShape : Request → Json → Prop
  | .chat _, body => ∃ b : ChatBody, body = b.json.sorted
  | .embedding _, body => ∃ b : EmbeddingBody, body = b.json.sorted
  | .image _, body => ∃ b : ImageBody, body = b.json.sorted
  | .native sent, body => body = sent ∧ ∃ b, ChatBody.decoder .json body.document = .ok b
  | .rerank _, _ | .speech _, _ => False

/-- Body, endpoint and handler of a call are those of its request. -/
structure Agrees (s : GeminiSettings) (call : Call) (request : Request) (body : Json) : Prop where
  shape : HasShape request body
  endpoint : ∃ e, Endpoint.named? (url s call) = some e ∧ Endpoint.due? call request = some e
  handler : handlerDue? call request = some (handle s call)

/-- The name of the model is not one that selects another kind of request. -/
def Suits (model : String) : Request → Prop
  | .chat _ | .native _ =>
    ModelName.isImagen model = false ∧ ModelName.isGeminiEmbedding model = false
  | .embedding _ => ModelName.isImagen model = false
  | .image _ | .rerank _ | .speech _ => True

/-! ## What becomes of a request -/

theorem eq_of_chatBody_eq_ok {r : ChatRequest} {model : String} {b : ChatBody}
    (h : chatBody r model s = .ok b) :
    b = {
      contents := turns [] r.messages
      systemInstruction := systemInstruction? r.messages
      safetySettings := safetySettings s
      generationConfig := some (generationConfig r model s)
      tools := tools? r
      toolConfig := if (tools? r).isSome then r.toolChoice.bind toolConfig? else none } := by
  unfold chatBody at h
  split at h
  · cases h
  · dsimp only at h
    split at h
    · cases h
    · exact (Except.ok.inj h).symm

theorem exists_chatBody_of_convert {r : ChatRequest} {sent : Json × Call}
    (h : convert s call (.chat r) = .ok sent) :
    ∃ b, chatBody r call.providerModel s = .ok b ∧ sent = (b.json.sorted, call) := by
  rw [convert] at h
  cases hb : chatBody r call.providerModel s with
  | error e =>
      rw [hb] at h
      cases h
  | ok b =>
      rw [hb] at h
      exact ⟨b, rfl, (Except.ok.inj h).symm⟩

theorem shape_of_convert (h : convert s call request = .ok (body, call')) :
    HasShape request body ∧ ∃ n, call' = { call with promptTokens := n } := by
  cases request with
  | chat r =>
      obtain ⟨b, -, hsent⟩ := exists_chatBody_of_convert h
      obtain ⟨rfl, rfl⟩ := Prod.mk.inj hsent
      exact ⟨⟨b, rfl⟩, _, rfl⟩
  | embedding r =>
      cases hb : embeddingBody r (addressedModel s call) with
      | error f => simp [convert, hb, Except.map] at h
      | ok b =>
          obtain ⟨rfl, rfl⟩ : b.json.sorted = body ∧ _ = call' := by
            simpa [convert, hb, Except.map] using h
          exact ⟨⟨b, rfl⟩, _, rfl⟩
  | image r =>
      cases hb : imageBody r (addressedModel s call) with
      | error f => simp [convert, hb, Except.map] at h
      | ok b =>
          obtain ⟨rfl, rfl⟩ : b.json.sorted = body ∧ call = call' := by
            simpa [convert, hb, Except.map] using h
          exact ⟨⟨b, rfl⟩, _, rfl⟩
  | native sent =>
      cases hb : ChatBody.decoder .json sent.document with
      | error e => simp [convert, hb] at h
      | ok b =>
          obtain ⟨rfl, rfl⟩ : sent = body ∧ _ = call' := by
            simpa [convert, hb] using h
          exact ⟨⟨rfl, b, hb⟩, _, rfl⟩
  | rerank r => simp [convert] at h
  | speech r => simp [convert] at h

theorem isImagen_of_convert {r : ImageRequest}
    (h : convert s call (.image r) = .ok (body, call')) :
    ModelName.isImagen (addressedModel s call) = true := by
  cases hname : ModelName.isImagen (addressedModel s call) with
  | true => rfl
  | false => simp [convert, imageBody, hname, Except.map] at h

theorem generating_iff (hmode : call.mode = .chat ∨ call.mode = .native) (model : String) :
    Endpoint.of model call = (if call.isStream then .stream else .generate) ↔
      ModelName.isImagen model = false ∧ ModelName.isGeminiEmbedding model = false := by
  have hother : (call.mode == .embeddings) = false := by
    rcases hmode with h | h <;> rw [h] <;> rfl
  unfold Endpoint.of
  rw [hother, Bool.or_false]
  cases ModelName.isImagen model <;> cases ModelName.isGeminiEmbedding model <;>
    cases call.isStream <;> simp

theorem endpoint_iff_suits (hmode : call.mode = request.mode)
    (h : convert s call request = .ok (body, call')) :
    Endpoint.due? call request = some (Endpoint.of (addressedModel s call) call) ↔
      Suits (addressedModel s call) request := by
  cases request with
  | chat r => rw [Endpoint.due?, Option.some_inj, eq_comm, generating_iff (.inl hmode), Suits]
  | embedding r =>
      have hmode : call.mode = .embeddings := hmode
      cases hname : ModelName.isImagen (addressedModel s call) <;>
        simp [Endpoint.due?, Endpoint.of, Suits, hname, hmode]
  | image r => simp [Endpoint.due?, Endpoint.of, Suits, isImagen_of_convert h]
  | native sent => rw [Endpoint.due?, Option.some_inj, eq_comm, generating_iff (.inr hmode), Suits]
  | rerank r => simp [convert] at h
  | speech r => simp [convert] at h

theorem handle_of_ne_native (hmode : call.mode ≠ .native) (answer : Body) :
    handle s call answer = match Endpoint.of (addressedModel s call) call with
      | .predict => handleImage answer
      | .embed => pure (handleEmbedding call answer)
      | .stream => handleChatStream call answer
      | .generate => handleChat call answer := if_neg hmode

theorem handler_of_endpoint (hmode : call.mode = request.mode)
    (hdue : Endpoint.due? call request = some (Endpoint.of (addressedModel s call) call)) :
    handlerDue? call request = some (handle s call) := by
  cases request with
  | chat r =>
      refine congrArg some (funext fun answer => ?_)
      rw [handle_of_ne_native (fun h => nomatch hmode.symm.trans h), ← Option.some.inj hdue]
      cases call.isStream <;> rfl
  | embedding r =>
      refine congrArg some (funext fun answer => ?_)
      rw [handle_of_ne_native (fun h => nomatch hmode.symm.trans h), ← Option.some.inj hdue]
  | image r =>
      refine congrArg some (funext fun answer => ?_)
      rw [handle_of_ne_native (fun h => nomatch hmode.symm.trans h), ← Option.some.inj hdue]
  | native sent => exact congrArg some (funext fun answer => (if_pos hmode).symm)
  | rerank r => cases hdue
  | speech r => cases hdue

/-- Body, endpoint and handler agree exactly if the name of the model suits the request. -/
theorem agrees_iff_suits (hmode : call.mode = request.mode)
    (h : convert s call request = .ok (body, call')) :
    Agrees s call' request body ↔ Suits (addressedModel s call) request := by
  obtain ⟨hshape, n, rfl⟩ := shape_of_convert h
  rw [← endpoint_iff_suits hmode h]
  constructor
  · -- The address names only one endpoint, so it is the one that is due.
    intro hagrees
    obtain ⟨e, hnamed, hdue⟩ := hagrees.endpoint
    obtain rfl := Option.some.inj ((named?_url _ _).symm.trans hnamed)
    exact hdue
  · intro hdue
    exact ⟨hshape, ⟨_, named?_url _ _, hdue⟩, handler_of_endpoint hmode hdue⟩

/-- A chat with something to say is converted whatever the model is called. -/
theorem exists_convert_chat (s : GeminiSettings) (call : Call) (r : ChatRequest)
    (h : turns [] r.messages ≠ []) : ∃ body, convert s call (.chat r) = .ok (body, call) := by
  have hmessages : r.messages ≠ [] := by
    rintro hnil
    exact h (by rw [hnil, turns])
  have hbody : ∃ b, chatBody r call.providerModel s = .ok b := by
    rw [chatBody, if_neg (by simpa using hmessages), if_neg (by simpa using h)]
    exact ⟨_, rfl⟩
  obtain ⟨b, hb⟩ := hbody
  exact ⟨b.json.sorted, by rw [convert, hb]; rfl⟩

theorem agrees_iff_suits_streamed :
    let call : Call := {
      channelId := 1, provider := .gemini, wire := .gemini, requestedModel := "gemini-2.5-flash"
      providerModel := "gemini-2.5-flash", isStream := true, mode := .chat, baseUrl := ""
      apiKey := "k", group := "default", promptTokens := 2, includeUsage := false
      cacheWriteTokens := 0, timeoutMs := 5000 }
    let chat : ChatRequest :=
      { model := "gemini-2.5-flash", messages := [.ofText "user" "hi there"] }
    ∃ body, convert {} call (.chat chat) = .ok (body, call) ∧
      Agrees {} call (.chat chat) body := by
  intro call chat
  obtain ⟨body, h⟩ := exists_convert_chat {} call chat (by decide +kernel)
  have hsuits : Suits (addressedModel {} call) (.chat chat) :=
    ⟨by decide +kernel, by decide +kernel⟩
  exact ⟨body, h, (agrees_iff_suits rfl h).mpr hsuits⟩

theorem chat_sent_to_predict :
    let call : Call := {
      channelId := 1, provider := .gemini, wire := .gemini, requestedModel := "imagen-3"
      providerModel := "imagen-3", isStream := false, mode := .chat, baseUrl := ""
      apiKey := "k", group := "default", promptTokens := 2, includeUsage := false
      cacheWriteTokens := 0, timeoutMs := 5000 }
    let chat : ChatRequest := { model := "imagen-3", messages := [.ofText "user" "hi there"] }
    ∃ body, convert {} call (.chat chat) = .ok (body, call) ∧
      Endpoint.named? (url {} call) = some .predict ∧ ¬ Agrees {} call (.chat chat) body := by
  intro call chat
  obtain ⟨body, h⟩ := exists_convert_chat {} call chat (by decide +kernel)
  have hnamed : Endpoint.named? (url {} call) = some .predict := by
    rw [named?_url]
    exact congrArg some (if_pos (by decide +kernel))
  refine ⟨body, h, hnamed, fun hagrees => ?_⟩
  obtain ⟨e, he, hdue⟩ := hagrees.endpoint
  obtain rfl := Option.some.inj (hnamed.symm.trans he)
  cases hdue

end Wire.Gemini

end ModelGateway
