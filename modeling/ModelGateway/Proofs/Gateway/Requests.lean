import ModelGateway.Gateway.Serve

/-!
# Requests and calls

A request of a client that is not for a test either stands for one call, which is then routed,
ordered and relayed, or has an answer that does not depend on the gateway and leaves it as it is.
-/

namespace ModelGateway

namespace ClientRequest

def nativeCall? (target : String) (request : ClientRequest) : Option ClientCall :=
  (Url.pathText? target).bind fun text =>
    (RequestBody.decode Json.Decoder.json request).toOption.bind fun body =>
      (readAction text).toOption.map fun (model, isStream) => ⟨model, .native body, isStream⟩

def call? (request : ClientRequest) : Option ClientCall :=
  if CrossOrigin.isPreflight request || !RequestBody.isAcceptable request then none
  else
    match Endpoint.ofRequest request with
    | .ok .chat => (RequestBody.decode ChatRequest.decoder request).toOption.map .ofChat
    | .ok .embeddings =>
      (RequestBody.decode EmbeddingRequest.decoder request).toOption.map .ofEmbedding
    | .ok .images => (RequestBody.decode ImageRequest.decoder request).toOption.map .ofImage
    | .ok (.native target) => nativeCall? target request
    | .ok .testAll | .ok (.testOne _) | .error _ => none

def isTest (request : ClientRequest) : Bool :=
  match Endpoint.ofRequest request with
  | .ok .testAll | .ok (.testOne _) => true
  | _ => false

end ClientRequest

namespace Gateway

variable {σ : Type} {request : ClientRequest}

def Serves (request : ClientRequest) (c? : Option ClientCall)
    (f : Surroundings σ → StateM (Gateway σ) ClientResponse) : Prop :=
  match c? with
  | some c => ∀ env, f env = serveCall env (tokenName request) c
  | none => ∃ response, ∀ env, f env = pure response

section
variable {c? : Option ClientCall} {f : Surroundings σ → StateM (Gateway σ) ClientResponse}

theorem Serves.of_none (hc : c? = none) {response : ClientResponse}
    (hf : ∀ env, f env = pure response) : Serves request c? f := by
  subst hc
  exact ⟨response, hf⟩

theorem Serves.of_some {c : ClientCall} (hc : c? = some c)
    (hf : ∀ env, f env = serveCall env (tokenName request) c) : Serves request c? f := by
  subst hc
  exact hf

end

theorem serves_serveBody {α : Type} (decoder : Json.Decoder α) (call : α → ClientCall)
    (request : ClientRequest) :
    Serves request ((RequestBody.decode decoder request).toOption.map call)
      fun env : Surroundings σ => serveBody env decoder call request := by
  cases h : RequestBody.decode decoder request with
  | error r => exact .of_none rfl fun _ => by rw [serveBody, h]
  | ok body => exact .of_some rfl fun _ => by rw [serveBody, h]

theorem serves_serveNative (target : String) (request : ClientRequest) :
    Serves request (request.nativeCall? target)
      fun env : Surroundings σ => serveNative env target request := by
  unfold ClientRequest.nativeCall?
  cases htext : Url.pathText? target with
  | none => exact .of_none rfl fun _ => by rw [serveNative, htext]
  | some text =>
      cases hbody : RequestBody.decode Json.Decoder.json request with
      | error r => exact .of_none rfl fun _ => by rw [serveNative, htext, hbody]
      | ok body =>
          rcases haction : readAction text with e | ⟨model, isStream⟩
          · have hserved : ∀ env : Surroundings σ, serveNative env target request =
                pure (.ofError e) := fun _ => by simp only [serveNative, htext, hbody, haction]
            exact .of_none (by simp [haction, Except.toOption]) hserved
          · have hserved : ∀ env : Surroundings σ, serveNative env target request =
                serveCall env (tokenName request) ⟨model, .native body, isStream⟩ :=
              fun _ => by simp only [serveNative, htext, hbody, haction]
            exact .of_some (by simp [haction, Except.toOption]) hserved

theorem status_deliver (request : ClientRequest) (response : ClientResponse) :
    (deliver request response).status = response.status := by
  unfold deliver CrossOrigin.allow
  split <;> rfl

theorem serve_of_preflight (h : CrossOrigin.isPreflight request = true) (env : Surroundings σ)
    (g : Gateway σ) : serve env request g = (some (CrossOrigin.preflight request), g) := by
  unfold serve
  rw [if_pos h]
  rfl

theorem serve_of_dispatch (h : CrossOrigin.isPreflight request = false) (env : Surroundings σ)
    (g : Gateway σ) :
    serve env request g =
      ((dispatch env request g).1.map (deliver request), (dispatch env request g).2) := by
  unfold serve
  rw [if_neg (by simp [h])]
  rfl

def Stands (σ : Type) (request : ClientRequest) (c? : Option ClientCall) : Prop :=
  match c? with
  | some c => ∀ (env : Surroundings σ) (g : Gateway σ), serve env request g =
      (some (deliver request (serveCall env (tokenName request) c g).1),
        (serveCall env (tokenName request) c g).2)
  | none => ∃ response, ∀ (env : Surroundings σ) (g : Gateway σ),
      serve env request g = (some response, g)

theorem stands_of_serves {c? : Option ClientCall}
    {f : Surroundings σ → StateM (Gateway σ) ClientResponse}
    (hpre : CrossOrigin.isPreflight request = false)
    (hdispatch : ∀ env, dispatch env request = some <$> f env) (hf : Serves request c? f) :
    Stands σ request c? := by
  have hserve : ∀ env g, serve env request g =
      (some (deliver request (f env g).1), (f env g).2) := by
    intro env g
    rw [serve_of_dispatch hpre, hdispatch env]
    rfl
  cases c? with
  | none =>
      obtain ⟨response, hresponse⟩ := hf
      exact ⟨deliver request response, fun env g => by rw [hserve, hresponse env]; rfl⟩
  | some c => exact fun env g => by rw [hserve, hf env]

theorem dispatch_of_endpoint {e : Endpoint} (hacceptable : RequestBody.isAcceptable request = true)
    (he : Endpoint.ofRequest request = .ok e) (env : Surroundings σ) :
    dispatch env request = serveEndpoint env e request := by
  unfold dispatch
  rw [hacceptable, he]
  rfl

/-- A request that is not for a test is served as the call that it stands for, or is answered the
same by every gateway and changes none. -/
theorem stands_call? (h : request.isTest = false) : Stands σ request request.call? := by
  unfold ClientRequest.call?
  -- The cases are those in which a request is refused, in the order in which that happens.
  cases hpre : CrossOrigin.isPreflight request with
  | true => exact ⟨_, fun env g => serve_of_preflight hpre env g⟩
  | false =>
      cases hacceptable : RequestBody.isAcceptable request with
      | false =>
          refine ⟨deliver request (Refusal.response .invalidJson), fun env g => ?_⟩
          rw [serve_of_dispatch hpre, dispatch, hacceptable]
          rfl
      | true =>
          cases he : Endpoint.ofRequest request with
          | error r =>
              refine ⟨deliver request r.response, fun env g => ?_⟩
              rw [serve_of_dispatch hpre, dispatch, hacceptable, he]
              rfl
          | ok e =>
              have hdispatch := dispatch_of_endpoint (σ := σ) hacceptable he
              cases e with
              | testAll => simp [ClientRequest.isTest, he] at h
              | testOne id => simp [ClientRequest.isTest, he] at h
              | chat => exact stands_of_serves hpre hdispatch (serves_serveBody _ _ request)
              | embeddings => exact stands_of_serves hpre hdispatch (serves_serveBody _ _ request)
              | images => exact stands_of_serves hpre hdispatch (serves_serveBody _ _ request)
              | native target =>
                  exact stands_of_serves hpre hdispatch (serves_serveNative target request)

end Gateway

end ModelGateway
