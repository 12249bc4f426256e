import ModelGateway.Proofs.Relay.Crashes
import ModelGateway.Proofs.Relay.Heads

/-!
# Failures of a round

A round fails with a failure of its own, which has a status of its own, or because the provider
answered with another status than 200, which is passed on.  So a round without usage is answered
with an error status unless the provider's status is none, or the round crashes after the head of a
stream.
-/

namespace ModelGateway

def IsErrorStatus (status : Nat) : Prop :=
  400 ≤ status ∧ status ≤ 599

instance : DecidablePred IsErrorStatus :=
  fun _ => inferInstanceAs (Decidable (_ ∧ _))

/-! ## Failures of its own -/

namespace RelayFailure

def IsOwn (f : RelayFailure) : Prop :=
  f.kind ≠ .badResponseStatus

theorem IsOwn.isErrorStatus {f : RelayFailure} (h : f.IsOwn) : IsErrorStatus f.httpStatus := by
  unfold httpStatus
  cases hkind : f.kind with
  | badResponseStatus => exact absurd hkind h
  | invalidInput | notImplemented | providerUnreachable | badResponseBody | modelMappingFailed
  | modelPriceError | invalidApiType | channelUnsupported | responseTimeExceeded =>
      dsimp only
      decide

end RelayFailure

/-- A failure of the program carries no status of the provider. -/
def FailsAlone {α : Type} (x : Except RelayFailure α) : Prop :=
  ∀ f, x = .error f → f.IsOwn

namespace FailsAlone

variable {α β : Type}

theorem ok (a : α) : FailsAlone (.ok a) := nofun

theorem error {f : RelayFailure} (h : f.IsOwn) : FailsAlone (.error f : Except RelayFailure α) := by
  rintro _ ⟨⟩
  exact h

theorem invalidInput (message : String) :
    FailsAlone (.error (.invalidInput message) : Except RelayFailure α) :=
  error nofun

theorem notImplemented (message : String) :
    FailsAlone (.error (.notImplemented message) : Except RelayFailure α) :=
  error nofun

theorem bind {x : Except RelayFailure α} {f : α → Except RelayFailure β} (hx : FailsAlone x)
    (hf : ∀ a, FailsAlone (f a)) : FailsAlone (x >>= f) := by
  cases x with
  | error failure => exact error (hx failure rfl)
  | ok a => exact hf a

theorem map {x : Except RelayFailure α} (hx : FailsAlone x) (f : α → β) :
    FailsAlone (x.map f) := by
  cases x with
  | error failure => exact error (hx failure rfl)
  | ok a => exact ok (f a)

end FailsAlone

namespace Wire

theorem Compatible.failsAlone_convert (call : Call) (request : Request) :
    FailsAlone (convert call request) := by
  unfold convert
  cases request with
  | embedding r =>
      dsimp only
      split
      · exact .invalidInput _
      · exact .ok _
  | native body => exact .notImplemented _
  | chat r | image r | rerank r | speech r => exact .ok _

theorem Compatible.failsAlone_url (root : String) (call : Call) : FailsAlone (url root call) := by
  refine .map ?_ _
  cases call.mode with
  | native => exact .notImplemented _
  | chat | embeddings | images | rerank | speech => exact .ok _

theorem Compatible.failsAlone_authorization (call : Call) : FailsAlone (authorization call) := by
  unfold authorization
  dsimp only
  split
  · exact .ok _
  · exact .invalidInput _

theorem Gemini.failsAlone_authorization (call : Call) : FailsAlone (authorization call) := by
  unfold authorization
  split
  · exact .ok _
  · exact .invalidInput _

theorem Gemini.failsAlone_chatBody (r : ChatRequest) (model : String) (s : GeminiSettings) :
    FailsAlone (chatBody r model s) := by
  unfold chatBody
  split
  · exact .invalidInput _
  · dsimp only
    split
    · exact .invalidInput _
    · exact .ok _

theorem Gemini.failsAlone_embeddingBody (r : EmbeddingRequest) (model : String) :
    FailsAlone (embeddingBody r model) := by
  unfold embeddingBody
  split
  · exact .invalidInput _
  split
  · exact .invalidInput _
  · split
    · exact .invalidInput _
    · exact .ok _

theorem Gemini.failsAlone_imageBody (r : ImageRequest) (model : String) :
    FailsAlone (imageBody r model) := by
  unfold imageBody
  split
  · exact .invalidInput _
  split
  · exact .invalidInput _
  · exact .ok _

theorem Gemini.failsAlone_convert (s : GeminiSettings) (call : Call) (request : Request) :
    FailsAlone (convert s call request) := by
  unfold convert
  cases request with
  | chat r => exact (failsAlone_chatBody _ _ _).map _
  | embedding r => exact (failsAlone_embeddingBody _ _).map _
  | image r => exact (failsAlone_imageBody _ _).map _
  | native body =>
      dsimp only
      split
      · exact .ok _
      · exact .invalidInput _
  | rerank r | speech r => exact .notImplemented _

theorem failsAlone_convert (s : GeminiSettings) (call : Call) (request : Request) :
    FailsAlone (convert s call request) := by
  unfold convert
  cases call.wire with
  | openai => exact Compatible.failsAlone_convert call request
  | zhipu =>
      unfold Zhipu.convert
      cases request <;> exact Compatible.failsAlone_convert call _
  | gemini => exact Gemini.failsAlone_convert s call request

theorem failsAlone_url (s : GeminiSettings) (call : Call) : FailsAlone (url s call) := by
  unfold url
  cases call.wire with
  | openai | zhipu => exact Compatible.failsAlone_url _ call
  | gemini => exact .ok _

theorem failsAlone_authorization (call : Call) : FailsAlone (authorization call) := by
  unfold authorization
  cases call.wire with
  | openai | zhipu => exact Compatible.failsAlone_authorization call
  | gemini => exact Gemini.failsAlone_authorization call

end Wire

namespace Relay

variable {σ : Type}

theorem failsAlone_httpRequest (g : GeminiSettings) (call : Call) (body : Json) :
    FailsAlone (httpRequest g call body) :=
  (Wire.failsAlone_url g call).bind fun _ =>
    (Wire.failsAlone_authorization call).bind fun _ => .ok _

theorem failsAlone_send (services : Services σ) (call : Call) (body : Json) (s : σ) :
    FailsAlone (send services call body s).1 := by
  have hrequest := failsAlone_httpRequest services.gemini call body
  unfold send
  cases h : httpRequest services.gemini call body with
  | error f => exact .error (hrequest f h)
  | ok request =>
      simp only [bind, StateT.bind]
      rcases services.network request s with ⟨r | _ | _, s'⟩
      · exact .ok r
      · exact .error nofun
      · exact .error nofun

theorem failsAlone_answered (services : Services σ) (call : Call) (request : Request) (s : σ) :
    FailsAlone (answered services call request s).1.2 := by
  have hconvert := Wire.failsAlone_convert services.gemini call request
  unfold answered
  cases h : Wire.convert services.gemini call request with
  | error f => exact .error (hconvert f h)
  | ok converted => exact failsAlone_send services _ _ _

end Relay

/-! ## Failures of handlers -/

theorem Usage.unfailing_mul? (a b : UInt32) : Unfailing (mul? a b) := by
  unfold mul?
  split
  · exact .ok _
  · exact .crashed

namespace Handled

/-- A failure of a handler is about the body that it was given. -/
def BlamesBody (h : Handled) : Prop :=
  ∀ f, h.outcome = .error (.failed f) → f.kind = .badResponseBody

theorem blamesBody_fail {f : RelayFailure} (h : f.kind = .badResponseBody) :
    (fail f).BlamesBody := by
  rintro _ ⟨⟩
  exact h

theorem blamesBody_after {usage : Except Halt Usage} (h : Unfailing usage)
    (writes : Usage → List Write) : (after usage writes).BlamesBody := by
  intro f hf
  cases usage with
  | ok u => cases hf
  | error halt => exact absurd hf (h.of_error f)

theorem Committed.blamesBody {h : Handled} (hcommitted : h.Committed) {w : Write}
    (hwrites : h.writes.head? = some w) : h.BlamesBody := by
  cases hcommitted with
  | failed f => cases hwrites
  | lost => cases hwrites
  | begun contentType hchunks hunfailing => exact fun f hf => absurd hf (hunfailing f)

end Handled

namespace Wire.Compatible

theorem unfailing_usageOf (call : Call) (response : Json) : Unfailing (usageOf call response) := by
  refine (Usage.unfailing_ofResponse? response).bind fun reported => ?_
  cases reported with
  | some usage => exact .ok usage
  | none => exact Usage.unfailing_ofCounts _ _

theorem blamesBody_handleJson (call : Call) (body : Body) : (handleJson call body).BlamesBody := by
  unfold handleJson
  split
  · exact Handled.blamesBody_fail rfl
  split
  · exact Handled.blamesBody_fail rfl
  split
  · exact Handled.blamesBody_fail rfl
  · exact Handled.blamesBody_after (unfailing_usageOf call _) _

theorem blamesBody_handleBinary (call : Call) (r : HttpResponse) :
    (handleBinary call r).BlamesBody := by
  cases hwhole : r.body.whole? with
  | none =>
      unfold handleBinary
      rw [hwhole]
      exact Handled.blamesBody_fail rfl
  | some octets =>
      obtain ⟨w, hwrites⟩ : ∃ w, (handleBinary call r).writes.head? = some w := by
        unfold handleBinary
        rw [hwhole]
        dsimp only
        cases Usage.ofCounts call.promptTokens 0 <;> exact ⟨_, rfl⟩
      exact (committed_handleBinary call r).blamesBody hwrites

theorem blamesBody_handle (call : Call) (r : HttpResponse) : (handle call r).BlamesBody := by
  unfold handle
  cases call.mode with
  | chat =>
      dsimp only
      split
      · exact (committed_handleStream call r.body).blamesBody
          (head?_writes_handleStream call r.body)
      · exact blamesBody_handleJson call r.body
  | speech => exact blamesBody_handleBinary call r
  | embeddings | images | rerank | native => exact blamesBody_handleJson call r.body

end Wire.Compatible

namespace Wire.Gemini

theorem ChatResponse.unfailing_usage (r : ChatResponse) (call : Call) :
    Unfailing (r.usage call) := by
  unfold usage
  cases r.reported? with
  | some m => exact m.unfailing_usage
  | none => exact Usage.unfailing_ofCounts _ _

theorem blamesBody_handleChat (call : Call) (body : Body) (stamp : Stamp) :
    (handleChat call body stamp).1.BlamesBody := by
  unfold handleChat
  cases body.whole? with
  | none => exact Handled.blamesBody_fail rfl
  | some octets =>
      dsimp only
      cases decodeBody? ChatResponse.decoder octets with
      | none => exact Handled.blamesBody_fail rfl
      | some r =>
          dsimp only
          split
          · exact Handled.blamesBody_fail rfl
          have husage := r.unfailing_usage call
          cases h : r.usage call with
          | error halt => exact fun f hf => absurd (h.trans hf) (husage f)
          | ok usage => exact fun f hf => nomatch hf

theorem blamesBody_handleChatStream (call : Call) (body : Body) (stamp : Stamp) :
    (handleChatStream call body stamp).1.BlamesBody := by
  have hcommitted := committed_handleChatStream call body stamp
  by_cases hmark : body.IsMarked
  · rw [handleChatStream_of_marked hmark] at hcommitted ⊢
    exact hcommitted.blamesBody rfl
  · obtain ⟨events, hread⟩ := body.exists_read hmark
    exact hcommitted.blamesBody (handleChatStream_ends call hread stamp).1

theorem blamesBody_handleEmbedding (call : Call) (body : Body) :
    (handleEmbedding call body).BlamesBody := by
  unfold handleEmbedding
  split
  · exact Handled.blamesBody_fail rfl
  split
  · exact Handled.blamesBody_fail rfl
  · exact Handled.blamesBody_after (Usage.unfailing_ofCounts _ _) _

theorem blamesBody_handleImage (body : Body) (stamp : Stamp) :
    (handleImage body stamp).1.BlamesBody := by
  unfold handleImage
  cases body.whole? with
  | none => exact Handled.blamesBody_fail rfl
  | some octets =>
      dsimp only
      cases decodeBody? predictions octets with
      | none => exact Handled.blamesBody_fail rfl
      | some ps =>
          cases ps with
          | nil => exact Handled.blamesBody_fail rfl
          | cons p ps =>
              dsimp only
              cases ((p :: ps).filter Prediction.isKept).isEmpty with
              | true => exact Handled.blamesBody_fail rfl
              | false =>
                  exact Handled.blamesBody_after ((Usage.unfailing_mul? _ _).bind
                    fun _ => Usage.unfailing_ofCounts _ _) _

theorem blamesBody_handleNative (call : Call) (body : Body) :
    (handleNative call body).BlamesBody := by
  unfold handleNative
  split
  · exact Handled.blamesBody_fail rfl
  split
  · exact Handled.blamesBody_fail rfl
  · refine Handled.blamesBody_after ?_ _
    unfold nativeUsage
    split
    · exact UsageMetadata.unfailing_usage _
    · exact Usage.unfailing_ofCounts _ _

theorem blamesBody_handle (s : GeminiSettings) (call : Call) (body : Body) (stamp : Stamp) :
    (handle s call body stamp).1.BlamesBody := by
  unfold handle
  split
  · change (if call.isStream then handleNativeStream call body else
      handleNative call body).BlamesBody
    split
    · exact (committed_handleNativeStream call body).blamesBody
        (head?_writes_handleNativeStream call body)
    · exact blamesBody_handleNative call body
  · cases Endpoint.of (addressedModel s call) call with
    | predict => exact blamesBody_handleImage body stamp
    | embed => exact blamesBody_handleEmbedding call body
    | stream => exact blamesBody_handleChatStream call body stamp
    | generate => exact blamesBody_handleChat call body stamp

end Wire.Gemini

theorem Wire.blamesBody_handle (s : GeminiSettings) (call : Call) (r : HttpResponse)
    (stamp : Stamp) : (handle s call r stamp).1.BlamesBody := by
  unfold handle
  cases call.wire with
  | openai | zhipu => exact Compatible.blamesBody_handle call r
  | gemini => exact Gemini.blamesBody_handle s call r.body stamp

/-! ## What the client hears -/

namespace Relay

def Strays (answer : Except RelayFailure HttpResponse) : Prop :=
  ∃ r, answer = .ok r ∧ r.status ≠ 200 ∧ RelayFailure.isHttpStatus r.status = true ∧
    ¬ IsErrorStatus r.status

def IsCutOff (g : GeminiSettings) (call : Call) (answer : Except RelayFailure HttpResponse) :
    Prop :=
  Wire.isStreamed g call = true ∧ ∃ r, answer = .ok r ∧ r.status = 200 ∧
    (Wire.Overflows g call r ∨ Wire.Marked g call r)

variable {g : GeminiSettings} {call : Call} {stamp : Stamp}

theorem statusFailure_keeps (r : HttpResponse) :
    (statusFailure r).kind = .badResponseStatus ∧ (statusFailure r).status = some r.status := by
  unfold statusFailure
  cases r.body.whole? with
  | none => exact ⟨rfl, rfl⟩
  | some octets =>
      dsimp only
      unfold ProviderError.ofBody
      split
      · exact ⟨rfl, rfl⟩
      · exact ⟨rfl, rfl⟩
      · dsimp only
        split <;> exact ⟨rfl, rfl⟩

theorem httpStatus_statusFailure (r : HttpResponse) :
    (statusFailure r).httpStatus =
      if RelayFailure.isHttpStatus r.status then r.status else 502 := by
  obtain ⟨hkind, hstatus⟩ := statusFailure_keeps r
  rw [RelayFailure.httpStatus, hkind, hstatus]

theorem response_fail (f : RelayFailure) : (fail call f).response = .ofError (.relay f) :=
  Relayed.response_of_failed rfl rfl

theorem isErrorStatus_handle {r : HttpResponse}
    (hnone : ∀ usage, (Wire.handle g call r stamp).1.outcome ≠ .ok usage) :
    IsErrorStatus (Relayed.response ⟨call, (Wire.handle g call r stamp).1.writes,
        (Wire.handle g call r stamp).1.outcome⟩).status ↔
      ¬ (Wire.isStreamed g call = true ∧ (Wire.Overflows g call r ∨ Wire.Marked g call r)) := by
  have hcommitted := Wire.committed_handle g call r stamp
  have hblames := Wire.blamesBody_handle g call r stamp
  have hcrashed := @Wire.handle_crashed_iff g call r stamp
  have hhead := @Wire.head?_writes_of_crashed g call r stamp
  generalize (Wire.handle g call r stamp).1 = handled at *
  obtain ⟨writes, outcome⟩ := handled
  cases outcome with
  | ok usage => exact absurd rfl (hnone usage)
  | error halt =>
      cases halt with
      | failed f =>
          have hown : f.IsOwn := by
            rw [RelayFailure.IsOwn, hblames f rfl]
            decide
          obtain rfl : writes = [] := by
            cases hcommitted with
            | failed f => rfl
            | begun contentType hchunks hunfailing => exact absurd rfl (hunfailing f)
          rw [Relayed.response_of_failed rfl rfl, ← hcrashed]
          exact iff_of_true hown.isErrorStatus fun h => nomatch h.2
      | crashed =>
          have hhead := hhead rfl
          rw [and_iff_left (hcrashed.mp rfl)]
          cases hstream : Wire.isStreamed g call with
          | true =>
              rw [hstream, if_pos rfl] at hhead
              obtain ⟨rest, rfl⟩ := List.head?_eq_some_iff.mp hhead
              rw [(Relayed.response_of_head rfl).1]
              exact iff_of_false (by decide) (by simp)
          | false =>
              rw [hstream, if_neg (by simp)] at hhead
              obtain rfl := List.head?_eq_none_iff.mp hhead
              exact iff_of_true (show IsErrorStatus closedEarly.httpStatus by decide) (by simp)

/-- The client of a round without usage hears of an error, but for a status that strays and a stream
that is cut off. -/
theorem isErrorStatus_iff {answer : Except RelayFailure HttpResponse} (hanswer : FailsAlone answer)
    (hnone : ∀ usage, (finish g call answer stamp).1.outcome ≠ .ok usage) :
    IsErrorStatus (finish g call answer stamp).1.response.status ↔
      ¬ Strays answer ∧ ¬ IsCutOff g call answer := by
  cases answer with
  | error f =>
      refine iff_of_true ?_ ⟨fun ⟨_, h, _⟩ => (nomatch h), fun ⟨_, _, h, _⟩ => (nomatch h)⟩
      change IsErrorStatus (fail call f).response.status
      rw [response_fail]
      exact (hanswer f rfl).isErrorStatus
  | ok r =>
      by_cases hstatus : r.status = 200
      · have hstrays : ¬ Strays (.ok r) := fun ⟨_, hr, hne, _⟩ =>
          hne (Except.ok.inj hr ▸ hstatus)
        rw [finish_of_ok hstatus] at hnone ⊢
        rw [isErrorStatus_handle hnone, and_iff_right hstrays, IsCutOff]
        simp [hstatus]
      · have hcut : ¬ IsCutOff g call (.ok r) := fun ⟨_, _, hr, h200, _⟩ =>
          hstatus (Except.ok.inj hr ▸ h200)
        rw [finish_of_status hstatus, response_fail, and_iff_left hcut, Strays]
        change IsErrorStatus (statusFailure r).httpStatus ↔ _
        rw [httpStatus_statusFailure]
        cases hhttp : RelayFailure.isHttpStatus r.status with
        | true => simp [hstatus, hhttp]
        | false => simp [hhttp, IsErrorStatus]

end Relay

end ModelGateway
