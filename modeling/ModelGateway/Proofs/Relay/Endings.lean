import ModelGateway.Proofs.Compatible.Stream
import ModelGateway.Proofs.Gemini.Stream
import ModelGateway.Proofs.Relay.Rounds

/-!
# How handlers end

Where the sums of tokens are counts, a handler writes a head and knows the usage, or writes nothing
and fails.  There is one exception: of a stream that begins with a byte order mark the client gets
the head and nothing else, and no usage is known.
-/

namespace ModelGateway

namespace Handled

/-- A head and the usage, or neither of them. -/
inductive Clean : Handled → Prop
  | answered (status : Nat) (contentType : String) (rest : List Write) (usage : Usage) :
      Clean ⟨.head status contentType :: rest, .ok usage⟩
  | failed (f : RelayFailure) : Clean (fail f)

theorem Clean.eq_failed {handled : Handled} (h : handled.Clean) {halt : Halt}
    (houtcome : handled.outcome = .error halt) : ∃ f, halt = .failed f := by
  cases h with
  | answered => cases houtcome
  | failed f => exact ⟨f, (Except.error.inj houtcome).symm⟩

theorem clean_of_head {handled : Handled} {status : Nat} {contentType : String}
    {rest : List Write} {usage : Usage}
    (hwrites : handled.writes = .head status contentType :: rest)
    (houtcome : handled.outcome = .ok usage) : handled.Clean := by
  obtain ⟨writes, outcome⟩ := handled
  subst hwrites houtcome
  exact .answered ..

theorem clean_after {usage? : Except Halt Usage} {usage : Usage} (h : usage? = .ok usage)
    {writes : Usage → List Write} {status : Nat} {contentType : String} {rest : List Write}
    (hwrites : writes usage = .head status contentType :: rest) : (after usage? writes).Clean := by
  subst h
  rw [after, hwrites]
  exact .answered ..

end Handled

theorem Usage.ofCounts_of_lt {prompt completion : UInt32}
    (h : prompt.toNat + completion.toNat < UInt32.size) :
    ofCounts prompt completion = .ok ⟨prompt, completion, prompt + completion, none, none⟩ := by
  rw [ofCounts, add?_of_lt h]
  rfl

theorem Usage.exists_ofCounts_zero (prompt : UInt32) :
    ∃ usage, ofCounts prompt 0 = .ok usage :=
  ⟨_, ofCounts_of_lt prompt.toNat_lt⟩

/-- A body that begins with a byte order mark. -/
def Body.IsMarked (body : Body) : Prop :=
  (Utf8.decodePrefix body.octets).head? = some Sse.byteOrderMark

theorem Body.read_of_isMarked {body : Body} (h : body.IsMarked) :
    Sse.read body.octets = .error .crashed := if_pos h

theorem Body.exists_read {body : Body} (h : ¬ body.IsMarked) :
    ∃ events, Sse.read body.octets = .ok events := ⟨_, if_neg h⟩

/-! ## The compatible wire -/

namespace Wire.Compatible

/-- The words that an answer without usage is estimated from. -/
def answerTexts (response : Json) : List String :=
  (firstChoiceText? "message" response).toList

def JsonFits (call : Call) (body : Body) : Prop :=
  ∀ octets response, body.whole? = some octets → Json.read? octets = some response →
    Usage.reportedSum response < UInt32.size ∧
      (Usage.ofResponse? response = .ok none →
        call.promptTokens.toNat + (Tokens.count (answerTexts response)).toNat < UInt32.size)

def StreamFits (call : Call) (body : Body) : Prop :=
  ∀ events, Sse.read body.octets = .ok events →
    (∀ data ∈ dataOf events, CountsFit data) ∧
      (lastReported? events = none →
        call.promptTokens.toNat + (Tokens.count [textOf events]).toNat < UInt32.size)

def isStreamed (call : Call) : Bool :=
  call.mode == .chat && call.isStream

def Fits (call : Call) (r : HttpResponse) : Prop :=
  match call.mode with
  | .chat => if call.isStream then StreamFits call r.body else JsonFits call r.body
  | .speech => True
  | .embeddings | .images | .rerank | .native => JsonFits call r.body

variable {call : Call} {body : Body}

theorem exists_usageOf {response : Json} (hreported : Usage.reportedSum response < UInt32.size)
    (hestimate : Usage.ofResponse? response = .ok none →
      call.promptTokens.toNat + (Tokens.count (answerTexts response)).toNat < UInt32.size) :
    ∃ usage, usageOf call response = .ok usage := by
  obtain ⟨usage?, husage⟩ := Usage.exists_ofResponse? hreported
  unfold usageOf
  rw [husage]
  cases usage? with
  | some usage => exact ⟨usage, rfl⟩
  | none =>
      have htexts : (firstChoiceText? "message" response).elim [] ([·]) = answerTexts response := by
        unfold answerTexts
        cases firstChoiceText? "message" response <;> rfl
      exact ⟨_, htexts ▸ Usage.ofCounts_of_lt (hestimate husage)⟩

theorem clean_handleJson (h : JsonFits call body) : (handleJson call body).Clean := by
  unfold handleJson
  cases hwhole : body.whole? with
  | none => exact .failed _
  | some octets =>
      dsimp only
      cases hread : Json.read? octets with
      | none => exact .failed _
      | some response =>
          dsimp only
          cases errorObject? response with
          | some message => exact .failed _
          | none =>
              obtain ⟨hreported, hestimate⟩ := h octets response hwhole hread
              obtain ⟨usage, husage⟩ := exists_usageOf hreported hestimate
              exact Handled.clean_after husage rfl

theorem clean_handleBinary (call : Call) (r : HttpResponse) : (handleBinary call r).Clean := by
  unfold handleBinary
  cases r.body.whole? with
  | none => exact .failed _
  | some octets =>
      obtain ⟨usage, husage⟩ := Usage.exists_ofCounts_zero call.promptTokens
      simp only [husage]
      exact .answered ..

theorem clean_handleStream (h : StreamFits call body) (hmark : ¬ body.IsMarked) :
    (handleStream call body).Clean := by
  obtain ⟨events, hread⟩ := body.exists_read hmark
  obtain ⟨hcounts, hestimate⟩ := h events hread
  have hwrites := writes_handleStream call body hread hcounts
  have houtcome := outcome_handleStream call body hread hcounts
  cases hlast : lastReported? events with
  | some usage =>
      rw [hlast] at houtcome
      exact Handled.clean_of_head hwrites houtcome
  | none =>
      rw [hlast, Option.elim_none, Usage.ofCounts_of_lt (hestimate hlast)] at houtcome
      exact Handled.clean_of_head hwrites houtcome

theorem handleStream_of_marked (call : Call) (hmark : body.IsMarked) :
    handleStream call body = .crash [Write.startEvents] := by
  rw [handleStream, body.read_of_isMarked hmark]

theorem clean_handle {r : HttpResponse} (h : Fits call r)
    (hmark : isStreamed call = true → ¬ r.body.IsMarked) : (handle call r).Clean := by
  unfold handle
  unfold Fits at h
  unfold isStreamed at hmark
  cases hmode : call.mode with
  | chat =>
      rw [hmode] at h hmark
      dsimp only at h ⊢
      split at h
      · next hstream =>
        rw [if_pos hstream]
        exact clean_handleStream h (hmark (by simpa using hstream))
      · next hstream =>
        rw [if_neg hstream]
        exact clean_handleJson h
  | speech => exact clean_handleBinary call r
  | embeddings | images | rerank | native =>
      rw [hmode] at h
      exact clean_handleJson h

theorem handle_of_marked {r : HttpResponse} (hstream : isStreamed call = true)
    (hmark : r.body.IsMarked) : handle call r = .crash [Write.startEvents] := by
  obtain ⟨hmode, hstream⟩ : call.mode = .chat ∧ call.isStream = true := by
    simpa [isStreamed] using hstream
  rw [handle, hmode]
  exact (if_pos hstream).trans (handleStream_of_marked call hmark)

end Wire.Compatible

/-! ## The Gemini wire -/

namespace Wire.Gemini

def ChatFits (call : Call) (body : Body) : Prop :=
  ∀ octets r, body.whole? = some octets → decodeBody? ChatResponse.decoder octets = some r →
    r.Fits ∧ (r.reported? = none → call.promptTokens.toNat +
      (Tokens.count [String.join (r.candidates.map Candidate.visibleText)]).toNat < UInt32.size)

def ChatStreamFits (call : Call) (body : Body) : Prop :=
  ∀ events, Sse.read body.octets = .ok events →
    (∀ r ∈ responsesOf events, r.Fits) ∧ (lastReported? (responsesOf events) = none →
      call.promptTokens.toNat + (Tokens.count [visibleText (responsesOf events)]).toNat <
        UInt32.size)

def ImageFits (body : Body) : Prop :=
  ∀ octets ps, body.whole? = some octets → decodeBody? predictions octets = some ps →
    tokensPerImage.toNat * (ps.filter Prediction.isKept).length < UInt32.size

def NativeFits (body : Body) : Prop :=
  ∀ octets r, body.whole? = some octets → decodeBody? ChatResponse.decoder octets = some r →
    ∀ m ∈ r.usageMetadata, m.Fits

def NativeStreamFits (body : Body) : Prop :=
  ∀ events, Sse.read body.octets = .ok events → ∀ e ∈ events,
    ∀ m ∈ (responseOf? e.data).bind ChatResponse.usageMetadata, m.Fits

def isStreamed (s : GeminiSettings) (call : Call) : Bool :=
  if call.mode = .native then call.isStream
  else Endpoint.of (addressedModel s call) call == .stream

def Fits (s : GeminiSettings) (call : Call) (body : Body) : Prop :=
  if call.mode = .native then if call.isStream then NativeStreamFits body else NativeFits body
  else
    match Endpoint.of (addressedModel s call) call with
    | .predict => ImageFits body
    | .embed => True
    | .stream => ChatStreamFits call body
    | .generate => ChatFits call body

variable {s : GeminiSettings} {call : Call} {body : Body} {stamp : Stamp}

theorem clean_handleChat (h : ChatFits call body) (stamp : Stamp) :
    (handleChat call body stamp).1.Clean := by
  unfold handleChat
  cases hwhole : body.whole? with
  | none => exact .failed _
  | some octets =>
      dsimp only
      cases hread : decodeBody? ChatResponse.decoder octets with
      | none => exact .failed _
      | some r =>
          obtain ⟨hfits, hestimate⟩ := h octets r hwhole hread
          dsimp only
          cases hempty : r.candidates.isEmpty with
          | true => exact .failed _
          | false =>
              obtain ⟨usage, husage⟩ : ∃ usage, r.usage call = .ok usage := by
                unfold ChatResponse.usage
                cases hm : r.reported? with
                | some m => exact ⟨_, (hfits m hm).usage_eq⟩
                | none => exact ⟨_, Usage.ofCounts_of_lt (hestimate hm)⟩
              simp only [husage, Bool.false_eq_true, if_false]
              exact .answered ..

theorem clean_handleChatStream (h : ChatStreamFits call body) (hmark : ¬ body.IsMarked)
    (stamp : Stamp) : (handleChatStream call body stamp).1.Clean := by
  obtain ⟨events, hread⟩ := body.exists_read hmark
  obtain ⟨hfits, hestimate⟩ := h events hread
  obtain ⟨usage, husage⟩ : ∃ usage,
      ((lastReported? (responsesOf events)).map UsageMetadata.counted).elim
        (estimatedUsage call (visibleText (responsesOf events))) .ok = .ok usage := by
    cases hlast : lastReported? (responsesOf events) with
    | some m => exact ⟨_, rfl⟩
    | none => exact ⟨_, Usage.ofCounts_of_lt (hestimate hlast)⟩
  obtain ⟨chunks, st, stamp', hrun, -⟩ := handleChatStream_eq call body hread hfits husage stamp
  have hhandled : (handleChatStream call body stamp).1 = _ := congrArg Prod.fst hrun
  rw [hhandled]
  exact .answered ..

theorem clean_handleEmbedding (call : Call) (body : Body) : (handleEmbedding call body).Clean := by
  unfold handleEmbedding
  cases body.whole? with
  | none => exact .failed _
  | some octets =>
      dsimp only
      cases decodeBody? EmbeddingResponse.decoder octets with
      | none => exact .failed _
      | some r =>
          obtain ⟨usage, husage⟩ := Usage.exists_ofCounts_zero call.promptTokens
          exact Handled.clean_after husage rfl

theorem exists_imageUsage {kept : Nat}
    (h : tokensPerImage.toNat * kept < UInt32.size) :
    ∃ usage, (do Usage.ofCounts (← Usage.mul? tokensPerImage kept.toUInt32) 0) = .ok usage := by
  have hproduct : tokensPerImage.toNat * kept.toUInt32.toNat < UInt32.size := by
    refine Nat.lt_of_le_of_lt (Nat.mul_le_mul_left _ ?_) h
    rw [Nat.toUInt32_eq, UInt32.toNat_ofNat']
    exact Nat.mod_le _ _
  rw [Usage.mul?, if_pos hproduct]
  exact Usage.exists_ofCounts_zero _

theorem clean_handleImage (h : ImageFits body) (stamp : Stamp) :
    (handleImage body stamp).1.Clean := by
  unfold handleImage
  cases hwhole : body.whole? with
  | none => exact .failed _
  | some octets =>
      dsimp only
      cases hread : decodeBody? predictions octets with
      | none => exact .failed _
      | some ps =>
          have hfits := h octets ps hwhole hread
          cases ps with
          | nil => exact .failed _
          | cons p ps =>
              cases hkept : ((p :: ps).filter Prediction.isKept).isEmpty with
              | true =>
                  simp only [hkept, if_true]
                  exact .failed _
              | false =>
                  obtain ⟨usage, husage⟩ := exists_imageUsage hfits
                  simp only [hkept, Bool.false_eq_true, if_false]
                  exact Handled.clean_after husage rfl

theorem clean_handleNative (h : NativeFits body) (call : Call) :
    (handleNative call body).Clean := by
  unfold handleNative
  cases hwhole : body.whole? with
  | none => exact .failed _
  | some octets =>
      dsimp only
      cases hread : decodeBody? ChatResponse.decoder octets with
      | none => exact .failed _
      | some r =>
          obtain ⟨usage, husage⟩ : ∃ usage, nativeUsage call r.usageMetadata = .ok usage := by
            cases hm : r.usageMetadata with
            | some m => exact ⟨_, (h octets r hwhole hread m hm).usage_eq⟩
            | none => exact Usage.exists_ofCounts_zero call.promptTokens
          exact Handled.clean_after husage rfl

theorem exists_forwardNative {events : List Sse.Event}
    (h : ∀ e ∈ events, ∀ m ∈ (responseOf? e.data).bind ChatResponse.usageMetadata, m.Fits)
    (usage : Option Usage) :
    ∃ writes usage', forwardNative usage events = (writes, .ok usage') := by
  -- The last usage that is reported counts, so the claim is made for whatever came before.
  induction events generalizing usage with
  | nil => exact ⟨[], usage, rfl⟩
  | cons e events ih =>
      obtain ⟨hhere, hrest⟩ := List.forall_mem_cons.mp h
      rw [forwardNative]
      split
      · exact ih hrest usage
      cases hm : (responseOf? e.data).bind ChatResponse.usageMetadata with
      | none =>
          obtain ⟨writes, last, hforward⟩ := ih hrest usage
          simp only [hforward]
          exact ⟨_, _, rfl⟩
      | some m =>
          obtain ⟨writes, last, hforward⟩ := ih hrest (some m.counted)
          simp only [(hhere m hm).usage_eq, Except.map, hforward]
          exact ⟨_, _, rfl⟩

theorem clean_handleNativeStream (h : NativeStreamFits body) (hmark : ¬ body.IsMarked)
    (call : Call) : (handleNativeStream call body).Clean := by
  obtain ⟨events, hread⟩ := body.exists_read hmark
  obtain ⟨writes, usage?, hforward⟩ := exists_forwardNative (h events hread) none
  rw [handleNativeStream, hread]
  simp only [hforward]
  cases usage? with
  | some usage => exact .answered ..
  | none =>
      obtain ⟨usage, husage⟩ := Usage.exists_ofCounts_zero call.promptTokens
      rw [husage]
      exact .answered ..

theorem clean_handle (h : Fits s call body) (hmark : isStreamed s call = true → ¬ body.IsMarked)
    (stamp : Stamp) : (handle s call body stamp).1.Clean := by
  unfold handle
  unfold Fits at h
  unfold isStreamed at hmark
  by_cases hmode : call.mode = .native
  · rw [if_pos hmode] at h hmark ⊢
    cases hstream : call.isStream with
    | true =>
        rw [hstream] at h
        exact clean_handleNativeStream h (hmark hstream) call
    | false =>
        rw [hstream] at h
        exact clean_handleNative h call
  · rw [if_neg hmode] at h hmark ⊢
    cases hendpoint : Endpoint.of (addressedModel s call) call with
    | predict =>
        rw [hendpoint] at h
        exact clean_handleImage h stamp
    | embed => exact clean_handleEmbedding call body
    | stream =>
        rw [hendpoint] at h hmark
        exact clean_handleChatStream h (hmark rfl) stamp
    | generate =>
        rw [hendpoint] at h
        exact clean_handleChat h stamp

theorem handle_of_marked (hstream : isStreamed s call = true) (hmark : body.IsMarked)
    (stamp : Stamp) : (handle s call body stamp).1 = .crash [Write.startEvents] := by
  unfold handle
  unfold isStreamed at hstream
  by_cases hmode : call.mode = .native
  · rw [if_pos hmode] at hstream ⊢
    rw [if_pos hstream, handleNativeStream, body.read_of_isMarked hmark]
    rfl
  · rw [if_neg hmode] at hstream ⊢
    rw [beq_iff_eq] at hstream
    rw [hstream, handleChatStream, body.read_of_isMarked hmark]
    rfl

end Wire.Gemini

namespace Wire

def isStreamed (s : GeminiSettings) (call : Call) : Bool :=
  match call.wire with
  | .openai | .zhipu => Compatible.isStreamed call
  | .gemini => Gemini.isStreamed s call

theorem isStreamed_of_plain {s : GeminiSettings} {call : Call} (h : call.isStream = false) :
    isStreamed s call = false := by
  unfold isStreamed
  cases call.wire with
  | openai | zhipu => simp [Compatible.isStreamed, h]
  | gemini =>
      by_cases hmode : call.mode = .native
      · simp [Gemini.isStreamed, hmode, h]
      · simp only [Gemini.isStreamed, hmode, Gemini.Endpoint.of, h, if_false, Bool.false_eq_true]
        split
        · rfl
        · split <;> rfl

def Fits (s : GeminiSettings) (call : Call) (r : HttpResponse) : Prop :=
  match call.wire with
  | .openai | .zhipu => Compatible.Fits call r
  | .gemini => Gemini.Fits s call r.body

def Marked (s : GeminiSettings) (call : Call) (r : HttpResponse) : Prop :=
  isStreamed s call = true ∧ r.body.IsMarked

variable {s : GeminiSettings} {call : Call} {r : HttpResponse}

theorem clean_handle (h : Fits s call r) (hmark : ¬ Marked s call r) (stamp : Stamp) :
    (handle s call r stamp).1.Clean := by
  unfold handle
  unfold Fits at h
  unfold Marked isStreamed at hmark
  cases hwire : call.wire with
  | openai | zhipu =>
      rw [hwire] at h hmark
      exact Compatible.clean_handle h fun hstream hmarked => hmark ⟨hstream, hmarked⟩
  | gemini =>
      rw [hwire] at h hmark
      exact Gemini.clean_handle h (fun hstream hmarked => hmark ⟨hstream, hmarked⟩) stamp

theorem handle_of_marked (h : Marked s call r) (stamp : Stamp) :
    (handle s call r stamp).1 = .crash [Write.startEvents] := by
  obtain ⟨hstream, hmarked⟩ := h
  unfold handle
  unfold isStreamed at hstream
  cases hwire : call.wire with
  | openai | zhipu =>
      rw [hwire] at hstream
      exact Compatible.handle_of_marked hstream hmarked
  | gemini =>
      rw [hwire] at hstream
      exact Gemini.handle_of_marked hstream hmarked stamp

end Wire

namespace Relay

variable {g : GeminiSettings} {call : Call} {answer : Except RelayFailure HttpResponse}

def Fits (g : GeminiSettings) (call : Call) (answer : Except RelayFailure HttpResponse) : Prop :=
  ∀ r, answer = .ok r → r.status = 200 → Wire.Fits g call r

def Marked (g : GeminiSettings) (call : Call) (answer : Except RelayFailure HttpResponse) :
    Prop :=
  ∃ r, answer = .ok r ∧ r.status = 200 ∧ Wire.Marked g call r

theorem clean_finish (h : Fits g call answer) (hmark : ¬ Marked g call answer) (stamp : Stamp) :
    (⟨(finish g call answer stamp).1.writes, (finish g call answer stamp).1.outcome⟩ :
      Handled).Clean := by
  cases answer with
  | error f => exact .failed f
  | ok r =>
      by_cases hstatus : r.status = 200
      · rw [finish_of_ok hstatus]
        exact Wire.clean_handle (h r rfl hstatus) (fun hmarked => hmark ⟨r, rfl, hstatus, hmarked⟩)
          stamp
      · rw [finish_of_status hstatus]
        exact .failed _

theorem finish_of_marked (h : Marked g call answer) (stamp : Stamp) :
    (finish g call answer stamp).1 = ⟨call, [Write.startEvents], .error .crashed⟩ := by
  obtain ⟨r, rfl, hstatus, hmarked⟩ := h
  rw [finish_of_ok hstatus, Wire.handle_of_marked hmarked stamp]
  rfl

end Relay

end ModelGateway
