import ModelGateway.Proofs.Gemini.Crashes
import ModelGateway.Proofs.Relay.Settlement

/-!
# Heads of responses

A handler that fails has written nothing.  Once it has written a head, only chunks follow and it
does not fail; counting tokens may crash.
-/

namespace ModelGateway

/-- Where there is no result, there was a crash. -/
def Unfailing {α : Type} (x : Except Halt α) : Prop :=
  ∀ f, x ≠ .error (.failed f)

namespace Unfailing

variable {α β : Type}

theorem ok (a : α) : Unfailing (.ok a) := nofun

theorem crashed : Unfailing (.error .crashed : Except Halt α) := nofun

theorem bind {x : Except Halt α} {f : α → Except Halt β} (hx : Unfailing x)
    (hf : ∀ a, Unfailing (f a)) : Unfailing (x >>= f) := by
  cases x with
  | error halt => exact fun failure h => hx failure (by rw [Except.error.inj h])
  | ok a => exact hf a

theorem map {x : Except Halt α} (hx : Unfailing x) (f : α → β) : Unfailing (x.map f) := by
  cases x with
  | error halt => exact fun failure h => hx failure (by rw [Except.error.inj h])
  | ok a => exact ok (f a)

theorem of_error {halt : Halt} (h : Unfailing (.error halt : Except Halt α)) :
    Unfailing (.error halt : Except Halt β) :=
  fun f hf => h f (congrArg _ (Except.error.inj hf))

end Unfailing

namespace Usage

theorem unfailing_add? (a b : UInt32) : Unfailing (add? a b) := by
  unfold add?
  split
  · exact .ok _
  · exact .crashed

theorem unfailing_ofCounts (prompt completion : UInt32) :
    Unfailing (ofCounts prompt completion) :=
  (unfailing_add? _ _).bind fun _ => .ok _

theorem unfailing_ofResponse? (response : Json) : Unfailing (ofResponse? response) := by
  unfold ofResponse?
  cases response.get? "usage" with
  | none => exact .ok _
  | some u =>
      dsimp only
      split
      · exact .ok _
      · exact (unfailing_add? _ _).bind fun _ => .ok _

end Usage

namespace Write

def AreChunks (writes : List Write) : Prop :=
  ∃ chunks : List Bytes, writes = chunks.map .chunk

theorem areChunks_nil : AreChunks [] := ⟨[], rfl⟩

theorem areChunks_data (text : String) : AreChunks [data text] := ⟨[_], rfl⟩

theorem areChunks_done : AreChunks [done] := ⟨[_], rfl⟩

theorem areChunks_write (chunk : Wire.Gemini.Chunk) : AreChunks [chunk.write] := ⟨[_], rfl⟩

theorem areChunks_map_write (chunks : List Wire.Gemini.Chunk) :
    AreChunks (chunks.map Wire.Gemini.Chunk.write) :=
  ⟨chunks.map fun c => Utf8.encode (Sse.Event.ofData c.json.text).write, by
    rw [List.map_map]
    rfl⟩

theorem AreChunks.append {writes writes' : List Write} (h : AreChunks writes)
    (h' : AreChunks writes') : AreChunks (writes ++ writes') := by
  obtain ⟨chunks, rfl⟩ := h
  obtain ⟨chunks', rfl⟩ := h'
  exact ⟨chunks ++ chunks', List.map_append.symm⟩

end Write

namespace Handled

/-- A program that writes nothing and fails, or writes a head, then chunks, and does not fail. -/
inductive Committed : Handled → Prop
  | failed (f : RelayFailure) : Committed (fail f)
  | lost : Committed (crash [])
  | begun (contentType : String) {writes : List Write} {outcome : Except Halt Usage}
      (hwrites : Write.AreChunks writes) (houtcome : Unfailing outcome) :
      Committed ⟨.head 200 contentType :: writes, outcome⟩

theorem committed_silent (halt : Halt) : Committed ⟨[], .error halt⟩ := by
  cases halt with
  | failed f => exact .failed f
  | crashed => exact .lost

theorem committed_after (usage : Except Halt Usage) {writes : Usage → List Write}
    {contentType : String} {octets : Usage → Bytes}
    (h : ∀ u, writes u = [.head 200 contentType, .chunk (octets u)]) :
    (after usage writes).Committed := by
  cases usage with
  | ok u =>
      rw [after, h]
      exact .begun contentType ⟨[octets u], rfl⟩ (.ok u)
  | error halt => exact committed_silent halt

end Handled

namespace Wire.Compatible

theorem committed_handleJson (call : Call) (body : Body) :
    (handleJson call body).Committed := by
  unfold handleJson
  split
  · exact .failed _
  split
  · exact .failed _
  split
  · exact .failed _
  · exact Handled.committed_after _ fun _ => rfl

theorem committed_handleBinary (call : Call) (r : HttpResponse) :
    (handleBinary call r).Committed := by
  unfold handleBinary
  cases r.body.whole? with
  | none => exact .failed _
  | some octets =>
      have hcounts := Usage.unfailing_ofCounts call.promptTokens 0
      dsimp only
      cases h : Usage.ofCounts call.promptTokens 0 with
      | ok usage => exact .begun _ ⟨[octets], rfl⟩ (.ok usage)
      | error halt => exact .begun _ ⟨[octets], rfl⟩ (h ▸ hcounts)

theorem unfailing_observe (call : Call) (s : StreamState) (data : String) :
    Unfailing (observe call s data) := by
  unfold observe
  cases Json.readText? data with
  | none => exact .ok _
  | some chunk =>
      refine (Usage.unfailing_ofResponse? chunk).bind fun reported => ?_
      cases reported <;> exact .ok _

theorem forward_commits (call : Call) (s : StreamState) (events : List Sse.Event) :
    Write.AreChunks (forward call s events).1 ∧ Unfailing (forward call s events).2 := by
  induction events generalizing s with
  | nil => exact ⟨Write.areChunks_nil, .ok s⟩
  | cons e events ih =>
      rw [forward]
      dsimp only
      split
      · exact ih s
      split
      · exact ⟨Write.areChunks_nil, .ok s⟩
      have hobserve := unfailing_observe call s (Text.trim e.data)
      cases h : observe call s (Text.trim e.data) with
      | error halt => exact ⟨Write.areChunks_nil, (h ▸ hobserve).of_error⟩
      | ok observed =>
          obtain ⟨s', forwarded⟩ := observed
          obtain ⟨hchunks, hunfailing⟩ := ih s'
          refine ⟨?_, hunfailing⟩
          cases forwarded with
          | true => exact (Write.areChunks_data _).append hchunks
          | false => exact hchunks

theorem committed_handleStream (call : Call) (body : Body) :
    (handleStream call body).Committed := by
  unfold handleStream
  cases Sse.read body.octets with
  | error halt => exact .begun _ Write.areChunks_nil .crashed
  | ok events =>
      have hforward := forward_commits call {} events
      dsimp only
      rcases h : forward call {} events with ⟨writes, halt | s⟩ <;> rw [h] at hforward
      · exact .begun _ hforward.1 hforward.2.of_error
      · refine .begun _ (hforward.1.append Write.areChunks_done) ?_
        cases s.usage with
        | some usage => exact .ok usage
        | none => exact Usage.unfailing_ofCounts _ _

theorem committed_handle (call : Call) (r : HttpResponse) : (handle call r).Committed := by
  unfold handle
  cases call.mode with
  | chat =>
      dsimp only
      split
      · exact committed_handleStream call r.body
      · exact committed_handleJson call r.body
  | speech => exact committed_handleBinary call r
  | embeddings | images | rerank | native => exact committed_handleJson call r.body

end Wire.Compatible

/-! ## The Gemini wire -/

namespace Wire.Gemini

theorem UsageMetadata.unfailing_usage (m : UsageMetadata) : Unfailing m.usage := by
  refine (Usage.unfailing_add? _ _).bind fun completion => ?_
  dsimp only
  split
  · exact .ok _
  · exact (Usage.unfailing_add? _ _).bind fun _ => .ok _

theorem committed_handleChat (call : Call) (body : Body) (stamp : Stamp) :
    (handleChat call body stamp).1.Committed := by
  unfold handleChat
  cases body.whole? with
  | none => exact .failed _
  | some octets =>
      dsimp only
      cases decodeBody? ChatResponse.decoder octets with
      | none => exact .failed _
      | some r =>
          dsimp only
          split
          · exact .failed _
          cases r.usage call with
          | error halt => exact Handled.committed_silent halt
          | ok usage => exact .begun _ ⟨[_], rfl⟩ (.ok usage)

theorem ChatStream.answer_commits (s : ChatStream) (responses : List ChatResponse)
    (stamp : Stamp) :
    Write.AreChunks ((s.answer responses).run stamp).1.1 ∧
      Unfailing ((s.answer responses).run stamp).1.2 := by
  induction responses generalizing s stamp with
  | nil => exact ⟨Write.areChunks_nil, .ok s⟩
  | cons r responses ih =>
      rw [ChatStream.answer, StateT.run_bind]
      by_cases hfits : r.Fits
      · obtain ⟨chunks, between, hstep, -⟩ := s.voices_step hfits stamp
        obtain ⟨hchunks, hunfailing⟩ := ih (s.hearing r) between
        rw [hstep]
        exact ⟨(Write.areChunks_map_write _).append hchunks, hunfailing⟩
      · rw [s.step_of_not_fits hfits]
        exact ⟨Write.areChunks_nil, .crashed⟩

theorem committed_handleChatStream (call : Call) (body : Body) (stamp : Stamp) :
    (handleChatStream call body stamp).1.Committed := by
  by_cases hmark : body.IsMarked
  · rw [handleChatStream_of_marked hmark]
    exact .begun _ Write.areChunks_nil .crashed
  obtain ⟨events, hread⟩ := body.exists_read hmark
  obtain ⟨⟨id, begun⟩, hid⟩ : ∃ p, completionId.run stamp = pure p := ⟨_, rfl⟩
  let opened : ChatStream := { id, created := begun.now, model := call.requestedModel }
  obtain ⟨hchunks, hunfailing⟩ := opened.answer_commits (responsesOf events) begun
  rw [← opened.run_eq_answer] at hchunks hunfailing
  change ((handleChatStream call body).run stamp).1.Committed
  rw [handleChatStream, hread]
  simp only [StateT.run_bind, StateT.run_get, pure_bind, hid]
  obtain ⟨⟨⟨writes, outcome⟩, after⟩, hrun⟩ : ∃ p, (opened.run events).run begun = pure p :=
    ⟨_, rfl⟩
  rw [hrun] at hchunks hunfailing
  simp only [hrun, opened, pure_bind]
  cases outcome with
  | error halt => exact .begun _ hchunks hunfailing.of_error
  | ok s =>
      dsimp only
      have hsettled : Unfailing (s.usage.elim (estimatedUsage call s.text) .ok) := by
        cases s.usage with
        | none => exact Usage.unfailing_ofCounts _ _
        | some usage => exact .ok usage
      cases h : s.usage.elim (estimatedUsage call s.text) .ok with
      | error halt => exact .begun _ hchunks (h ▸ hsettled)
      | ok usage =>
          refine .begun _ ((hchunks.append ?_).append Write.areChunks_done) (.ok usage)
          cases call.includeUsage with
          | true => exact Write.areChunks_write _
          | false => exact Write.areChunks_nil

theorem committed_handleEmbedding (call : Call) (body : Body) :
    (handleEmbedding call body).Committed := by
  unfold handleEmbedding
  split
  · exact .failed _
  split
  · exact .failed _
  · exact Handled.committed_after _ fun _ => rfl

theorem committed_handleImage (body : Body) (stamp : Stamp) :
    (handleImage body stamp).1.Committed := by
  unfold handleImage
  cases body.whole? with
  | none => exact .failed _
  | some octets =>
      dsimp only
      cases decodeBody? predictions octets with
      | none => exact .failed _
      | some ps =>
          cases ps with
          | nil => exact .failed _
          | cons p ps =>
              dsimp only
              cases ((p :: ps).filter Prediction.isKept).isEmpty with
              | true => exact .failed _
              | false => exact Handled.committed_after _ fun _ => rfl

theorem committed_handleNative (call : Call) (body : Body) :
    (handleNative call body).Committed := by
  unfold handleNative
  split
  · exact .failed _
  split
  · exact .failed _
  · exact Handled.committed_after _ fun _ => rfl

theorem forwardNative_commits (usage : Option Usage) (events : List Sse.Event) :
    Write.AreChunks (forwardNative usage events).1 ∧ Unfailing (forwardNative usage events).2 := by
  induction events generalizing usage with
  | nil => exact ⟨Write.areChunks_nil, .ok usage⟩
  | cons e events ih =>
      rw [forwardNative]
      split
      · exact ih usage
      cases (responseOf? e.data).bind ChatResponse.usageMetadata with
      | none => exact ⟨(Write.areChunks_data _).append (ih usage).1, (ih usage).2⟩
      | some m =>
          have hcounted := m.unfailing_usage.map some
          dsimp only
          cases h : m.usage.map some with
          | error halt => exact ⟨Write.areChunks_nil, (h ▸ hcounted).of_error⟩
          | ok usage' => exact ⟨(Write.areChunks_data _).append (ih usage').1, (ih usage').2⟩

theorem committed_handleNativeStream (call : Call) (body : Body) :
    (handleNativeStream call body).Committed := by
  unfold handleNativeStream
  cases Sse.read body.octets with
  | error halt => exact .begun _ Write.areChunks_nil .crashed
  | ok events =>
      obtain ⟨hchunks, hunfailing⟩ := forwardNative_commits none events
      refine .begun _ hchunks ?_
      cases h : (forwardNative none events).2 with
      | error halt => exact (h ▸ hunfailing).of_error
      | ok usage? =>
          cases usage? with
          | some usage => exact .ok usage
          | none => exact Usage.unfailing_ofCounts _ _

theorem committed_handle (s : GeminiSettings) (call : Call) (body : Body) (stamp : Stamp) :
    (handle s call body stamp).1.Committed := by
  unfold handle
  split
  · change (if call.isStream then handleNativeStream call body else
      handleNative call body).Committed
    split
    · exact committed_handleNativeStream call body
    · exact committed_handleNative call body
  · cases Endpoint.of (addressedModel s call) call with
    | predict => exact committed_handleImage body stamp
    | embed => exact committed_handleEmbedding call body
    | stream => exact committed_handleChatStream call body stamp
    | generate => exact committed_handleChat call body stamp

end Wire.Gemini

theorem Wire.committed_handle (s : GeminiSettings) (call : Call) (r : HttpResponse)
    (stamp : Stamp) : (handle s call r stamp).1.Committed := by
  unfold handle
  cases call.wire with
  | openai | zhipu => exact Compatible.committed_handle call r
  | gemini => exact Gemini.committed_handle s call r.body stamp

theorem Stream.writeAll_chunks {s : Stream} (hsent : s.headSent = true)
    (hnoticed : s.noticedGone = false) (hopen : s.bodyOpen = true) (chunks : List Bytes) :
    s.writeAll (chunks.map .chunk) = { s with chunks := s.chunks ++ chunks } := by
  induction chunks generalizing s with
  | nil => simp [writeAll]
  | cons octets chunks ih =>
      have hwrite : s.write (.chunk octets) = { s with chunks := s.chunks ++ [octets] } := by
        simp [write, writeChunk, hsent, hnoticed, hopen]
      change (s.write (.chunk octets)).writeAll (chunks.map .chunk) = _
      rw [hwrite, @ih { s with chunks := s.chunks ++ [octets] } hsent hnoticed hopen]
      simp

theorem Relayed.response_of_chunks {r : Relayed} {status : Nat} {contentType : String}
    {chunks : List Bytes} (h : r.writes = .head status contentType :: chunks.map .chunk) :
    r.response = ⟨status, ClientResponse.headersFor contentType, chunks.flatten⟩ := by
  have hstream : Stream.fresh.writeAll r.writes =
      { Stream.fresh.writeHead status contentType with chunks := chunks } := by
    rw [h]
    exact Stream.writeAll_chunks rfl rfl rfl chunks
  rw [response, hstream]
  rfl

namespace Relay

variable {σ : Type}

theorem committed_finish (g : GeminiSettings) (call : Call)
    (answer : Except RelayFailure HttpResponse) (stamp : Stamp) :
    (⟨(finish g call answer stamp).1.writes, (finish g call answer stamp).1.outcome⟩ :
      Handled).Committed := by
  cases answer with
  | error f => exact .failed f
  | ok r =>
      by_cases hstatus : r.status = 200
      · rw [finish_of_ok hstatus]
        exact Wire.committed_handle g call r stamp
      · rw [finish_of_status hstatus]
        exact .failed _

theorem committed_once (services : Services σ) (call : Call) (request : Request) (s : σ)
    (stamp : Stamp) :
    (⟨(once services call request (s, stamp)).1.writes,
      (once services call request (s, stamp)).1.outcome⟩ : Handled).Committed := by
  rw [once_eq]
  exact committed_finish _ _ _ _

/-- A round that fails has written nothing, and its client has the failure alone.  One with usage
has written one head, first, and then chunks. -/
theorem fails_before_head (services : Services σ) (call : Call) (request : Request) (s : σ)
    (stamp : Stamp) :
    let relayed := (once services call request (s, stamp)).1
    (∀ f, relayed.outcome = .error (.failed f) →
      relayed.writes = [] ∧ relayed.response = .ofError (.relay f)) ∧
    (∀ usage, relayed.outcome = .ok usage → ∃ contentType, ∃ chunks : List Bytes,
      relayed.writes = .head 200 contentType :: chunks.map .chunk ∧
      relayed.response = ⟨200, ClientResponse.headersFor contentType, chunks.flatten⟩) ∧
    (relayed.writes = [] ∨ ∃ contentType, ∃ chunks : List Bytes,
      relayed.writes = .head 200 contentType :: chunks.map .chunk) := by
  intro relayed
  have hcommitted := committed_once services call request s stamp
  change (⟨relayed.writes, relayed.outcome⟩ : Handled).Committed at hcommitted
  clear_value relayed
  obtain ⟨call, writes, outcome⟩ := relayed
  cases hcommitted with
  | failed f =>
      refine ⟨fun f' hf => ⟨rfl, ?_⟩, nofun, .inl rfl⟩
      obtain rfl := Halt.failed.inj (Except.error.inj hf)
      exact Relayed.response_of_failed rfl rfl
  | lost => exact ⟨nofun, nofun, .inl rfl⟩
  | begun contentType hchunks hunfailing =>
      obtain ⟨chunks, rfl⟩ := hchunks
      exact ⟨fun f hf => absurd hf (hunfailing f),
        fun _ _ => ⟨contentType, chunks, rfl, Relayed.response_of_chunks rfl⟩,
        .inr ⟨contentType, chunks, rfl⟩⟩

end Relay

end ModelGateway
