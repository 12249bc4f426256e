import ModelGateway.Proofs.Relay.Overflow

/-!
# Crashes on the Gemini wire

The thoughts are added to the completion wherever metadata is used, and the prompt where no total is
reported.  Images are counted by what each of them costs.
-/

namespace ModelGateway.Wire.Gemini

def ChatOverflows (call : Call) (body : Body) : Prop :=
  ∃ octets r, body.whole? = some octets ∧ decodeBody? ChatResponse.decoder octets = some r ∧
    r.candidates ≠ [] ∧
    (¬ r.Fits ∨ r.reported? = none ∧
      UInt32.size ≤ call.promptTokens.toNat +
        (Tokens.count [String.join (r.candidates.map Candidate.visibleText)]).toNat)

def ChatStreamOverflows (call : Call) (body : Body) : Prop :=
  ∃ events, Sse.read body.octets = .ok events ∧
    ((∃ r ∈ responsesOf events, ¬ r.Fits) ∨
      lastReported? (responsesOf events) = none ∧
        UInt32.size ≤ call.promptTokens.toNat +
          (Tokens.count [visibleText (responsesOf events)]).toNat)

def ImageOverflows (body : Body) : Prop :=
  ∃ octets ps, body.whole? = some octets ∧ decodeBody? predictions octets = some ps ∧
    UInt32.size ≤ tokensPerImage.toNat * (ps.filter Prediction.isKept).length.toUInt32.toNat

def NativeOverflows (body : Body) : Prop :=
  ∃ octets r, body.whole? = some octets ∧ decodeBody? ChatResponse.decoder octets = some r ∧
    ∃ m ∈ r.usageMetadata, ¬ m.Fits

def NativeStreamOverflows (body : Body) : Prop :=
  ∃ events, Sse.read body.octets = .ok events ∧ ∃ e ∈ events, Text.isBlankText e.data = false ∧
    ∃ m ∈ (responseOf? e.data).bind ChatResponse.usageMetadata, ¬ m.Fits

def Overflows (s : GeminiSettings) (call : Call) (body : Body) : Prop :=
  if call.mode = .native then if call.isStream then NativeStreamOverflows body
    else NativeOverflows body
  else
    match Endpoint.of (addressedModel s call) call with
    | .predict => ImageOverflows body
    | .embed => False
    | .stream => ChatStreamOverflows call body
    | .generate => ChatOverflows call body

variable {s : GeminiSettings} {call : Call} {body : Body} {stamp : Stamp}

theorem UsageMetadata.usage_eq_crashed {m : UsageMetadata} :
    m.usage = .error .crashed ↔ ¬ m.Fits := by
  refine ⟨fun h hfits => (nomatch hfits.usage_eq.symm.trans h), fun h => ?_⟩
  rw [UsageMetadata.usage, bind_eq_crashed, Usage.add?_eq_crashed]
  by_cases hcompletion : UInt32.size ≤ m.candidates.toNat + m.thoughts.toNat
  · exact .inl hcompletion
  refine .inr ⟨_, Usage.add?_of_lt (Nat.not_le.mp hcompletion), ?_⟩
  obtain ⟨hzero, hlarge⟩ : m.total = 0 ∧
      UInt32.size ≤ m.prompt.toNat + m.candidates.toNat + m.thoughts.toNat := by
    by_contra hnot
    rw [not_and, Nat.not_le] at hnot
    exact h ⟨Nat.not_le.mp hcompletion, hnot⟩
  dsimp only
  rw [hzero, if_neg (by decide), bind_eq_crashed, Usage.add?_eq_crashed, UInt32.toNat_add,
    Nat.mod_eq_of_lt (Nat.not_le.mp hcompletion), ← Nat.add_assoc]
  exact .inl hlarge

theorem ChatResponse.not_fits_iff {r : ChatResponse} :
    ¬ r.Fits ↔ ∃ m, r.reported? = some m ∧ m.usage = .error .crashed := by
  simp [ChatResponse.Fits, UsageMetadata.usage_eq_crashed]

theorem ChatResponse.usage_eq_crashed {r : ChatResponse} :
    r.usage call = .error .crashed ↔
      ¬ r.Fits ∨ r.reported? = none ∧
        UInt32.size ≤ call.promptTokens.toNat +
          (Tokens.count [String.join (r.candidates.map Candidate.visibleText)]).toNat := by
  rw [ChatResponse.not_fits_iff, ChatResponse.usage]
  cases r.reported? with
  | none => simpa [estimatedUsage] using Usage.ofCounts_eq_crashed
  | some m => simp

theorem handleChat_crashed_iff :
    (handleChat call body stamp).1.outcome = .error .crashed ↔ ChatOverflows call body := by
  unfold handleChat ChatOverflows
  cases body.whole? with
  | none => exact iff_of_false nofun nofun
  | some octets =>
      dsimp only
      cases hread : decodeBody? ChatResponse.decoder octets with
      | none => exact iff_of_false nofun (by simp [hread])
      | some r =>
          dsimp only
          by_cases hempty : r.candidates = []
          · rw [if_pos (by simp [hempty])]
            exact iff_of_false nofun (by simp [hread, hempty])
          · rw [if_neg (by simp [hempty])]
            have husage : r.usage call = .error .crashed ↔ _ := ChatResponse.usage_eq_crashed
            simp only [Option.some.injEq, exists_and_left, exists_eq_left', hread, ne_eq, hempty,
              not_false_eq_true, true_and, ← husage]
            cases r.usage call <;> rfl

theorem ChatStream.step_of_not_fits (s : ChatStream) {r : ChatResponse} (h : ¬ r.Fits)
    (stamp : Stamp) : (s.step r).run stamp = (.error .crashed, stamp) := by
  obtain ⟨m, hreported, hcrashed⟩ := ChatResponse.not_fits_iff.mp h
  unfold ChatStream.step
  simp only [hreported, hcrashed]
  rfl

theorem ChatStream.answer_of_not_fits (s : ChatStream) {responses : List ChatResponse}
    (h : ∃ r ∈ responses, ¬ r.Fits) (stamp : Stamp) :
    ∃ writes stamp', (s.answer responses).run stamp = ((writes, .error .crashed), stamp') := by
  induction responses generalizing s stamp with
  | nil => exact absurd h (by simp)
  | cons r responses ih =>
      rw [ChatStream.answer, StateT.run_bind]
      by_cases hfits : r.Fits
      · obtain ⟨chunks, between, hstep, -⟩ := s.voices_step hfits stamp
        obtain ⟨writes, after, hrest⟩ := ih (s.hearing r) (by simpa [hfits] using h) between
        refine ⟨chunks.map Chunk.write ++ writes, after, ?_⟩
        rw [hstep]
        change ((s.hearing r).answer responses >>= _).run between = _
        rw [StateT.run_bind, hrest]
        rfl
      · exact ⟨[], stamp, by rw [s.step_of_not_fits hfits]; rfl⟩

def ChatStream.settled (s : ChatStream) (call : Call) : Except Halt Usage :=
  s.usage.elim (estimatedUsage call s.text) .ok

/-- The head is written whatever comes, and the responses decide how a stream ends. -/
theorem handleChatStream_ends (call : Call) {body : Body} {events : List Sse.Event}
    (hread : Sse.read body.octets = .ok events) (stamp : Stamp) :
    (handleChatStream call body stamp).1.writes.head? = some Write.startEvents ∧
      ∃ (opened : ChatStream) (begun : Stamp), opened.usage = none ∧ opened.text = "" ∧
        (handleChatStream call body stamp).1.outcome =
          (((opened.answer (responsesOf events)).run begun).1.2 >>= (·.settled call)) := by
  obtain ⟨⟨id, begun⟩, hid⟩ : ∃ p, completionId.run stamp = pure p := ⟨_, rfl⟩
  let opened : ChatStream := { id, created := begun.now, model := call.requestedModel }
  obtain ⟨⟨⟨writes, outcome⟩, stamp'⟩, hrun⟩ :
      ∃ p, (opened.run events).run begun = pure p := ⟨_, rfl⟩
  have hends : (handleChatStream call body stamp).1.writes.head? = some Write.startEvents ∧
      (handleChatStream call body stamp).1.outcome = (outcome >>= (·.settled call)) := by
    change ((handleChatStream call body).run stamp).1.writes.head? = _ ∧
      ((handleChatStream call body).run stamp).1.outcome = _
    rw [handleChatStream, hread]
    simp only [StateT.run_bind, StateT.run_get, pure_bind, hid, hrun, opened]
    cases outcome with
    | error halt => exact ⟨rfl, rfl⟩
    | ok s =>
        change _ ∧ _ = s.usage.elim (estimatedUsage call s.text) .ok
        dsimp only
        cases s.usage.elim (estimatedUsage call s.text) .ok <;> exact ⟨rfl, rfl⟩
  refine ⟨hends.1, opened, begun, rfl, rfl, ?_⟩
  rw [hends.2, ← opened.run_eq_answer, hrun]
  rfl

theorem handleChatStream_of_marked (hmark : body.IsMarked) (stamp : Stamp) :
    (handleChatStream call body stamp).1 = .crash [Write.startEvents] := by
  rw [handleChatStream, body.read_of_isMarked hmark]
  rfl

theorem handleChatStream_crashed_iff :
    (handleChatStream call body stamp).1.outcome = .error .crashed ↔
      ChatStreamOverflows call body ∨ body.IsMarked := by
  by_cases hmark : body.IsMarked
  · rw [handleChatStream_of_marked hmark]
    exact iff_of_true rfl (.inr hmark)
  obtain ⟨events, hread⟩ := body.exists_read hmark
  obtain ⟨-, opened, begun, husage, htext, houtcome⟩ := handleChatStream_ends call hread stamp
  rw [or_iff_left hmark, ChatStreamOverflows, houtcome]
  simp only [hread, Except.ok.injEq, exists_eq_left']
  by_cases hfits : ∀ r ∈ responsesOf events, r.Fits
  · have hnone : ¬ ∃ r ∈ responsesOf events, ¬ r.Fits := by simpa using hfits
    obtain ⟨chunks, stamp', hanswer, -⟩ := opened.answer_of_fits hfits begun
    rw [or_iff_right hnone, hanswer]
    change ((responsesOf events).foldl ChatStream.hearing opened).settled call = _ ↔ _
    rw [ChatStream.settled, opened.usage_foldl_hearing, opened.text_foldl_hearing, husage, htext,
      Option.or_none, String.empty_append]
    cases lastReported? (responsesOf events) with
    | some m => exact iff_of_false nofun nofun
    | none => simpa [estimatedUsage] using Usage.ofCounts_eq_crashed
  · have hsome : ∃ r ∈ responsesOf events, ¬ r.Fits := by simpa using hfits
    obtain ⟨writes, stamp', hanswer⟩ := opened.answer_of_not_fits hsome begun
    rw [hanswer]
    exact iff_of_true rfl (.inl hsome)

theorem handleImage_crashed_iff :
    (handleImage body stamp).1.outcome = .error .crashed ↔ ImageOverflows body := by
  unfold handleImage ImageOverflows
  cases body.whole? with
  | none => exact iff_of_false nofun nofun
  | some octets =>
      dsimp only
      cases hread : decodeBody? predictions octets with
      | none => exact iff_of_false nofun (by simp [hread])
      | some ps =>
          simp only [Option.some.injEq, exists_and_left, exists_eq_left', hread]
          cases ps with
          | nil => exact iff_of_false nofun (by decide)
          | cons p ps =>
              dsimp only
              cases hempty : ((p :: ps).filter Prediction.isKept).isEmpty with
              | true =>
                  simp only [if_true]
                  rw [List.isEmpty_iff.mp hempty]
                  exact iff_of_false nofun (by decide)
              | false =>
                  simp only [Bool.false_eq_true, if_false]
                  change (Handled.after (Usage.mul? _ _ >>= (Usage.ofCounts · 0)) _).outcome = _ ↔ _
                  rw [Handled.outcome_after, bind_eq_crashed, Usage.mul?_eq_crashed]
                  exact or_iff_left fun ⟨tokens, _, h⟩ => Usage.ofCounts_zero_ne_crashed tokens h

theorem handleEmbedding_ne_crashed (call : Call) (body : Body) :
    (handleEmbedding call body).outcome ≠ .error .crashed := by
  intro h
  obtain ⟨f, hf⟩ := (clean_handleEmbedding call body).eq_failed h
  cases hf

theorem nativeUsage_eq_crashed {metadata : Option UsageMetadata} :
    nativeUsage call metadata = .error .crashed ↔ ∃ m ∈ metadata, ¬ m.Fits := by
  cases metadata with
  | none => simpa [nativeUsage] using Usage.ofCounts_zero_ne_crashed call.promptTokens
  | some m => simp [nativeUsage, UsageMetadata.usage_eq_crashed]

theorem handleNative_crashed_iff :
    (handleNative call body).outcome = .error .crashed ↔ NativeOverflows body := by
  unfold handleNative NativeOverflows
  cases body.whole? with
  | none => exact iff_of_false nofun nofun
  | some octets =>
      dsimp only
      cases hread : decodeBody? ChatResponse.decoder octets with
      | none => exact iff_of_false nofun (by simp [hread])
      | some r =>
          rw [Handled.outcome_after, nativeUsage_eq_crashed]
          simp [hread]

theorem forwardNative_eq_crashed (usage : Option Usage) (events : List Sse.Event) :
    (forwardNative usage events).2 = .error .crashed ↔
      ∃ e ∈ events, Text.isBlankText e.data = false ∧
        ∃ m ∈ (responseOf? e.data).bind ChatResponse.usageMetadata, ¬ m.Fits := by
  induction events generalizing usage with
  | nil => exact iff_of_false nofun (by simp)
  | cons e events ih =>
      rw [forwardNative, List.exists_mem_cons_iff]
      cases hblank : Text.isBlankText e.data with
      | true => simpa using ih usage
      | false =>
          dsimp only
          cases (responseOf? e.data).bind ChatResponse.usageMetadata with
          | none => simpa using ih usage
          | some m =>
              by_cases hfits : m.Fits
              · simpa [hfits.usage_eq, Except.map, hfits] using ih (some m.counted)
              · simp [UsageMetadata.usage_eq_crashed.mpr hfits, Except.map, hfits]

theorem head?_writes_handleNativeStream (call : Call) (body : Body) :
    (handleNativeStream call body).writes.head? = some Write.startEvents := by
  unfold handleNativeStream
  cases Sse.read body.octets <;> rfl

theorem handleNativeStream_crashed_iff :
    (handleNativeStream call body).outcome = .error .crashed ↔
      NativeStreamOverflows body ∨ body.IsMarked := by
  unfold handleNativeStream
  by_cases hmark : body.IsMarked
  · rw [body.read_of_isMarked hmark]
    exact iff_of_true rfl (.inr hmark)
  obtain ⟨events, hread⟩ := body.exists_read hmark
  rw [or_iff_left hmark, NativeStreamOverflows, hread]
  simp only [Except.ok.injEq, exists_eq_left']
  rw [← forwardNative_eq_crashed none events]
  rcases forwardNative none events with ⟨writes, outcome⟩
  cases outcome with
  | error halt => simp
  | ok usage? =>
      cases usage? with
      | some usage => exact iff_of_false nofun nofun
      | none =>
          exact iff_of_false (Usage.ofCounts_zero_ne_crashed call.promptTokens) nofun

theorem handle_crashed_iff :
    (handle s call body stamp).1.outcome = .error .crashed ↔
      Overflows s call body ∨ isStreamed s call = true ∧ body.IsMarked := by
  unfold handle Overflows isStreamed
  by_cases hmode : call.mode = .native
  · simp only [hmode, if_true]
    cases call.isStream with
    | true =>
        change (handleNativeStream call body).outcome = _ ↔ _
        simpa using handleNativeStream_crashed_iff
    | false =>
        change (handleNative call body).outcome = _ ↔ _
        simpa using handleNative_crashed_iff
  · simp only [hmode, if_false]
    cases Endpoint.of (addressedModel s call) call with
    | predict => simpa using handleImage_crashed_iff
    | embed =>
        change (handleEmbedding call body).outcome = _ ↔ _
        simpa using handleEmbedding_ne_crashed call body
    | stream => simpa using handleChatStream_crashed_iff
    | generate => simpa using handleChat_crashed_iff

theorem isWhole_handleChat (call : Call) (body : Body) (stamp : Stamp) :
    (handleChat call body stamp).1.IsWhole := by
  unfold handleChat
  cases body.whole? with
  | none => exact Handled.isWhole_fail _
  | some octets =>
      dsimp only
      cases decodeBody? ChatResponse.decoder octets with
      | none => exact Handled.isWhole_fail _
      | some r =>
          dsimp only
          split
          · exact Handled.isWhole_fail _
          · cases husage : r.usage call with
            | error halt => exact ⟨.error halt, fun _ => [], rfl⟩
            | ok usage => exact ⟨.ok usage, fun _ => _, rfl⟩

theorem isWhole_handleImage (body : Body) (stamp : Stamp) :
    (handleImage body stamp).1.IsWhole := by
  unfold handleImage
  cases body.whole? with
  | none => exact Handled.isWhole_fail _
  | some octets =>
      dsimp only
      cases decodeBody? predictions octets with
      | none => exact Handled.isWhole_fail _
      | some ps =>
          cases ps with
          | nil => exact Handled.isWhole_fail _
          | cons p ps =>
              dsimp only
              cases ((p :: ps).filter Prediction.isKept).isEmpty with
              | true => exact Handled.isWhole_fail _
              | false => exact Handled.isWhole_after ..

theorem isWhole_handleNative (call : Call) (body : Body) : (handleNative call body).IsWhole := by
  unfold handleNative
  split
  · exact Handled.isWhole_fail _
  split
  · exact Handled.isWhole_fail _
  · exact Handled.isWhole_after ..

theorem head?_writes_of_crashed (h : (handle s call body stamp).1.outcome = .error .crashed) :
    (handle s call body stamp).1.writes.head? =
      if isStreamed s call then some Write.startEvents else none := by
  unfold handle at h ⊢
  unfold isStreamed
  by_cases hmode : call.mode = .native
  · rw [if_pos hmode] at h ⊢
    rw [if_pos hmode]
    cases hstream : call.isStream with
    | true => exact head?_writes_handleNativeStream call body
    | false =>
        rw [hstream] at h
        exact congrArg List.head? ((isWhole_handleNative call body).writes_of_crashed h)
  · rw [if_neg hmode] at h ⊢
    rw [if_neg hmode]
    cases hendpoint : Endpoint.of (addressedModel s call) call with
    | predict =>
        rw [hendpoint] at h
        exact congrArg List.head? ((isWhole_handleImage body stamp).writes_of_crashed h)
    | embed =>
        rw [hendpoint] at h
        exact absurd h (handleEmbedding_ne_crashed call body)
    | stream =>
        by_cases hmark : body.IsMarked
        · exact congrArg (·.writes.head?) (handleChatStream_of_marked hmark stamp)
        · obtain ⟨events, hread⟩ := body.exists_read hmark
          exact (handleChatStream_ends call hread stamp).1
    | generate =>
        rw [hendpoint] at h
        exact congrArg List.head? ((isWhole_handleChat call body stamp).writes_of_crashed h)

end ModelGateway.Wire.Gemini
