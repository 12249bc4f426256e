import ModelGateway.Proofs.Relay.Overflow

/-!
# Crashes on the compatible wire

The sum of the counts that an answer reports is taken even where a total is reported as well, and
that of an estimate where nothing is reported.  Speech costs no more than its prompt.
-/

namespace ModelGateway.Wire.Compatible

/-- The counts that a whole answer reports, or those of its estimate, do not add up to 32 bits. -/
def JsonOverflows (call : Call) (body : Body) : Prop :=
  ∃ octets response, body.whole? = some octets ∧ Json.read? octets = some response ∧
    errorObject? response = none ∧
    (UInt32.size ≤ Usage.reportedSum response ∨
      Usage.ofResponse? response = .ok none ∧
        UInt32.size ≤ call.promptTokens.toNat + (Tokens.count (answerTexts response)).toNat)

def StreamOverflows (call : Call) (body : Body) : Prop :=
  ∃ events, Sse.read body.octets = .ok events ∧
    ((∃ data ∈ dataOf events, ¬ CountsFit data) ∨
      lastReported? events = none ∧
        UInt32.size ≤ call.promptTokens.toNat + (Tokens.count [textOf events]).toNat)

def Overflows (call : Call) (r : HttpResponse) : Prop :=
  match call.mode with
  | .chat => if call.isStream then StreamOverflows call r.body else JsonOverflows call r.body
  | .speech => False
  | .embeddings | .images | .rerank | .native => JsonOverflows call r.body

variable {call : Call} {body : Body}

theorem usageOf_eq_crashed {response : Json} :
    usageOf call response = .error .crashed ↔
      UInt32.size ≤ Usage.reportedSum response ∨
        Usage.ofResponse? response = .ok none ∧
          UInt32.size ≤ call.promptTokens.toNat + (Tokens.count (answerTexts response)).toNat := by
  have htexts : (firstChoiceText? "message" response).elim [] ([·]) = answerTexts response := by
    unfold answerTexts
    cases firstChoiceText? "message" response <;> rfl
  rw [usageOf, bind_eq_crashed, Usage.ofResponse?_eq_crashed, htexts]
  refine or_congr_right ⟨fun ⟨usage?, husage, h⟩ => ?_, fun ⟨husage, h⟩ => ⟨none, husage, ?_⟩⟩
  · cases usage? with
    | none => exact ⟨husage, Usage.ofCounts_eq_crashed.mp h⟩
    | some usage => cases h
  · exact Usage.ofCounts_eq_crashed.mpr h

theorem handleJson_crashed_iff :
    (handleJson call body).outcome = .error .crashed ↔ JsonOverflows call body := by
  unfold handleJson JsonOverflows
  cases hwhole : body.whole? with
  | none => exact iff_of_false nofun nofun
  | some octets =>
      dsimp only
      cases hread : Json.read? octets with
      | none => exact iff_of_false nofun (by simp [hread])
      | some response =>
          dsimp only
          cases herror : errorObject? response with
          | some message => exact iff_of_false nofun (by simp [hread, herror])
          | none =>
              rw [Handled.outcome_after, usageOf_eq_crashed]
              simp [hread, herror]

theorem isWhole_handleJson (call : Call) (body : Body) : (handleJson call body).IsWhole := by
  unfold handleJson
  split
  · exact Handled.isWhole_fail _
  split
  · exact Handled.isWhole_fail _
  split
  · exact Handled.isWhole_fail _
  · exact Handled.isWhole_after ..

theorem observe_of_not_countsFit (s : StreamState) {data : String} (h : ¬ CountsFit data) :
    observe call s data = .error .crashed := by
  obtain ⟨chunk, hchunk, hlarge⟩ :
      ∃ chunk ∈ Json.readText? data, UInt32.size ≤ Usage.reportedSum chunk := by
    simpa [CountsFit] using h
  unfold observe
  rw [Option.mem_def.mp hchunk]
  dsimp only
  rw [bind_eq_crashed]
  exact .inl (Usage.ofResponse?_eq_crashed.mpr hlarge)

theorem forward_eq_crashed (s : StreamState) (events : List Sse.Event) :
    (forward call s events).2 = .error .crashed ↔ ∃ data ∈ dataOf events, ¬ CountsFit data := by
  induction events generalizing s with
  | nil => simp [forward, dataOf]
  | cons e events ih =>
      rw [forward, dataOf_cons]
      dsimp only
      split
      · exact ih s
      split
      · simp
      by_cases hfits : CountsFit (Text.trim e.data)
      · rw [observe_of_countsFit call s hfits]
        simp [ih, hfits]
      · rw [observe_of_not_countsFit s hfits]
        exact iff_of_true rfl ⟨_, List.mem_cons_self, hfits⟩

theorem handleStream_crashed_iff :
    (handleStream call body).outcome = .error .crashed ↔
      StreamOverflows call body ∨ body.IsMarked := by
  by_cases hmark : body.IsMarked
  · rw [handleStream_of_marked call hmark]
    exact iff_of_true rfl (.inr hmark)
  obtain ⟨events, hread⟩ := body.exists_read hmark
  rw [or_iff_left hmark, StreamOverflows]
  simp only [hread, Except.ok.injEq, exists_eq_left']
  by_cases hcounts : ∀ data ∈ dataOf events, CountsFit data
  · have hnone : ¬ ∃ data ∈ dataOf events, ¬ CountsFit data := by simpa using hcounts
    rw [or_iff_right hnone, outcome_handleStream call body hread hcounts]
    cases lastReported? events with
    | some usage => exact iff_of_false nofun nofun
    | none => simpa using Usage.ofCounts_eq_crashed
  · have hsome : ∃ data ∈ dataOf events, ¬ CountsFit data := by simpa using hcounts
    have hcrashed : (forward call {} events).2 = .error .crashed :=
      (forward_eq_crashed {} events).mpr hsome
    refine iff_of_true ?_ (.inl hsome)
    rw [handleStream, hread]
    dsimp only
    rcases hforward : forward call {} events with ⟨writes, outcome⟩
    rw [hforward] at hcrashed
    subst hcrashed
    rfl

theorem head?_writes_handleStream (call : Call) (body : Body) :
    (handleStream call body).writes.head? = some Write.startEvents := by
  unfold handleStream
  cases Sse.read body.octets with
  | error h => rfl
  | ok events =>
      dsimp only
      rcases forward call {} events with ⟨writes, outcome⟩
      cases outcome <;> rfl

theorem handleBinary_ne_crashed (call : Call) (r : HttpResponse) :
    (handleBinary call r).outcome ≠ .error .crashed := by
  intro h
  obtain ⟨f, hf⟩ := (clean_handleBinary call r).eq_failed h
  cases hf

theorem handle_crashed_iff {r : HttpResponse} :
    (handle call r).outcome = .error .crashed ↔
      Overflows call r ∨ isStreamed call = true ∧ r.body.IsMarked := by
  unfold handle Overflows isStreamed
  cases call.mode with
  | chat =>
      cases call.isStream with
      | true => simpa using handleStream_crashed_iff
      | false => simpa using handleJson_crashed_iff
  | speech => simpa using handleBinary_ne_crashed call r
  | embeddings | images | rerank | native => simpa using handleJson_crashed_iff

theorem head?_writes_of_crashed {r : HttpResponse} (h : (handle call r).outcome = .error .crashed) :
    (handle call r).writes.head? = if isStreamed call then some Write.startEvents else none := by
  unfold handle at h ⊢
  unfold isStreamed
  cases hmode : call.mode with
  | chat =>
      rw [hmode] at h
      cases hstream : call.isStream with
      | true => exact head?_writes_handleStream call r.body
      | false =>
          rw [hstream] at h
          exact congrArg List.head? ((isWhole_handleJson call r.body).writes_of_crashed h)
  | speech =>
      rw [hmode] at h
      exact absurd h (handleBinary_ne_crashed call r)
  | embeddings | images | rerank | native =>
      rw [hmode] at h
      exact congrArg List.head? ((isWhole_handleJson call r.body).writes_of_crashed h)

end ModelGateway.Wire.Compatible
