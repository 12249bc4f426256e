import ModelGateway.Proofs.Compatible.Crashes
import ModelGateway.Proofs.Gemini.Crashes
import ModelGateway.Proofs.Health.TestCharges

/-!
# Crashes

A handler crashes exactly if a sum or a product of tokens that it takes is not a count, or if a
stream begins with a byte order mark.  What is read as a whole is lost then, and so is a test; of a
stream the client has the head.
-/

namespace ModelGateway

namespace Wire

/-- Some sum or product of tokens that the handler of a call takes is no count. -/
def Overflows (s : GeminiSettings) (call : Call) (r : HttpResponse) : Prop :=
  match call.wire with
  | .openai | .zhipu => Compatible.Overflows call r
  | .gemini => Gemini.Overflows s call r.body

variable {s : GeminiSettings} {call : Call} {r : HttpResponse} {stamp : Stamp}

theorem handle_crashed_iff :
    (handle s call r stamp).1.outcome = .error .crashed ↔
      Overflows s call r ∨ Marked s call r := by
  unfold handle Overflows Marked isStreamed
  cases call.wire with
  | openai | zhipu => exact Compatible.handle_crashed_iff
  | gemini => exact Gemini.handle_crashed_iff

theorem head?_writes_of_crashed (h : (handle s call r stamp).1.outcome = .error .crashed) :
    (handle s call r stamp).1.writes.head? =
      if isStreamed s call then some Write.startEvents else none := by
  unfold handle at h ⊢
  unfold isStreamed
  cases hwire : call.wire with
  | openai | zhipu =>
      rw [hwire] at h
      exact Compatible.head?_writes_of_crashed h
  | gemini =>
      rw [hwire] at h
      exact Gemini.head?_writes_of_crashed h

end Wire

variable {σ : Type} {s : Settings} {network : Network σ} {w : RelayState σ}

theorem Relay.finish_crashed_iff {g : GeminiSettings} {call : Call}
    {answer : Except RelayFailure HttpResponse} {stamp : Stamp} :
    (finish g call answer stamp).1.outcome = .error .crashed ↔
      ∃ r, answer = .ok r ∧ r.status = 200 ∧
        (Wire.Overflows g call r ∨ Wire.Marked g call r) := by
  simp only [← @Wire.handle_crashed_iff _ _ _ stamp]
  cases answer with
  | error f => exact iff_of_false nofun nofun
  | ok r =>
      by_cases hstatus : r.status = 200
      · rw [finish_of_ok hstatus]
        simp only [hstatus, Except.ok.injEq, exists_eq_left', true_and]
      · rw [finish_of_status hstatus]
        exact iff_of_false nofun fun ⟨r', hr, hstatus', _⟩ =>
          hstatus (Except.ok.inj hr ▸ hstatus')

def Order.Overflows (o : Order) (s : Settings) (network : Network σ) (w : RelayState σ) : Prop :=
  ∃ r, (o.answered s network w).2 = .ok r ∧ r.status = 200 ∧
    Wire.Overflows s.gemini (o.answered s network w).1 r

theorem Order.relayed_crashed_iff {o : Order} :
    (o.relayed s network w).outcome = .error .crashed ↔
      o.Overflows s network w ∨ o.Marked s network w := by
  rw [Order.relayed_eq, Relay.finish_crashed_iff, Order.Overflows, Order.Marked, Relay.Marked]
  simp only [and_or_left, exists_or]

theorem Tester.failure?_eq_none {outcome : Except Halt Usage} :
    failure? outcome = none ↔ outcome = .error .crashed := by
  cases outcome with
  | ok usage => exact iff_of_false nofun nofun
  | error halt => cases halt <;> simp [failure?]

theorem Tester.probe_lost_iff {channel : Channel} {requested : Option String} {kind : TestKind}
    {elapsedNanos : Nat} :
    (probe s network elapsedNanos channel requested kind w).1.result = none ↔
      ∃ o, order s channel (TestRequest.modelFor channel requested) kind = .ok o ∧
        o.Overflows s network w := by
  cases h : order s channel (TestRequest.modelFor channel requested) kind with
  | error f =>
      rw [probe_of_refused h]
      exact iff_of_false (Option.some_ne_none _) fun ⟨_, ho, _⟩ => nomatch ho
  | ok o =>
      have hmark : ¬ o.Marked s network w := not_marked (order_eq_ok h).2.isStream_eq
      rw [probe_of_order h]
      change (failure? (o.relayed s network w).outcome).map _ = none ↔ _
      rw [Option.map_eq_none_iff, failure?_eq_none, Order.relayed_crashed_iff, or_iff_left hmark]
      simp

/-- A handler crashes exactly if a sum of its answer overflows or its answer is a stream that begins
with a byte order mark.  So does an order, and a test is lost exactly if its answer overflows. -/
theorem Relay.crashes_iff_overflows (s : Settings) (network : Network σ) (w : RelayState σ) :
    (∀ call r stamp,
      let handled := (Wire.handle s.gemini call r stamp).1
      (handled.outcome = .error .crashed ↔
        Wire.Overflows s.gemini call r ∨ Wire.Marked s.gemini call r) ∧
      (handled.outcome = .error .crashed →
        handled.writes.head? =
          if Wire.isStreamed s.gemini call then some Write.startEvents else none)) ∧
    (∀ o : Order, (o.relayed s network w).outcome = .error .crashed ↔
      o.Overflows s network w ∨ o.Marked s network w) ∧
    (∀ channel requested kind elapsedNanos,
      (Tester.probe s network elapsedNanos channel requested kind w).1.result = none ↔
        ∃ o, Tester.order s channel (TestRequest.modelFor channel requested) kind = .ok o ∧
          o.Overflows s network w) :=
  ⟨fun _ _ _ => ⟨Wire.handle_crashed_iff, Wire.head?_writes_of_crashed⟩,
    fun _ => Order.relayed_crashed_iff, fun _ _ _ _ => Tester.probe_lost_iff⟩

/-- The sum of the reported counts is taken although the total is reported with them. -/
theorem Relay.reported_total_crashes :
    let chat (isStream : Bool) : Call := {
      channelId := 1, provider := .openai, wire := .openai, requestedModel := "gpt-4o"
      providerModel := "gpt-4o", isStream, mode := .chat, baseUrl := "", apiKey := "k"
      group := "default", promptTokens := 3, includeUsage := false, cacheWriteTokens := 0
      timeoutMs := 5000 }
    let answer := Json.obj [
      ("choices", .arr [.obj [("message", .obj [("content", .str "Hi")])]]),
      ("usage", .obj [("prompt_tokens", .nat 4294967295), ("completion_tokens", .nat 1),
        ("total_tokens", .nat 7)])]
    let whole := (Wire.handle {} (chat false) ⟨200, none, ⟨answer.bytes, false⟩⟩ ⟨0, 0⟩).1
    let stream :=
      (Wire.handle {} (chat true) ⟨200, none, ⟨Sse.framing [answer.text], false⟩⟩ ⟨0, 0⟩).1
    whole.outcome = .error .crashed ∧ whole.writes = [] ∧
      stream.outcome = .error .crashed ∧ stream.writes = [Write.startEvents] := by
  decide +kernel

end ModelGateway
