import ModelGateway.Proofs.Gemini.Agreement
import ModelGateway.Proofs.Gemini.Prompts
import ModelGateway.Relay.Pipeline

/-!
# The two halves of a round

A round of a call first gets an answer and then handles it.  On the way tokens are counted, and
nothing else of the call changes.
-/

namespace ModelGateway

namespace Relay

variable {σ : Type}

/-- The first half of a round: the call as it is sent, and the answer to it. -/
def answered (services : Services σ) (call : Call) (request : Request) :
    StateM σ (Call × Except RelayFailure HttpResponse) :=
  match Wire.convert services.gemini call request with
  | .error f => pure (call, .error f)
  | .ok (body, call) => do
    let (body, call) ← prepare services call body
    return (call, ← send services call body)

theorem once_eq (services : Services σ) (call : Call) (request : Request) (s : σ) (stamp : Stamp) :
    once services call request (s, stamp) =
      let ((call, answer), s) := answered services call request s
      let (relayed, stamp) := finish services.gemini call answer stamp
      (relayed, s, stamp) := by
  unfold once answered
  cases Wire.convert services.gemini call request with
  | error f => rfl
  | ok converted => rfl

theorem finish_of_status {g : GeminiSettings} {call : Call} {stamp : Stamp} {r : HttpResponse}
    (h : r.status ≠ 200) : (finish g call (.ok r) stamp).1 = fail call (statusFailure r) := by
  simp only [finish, h, ne_eq, not_false_eq_true, if_true]
  rfl

theorem finish_of_ok {g : GeminiSettings} {call : Call} {stamp : Stamp} {r : HttpResponse}
    (h : r.status = 200) :
    (finish g call (.ok r) stamp).1 =
      ⟨call, (Wire.handle g call r stamp).1.writes, (Wire.handle g call r stamp).1.outcome⟩ := by
  simp only [finish, h, ne_eq, not_true_eq_false, if_false]
  rfl

theorem call_finish (g : GeminiSettings) (call : Call)
    (answer : Except RelayFailure HttpResponse) (stamp : Stamp) :
    (finish g call answer stamp).1.call = call := by
  cases answer with
  | error f => rfl
  | ok r =>
      by_cases hstatus : r.status = 200
      · rw [finish_of_ok hstatus]
      · rw [finish_of_status hstatus]
        rfl

end Relay

/-- The calls differ in no more than the tokens that were counted. -/
def Call.Recounts (call call' : Call) : Prop :=
  ∃ prompt written, call' = { call with promptTokens := prompt, cacheWriteTokens := written }

namespace Call.Recounts

theorem refl (call : Call) : call.Recounts call := ⟨_, _, rfl⟩

theorem trans {call call' call'' : Call} (h : call.Recounts call') (h' : call'.Recounts call'') :
    call.Recounts call'' := by
  obtain ⟨_, _, rfl⟩ := h
  obtain ⟨_, _, rfl⟩ := h'
  exact ⟨_, _, rfl⟩

end Call.Recounts

namespace Wire

variable {s : GeminiSettings} {call call' : Call} {request : Request} {body : Json}

theorem Compatible.recounts_convert
    (h : Compatible.convert call request = .ok (body, call')) : call.Recounts call' := by
  cases request with
  | embedding r =>
      simp only [Compatible.convert] at h
      split at h
      · cases h
      · obtain ⟨-, rfl⟩ := Prod.mk.inj (Except.ok.inj h)
        exact ⟨_, _, rfl⟩
  | native body => cases h
  | chat r | image r | rerank r | speech r =>
      obtain ⟨-, rfl⟩ := Prod.mk.inj (Except.ok.inj h)
      exact ⟨_, _, rfl⟩

def Zhipu.adapted : Request → Request
  | .chat r => .chat (adapt r)
  | other => other

theorem Zhipu.convert_eq (call : Call) (request : Request) :
    Zhipu.convert call request = Compatible.convert call (adapted request) := by
  cases request <;> rfl

theorem Gemini.recounts_convert (h : Gemini.convert s call request = .ok (body, call')) :
    call.Recounts call' := by
  obtain ⟨-, n, rfl⟩ := Gemini.shape_of_convert h
  exact ⟨_, _, rfl⟩

theorem recounts_convert (h : convert s call request = .ok (body, call')) :
    call.Recounts call' := by
  unfold convert at h
  cases hwire : call.wire with
  | openai => exact Compatible.recounts_convert (by simpa [hwire] using h)
  | zhipu =>
      rw [hwire] at h
      exact Compatible.recounts_convert ((Zhipu.convert_eq call request).symm.trans h)
  | gemini => exact Gemini.recounts_convert (by simpa [hwire] using h)

variable {σ : Type}

theorem Gemini.recounts_prepare (g : GeminiSettings)
    (cache : Option (PromptCacheSettings × PromptCache.Store σ)) (network : Network σ)
    (call : Call) (body : Json) (w : σ) :
    call.Recounts (Gemini.prepare g cache network call body w).1.2 := by
  cases cache with
  | none => exact .refl call
  | some cache =>
      obtain ⟨settings, store⟩ := cache
      rcases prepare_cases g settings store network call body w with
        hkept | ⟨-, b, outcome, -, -, -, hsplit⟩
      · rw [hkept]
        exact .refl call
      · rw [hsplit]
        dsimp only
        split
        · exact ⟨_, _, rfl⟩
        · exact .refl call

end Wire

namespace Relay

variable {σ : Type}

theorem recounts_prepare (services : Services σ) (call : Call) (body : Json) (s : σ) :
    call.Recounts (prepare services call body s).1.2 := by
  unfold prepare
  cases call.wire with
  | gemini => exact Wire.Gemini.recounts_prepare _ _ _ _ _ _
  | openai | zhipu => exact .refl call

theorem recounts_answered (services : Services σ) (call : Call) (request : Request) (s : σ) :
    call.Recounts (answered services call request s).1.1 := by
  unfold answered
  cases h : Wire.convert services.gemini call request with
  | error f => exact .refl call
  | ok converted =>
      obtain ⟨body, call'⟩ := converted
      exact (Wire.recounts_convert h).trans (recounts_prepare services call' body s)

end Relay

end ModelGateway
