import Mathlib.Algebra.GroupWithZero.Nat
import Mathlib.Data.List.Induction
import ModelGateway.Proofs.Chat.Merging
import ModelGateway.Proofs.Gemini.Stream

/-!
# Calls in a stream

The calls of every response are numbered from zero.  A client that tells calls apart by their
indices therefore has all calls of a stream only if no two responses have calls, and the finish
reason of calls only if no finish reason comes later.
-/

namespace ModelGateway.Wire.Gemini

open Client

/-! ## Calls -/

def Candidate.functions (c : Candidate) : List (String × String) :=
  c.calls.map fun f => (f.name, f.args.text)

theorem Candidate.functions_heard (c : Candidate) (index : Nat) :
    Client.functions (c.heard index).calls = c.functions := by
  have hcalls : c.functions = (c.calls.zipIdx.map Prod.fst).map fun f => (f.name, f.args.text) := by
    rw [List.zipIdx_map_fst]
    rfl
  rw [hcalls, List.map_map, Client.functions, Candidate.heard, List.map_map]
  rfl

theorem Candidate.numbered_heard (c : Candidate) (index : Nat) :
    NumberedFrom 0 (c.heard index).calls := by
  have hlength : (c.heard index).calls.length = c.calls.length := by
    simp [Candidate.heard]
  rw [NumberedFrom, hlength, ← List.zipIdx_map_snd 0 c.calls, indices, Candidate.heard,
    List.map_map, List.map_map]
  rfl

def hear (a : Answer) (c : Candidate) : Answer :=
  a.add (c.heard 0)

variable {a : Answer}

theorem numbered_hear (h : NumberedFrom 0 a.calls) (c : Candidate) :
    NumberedFrom 0 (hear a c).calls ∧
      (hear a c).calls.length = max a.calls.length c.calls.length := by
  have hlength : (c.heard 0).calls.length = c.calls.length := by simp [Candidate.heard]
  obtain ⟨hnumbered, hmax⟩ := h.foldl_mergeCall (c.numbered_heard 0) (Nat.zero_le _)
  refine ⟨hnumbered, hmax.trans ?_⟩
  rw [hlength, Nat.zero_add]

theorem length_foldl_hear_le (h : NumberedFrom 0 a.calls) (cs : List Candidate) :
    (cs.foldl hear a).calls.length ≤ a.calls.length + (cs.map (·.calls.length)).sum := by
  induction cs generalizing a with
  | nil => exact Nat.le_refl _
  | cons c cs ih =>
      obtain ⟨hnumbered, hmax⟩ := numbered_hear h c
      have hlater := ih hnumbered
      rw [List.foldl_cons, List.map_cons, List.sum_cons]
      omega

theorem pairwise_of_length_foldl_hear (h : NumberedFrom 0 a.calls) {cs : List Candidate}
    (hall : (cs.foldl hear a).calls.length = a.calls.length + (cs.map (·.calls.length)).sum) :
    (a.calls ≠ [] → ∀ c ∈ cs, c.calls = []) ∧
      cs.Pairwise fun c later => c.calls ≠ [] → later.calls = [] := by
  induction cs generalizing a with
  | nil => exact ⟨fun _ => nofun, .nil⟩
  | cons c cs ih =>
      obtain ⟨hnumbered, hmax⟩ := numbered_hear h c
      have hle := length_foldl_hear_le hnumbered cs
      rw [List.foldl_cons, List.map_cons, List.sum_cons] at hall
      obtain ⟨hnone, hpairwise⟩ := ih hnumbered (by omega)
      have hhere : a.calls = [] ∨ c.calls = [] := by
        rw [← List.length_eq_zero_iff, ← List.length_eq_zero_iff]
        omega
      have hnonempty {calls : List HeardCall} (hne : 0 < calls.length) : calls ≠ [] :=
        List.ne_nil_of_length_pos hne
      refine ⟨fun hne => ?_, List.pairwise_cons.mpr ⟨fun later hlater hne => ?_, hpairwise⟩⟩
      · have hpos := List.length_pos_of_ne_nil hne
        exact List.forall_mem_cons.mpr
          ⟨hhere.resolve_left hne, hnone (hnonempty (by omega))⟩
      · have hpos := List.length_pos_of_ne_nil hne
        exact hnone (hnonempty (by omega)) later hlater

theorem functions_foldl_hear (h : NumberedFrom 0 a.calls) {cs : List Candidate}
    (hbefore : a.calls ≠ [] → ∀ c ∈ cs, c.calls = [])
    (hpairwise : cs.Pairwise fun c later => c.calls ≠ [] → later.calls = []) :
    Client.functions (cs.foldl hear a).calls =
      Client.functions a.calls ++ cs.flatMap Candidate.functions := by
  induction cs generalizing a with
  | nil => exact (List.append_nil _).symm
  | cons c cs ih =>
      obtain ⟨hlater, hrest⟩ := List.pairwise_cons.mp hpairwise
      obtain ⟨hnumbered, hmax⟩ := numbered_hear h c
      have hhere : Client.functions (hear a c).calls = Client.functions a.calls ++ c.functions := by
        by_cases hnil : a.calls = []
        · have hnodup := (c.numbered_heard 0).nodup
          have hcalls : (hear a c).calls = (c.heard 0).calls := by
            rw [hear, Answer.add, hnil]
            exact foldl_mergeCall_of_nodup hnodup
          rw [hcalls, hnil, c.functions_heard]
          rfl
        · have hc := hbefore hnil c List.mem_cons_self
          have hcalls : (hear a c).calls = a.calls := by
            simp [hear, Answer.add, Candidate.heard, hc]
          rw [hcalls, Candidate.functions, hc]
          exact (List.append_nil _).symm
      rw [List.foldl_cons, ih hnumbered _ hrest, hhere, List.flatMap_cons, List.append_assoc]
      intro hne
      by_cases hnil : a.calls = []
      · have hpos := List.length_pos_of_ne_nil hne
        rw [hmax, hnil, List.length_nil, Nat.zero_max] at hpos
        exact fun later hmem => hlater later hmem (List.ne_nil_of_length_pos hpos)
      · exact fun later hmem => hbefore hnil later (List.mem_cons_of_mem c hmem)

theorem length_functions (cs : List Candidate) :
    (cs.flatMap Candidate.functions).length = (cs.map (·.calls.length)).sum := by
  simp [List.length_flatMap, Candidate.functions]

theorem functions_answer_iff (cs : List Candidate) :
    Client.functions (cs.foldl hear {}).calls = cs.flatMap Candidate.functions ↔
      cs.Pairwise fun c later => c.calls ≠ [] → later.calls = [] := by
  have hempty : NumberedFrom 0 ({} : Answer).calls := rfl
  constructor
  · intro h
    have hlength := congrArg List.length h
    rw [length_functions, Client.functions, List.length_map] at hlength
    exact (pairwise_of_length_foldl_hear hempty (hlength.trans (Nat.zero_add _).symm)).2
  · exact fun h => functions_foldl_hear hempty (absurd rfl) h

def Candidate.finish? (c : Candidate) : Option String :=
  finishReason? c.finishReason !c.calls.isEmpty

theorem finish_foldl_hear (cs : List Candidate) :
    (cs.foldl hear a).finish = ((cs.filterMap Candidate.finish?).getLast?).or a.finish := by
  induction cs generalizing a with
  | nil => rfl
  | cons c cs ih =>
      have hhere : (hear a c).finish = c.finish?.or a.finish := rfl
      rw [List.foldl_cons, ih, hhere, List.filterMap_cons]
      cases c.finish? with
      | none => rfl
      | some reason =>
          rw [List.getLast?_cons]
          cases (cs.filterMap Candidate.finish?).getLast? <;> rfl

theorem finishReason?_ne_toolCalls (reason : Option String) :
    finishReason? reason false ≠ some "tool_calls" := by
  cases reason with
  | none => nofun
  | some reason =>
      intro h
      have hreason := Option.some.inj h
      dsimp only at hreason
      split at hreason <;> exact absurd hreason (by decide)

theorem pairwise_of_no_calls {cs : List Candidate} (h : ∀ c ∈ cs, c.calls = [])
    (P : Candidate → Prop) : cs.Pairwise fun c later => c.calls ≠ [] → P later :=
  List.pairwise_of_forall_mem_list fun c hc _ _ hne => absurd (h c hc) hne

theorem finish_answer_iff {cs : List Candidate}
    (hcalls : cs.Pairwise fun c later => c.calls ≠ [] → later.calls = []) :
    (cs.filterMap Candidate.finish?).getLast? =
        finishReason? (cs.filterMap Candidate.finishReason).getLast?
          (cs.any fun c => !c.calls.isEmpty) ↔
      cs.Pairwise fun c later => c.calls ≠ [] → later.finishReason = none := by
  induction cs using List.reverseRecOn with
  | nil => simp [finishReason?]
  | append_singleton cs c ih =>
      obtain ⟨hbefore, -, hlast⟩ := List.pairwise_append.mp hcalls
      have hpairwise : ((cs ++ [c]).Pairwise fun c later =>
          c.calls ≠ [] → later.finishReason = none) ↔
          (cs.Pairwise fun c later => c.calls ≠ [] → later.finishReason = none) ∧
            ∀ b ∈ cs, b.calls ≠ [] → c.finishReason = none := by
        simp [List.pairwise_append]
      rw [hpairwise, List.filterMap_append, List.filterMap_append, List.any_append]
      by_cases hnil : c.calls = []
      · have hfinish : c.finish? = finishReason? c.finishReason false := by
          rw [Candidate.finish?, hnil]
          rfl
        have hany : ([c].any fun c => !c.calls.isEmpty) = false := by simp [hnil]
        cases hreason : c.finishReason with
        | none =>
            have hnone : c.finish? = none := by rw [hfinish, hreason]; rfl
            simpa [hnone, hreason, hnil] using ih hbefore
        | some reason =>
            obtain ⟨given, hgiven⟩ : ∃ given, finishReason? (some reason) false = some given :=
              ⟨_, rfl⟩
            have hsome : c.finish? = some given := by rw [hfinish, hreason, hgiven]
            have hleft : (cs.filterMap Candidate.finish? ++
                [c].filterMap Candidate.finish?).getLast? = some given := by simp [hsome]
            have hright : (cs.filterMap Candidate.finishReason ++
                [c].filterMap Candidate.finishReason).getLast? = some reason := by simp [hreason]
            rw [hleft, hright, hany, Bool.or_false]
            cases hcs : cs.any fun c => !c.calls.isEmpty with
            | false =>
                have hnone : ∀ b ∈ cs, b.calls = [] := by simpa using hcs
                exact iff_of_true hgiven.symm ⟨pairwise_of_no_calls hnone _,
                  fun b hb hne => absurd (hnone b hb) hne⟩
            | true =>
                obtain ⟨b, hb, hne⟩ : ∃ b ∈ cs, b.calls ≠ [] := by simpa using hcs
                refine iff_of_false (fun h => ?_) fun h => Option.some_ne_none reason (h.2 b hb hne)
                exact finishReason?_ne_toolCalls (some reason) (hgiven.trans h)
      · have hnone : ∀ b ∈ cs, b.calls = [] := fun b hb =>
          of_not_not fun hne => hnil (hlast b hb c (List.mem_singleton_self c) hne)
        have hsome : c.finish? = some "tool_calls" := by
          simp [Candidate.finish?, finishReason?, hnil]
        have hleft : (cs.filterMap Candidate.finish? ++ [c].filterMap Candidate.finish?).getLast? =
            some "tool_calls" := by simp [hsome]
        have hany : ([c].any fun c => !c.calls.isEmpty) = true := by simp [hnil]
        rw [hleft, hany, Bool.or_true]
        exact iff_of_true rfl ⟨pairwise_of_no_calls hnone _,
          fun b hb hne => absurd (hnone b hb) hne⟩

/-- No candidate after one with calls has calls or a finish reason. -/
def CallsLast (cs : List Candidate) : Prop :=
  cs.Pairwise fun c later => c.calls ≠ [] → later.calls = [] ∧ later.finishReason = none

instance : DecidablePred CallsLast := fun cs =>
  inferInstanceAs (Decidable (cs.Pairwise _))

/-- One candidate with all parts and the last finish reason of others. -/
structure Candidate.Gathers (whole : Candidate) (cs : List Candidate) : Prop where
  parts : whole.parts = cs.flatMap Candidate.parts
  finishReason : whole.finishReason = (cs.filterMap Candidate.finishReason).getLast?

variable {whole : Candidate} {cs : List Candidate}

theorem Candidate.Gathers.calls (h : whole.Gathers cs) :
    whole.calls = cs.flatMap Candidate.calls := by
  rw [Candidate.calls, h.parts, List.filterMap_flatMap]
  rfl

theorem Candidate.Gathers.functions (h : whole.Gathers cs) :
    whole.functions = cs.flatMap Candidate.functions := by
  rw [Candidate.functions, h.calls, List.map_flatMap]
  rfl

theorem Candidate.Gathers.finish? (h : whole.Gathers cs) :
    whole.finish? = finishReason? (cs.filterMap Candidate.finishReason).getLast?
      (cs.any fun c => !c.calls.isEmpty) := by
  have hcalls : (!whole.calls.isEmpty) = cs.any fun c => !c.calls.isEmpty := by
    rw [Bool.eq_iff_iff, h.calls]
    simp
  rw [Candidate.finish?, h.finishReason, hcalls]

/-- What a client gathers of candidates is what it hears of one that gathers them if and only if
calls come last. -/
theorem Candidate.Gathers.answer_iff (h : whole.Gathers cs) :
    Client.functions (cs.foldl hear {}).calls = whole.functions ∧
        (cs.foldl hear {}).finish = whole.finish? ↔ CallsLast cs := by
  have hfinish : (cs.foldl hear {}).finish = (cs.filterMap Candidate.finish?).getLast? := by
    rw [finish_foldl_hear, Option.or_none]
  have hsplit : CallsLast cs ↔ (cs.Pairwise fun c later => c.calls ≠ [] → later.calls = []) ∧
      cs.Pairwise fun c later => c.calls ≠ [] → later.finishReason = none := by
    rw [CallsLast, ← List.pairwise_and_iff]
    simp only [imp_and]
  rw [h.functions, h.finish?, hfinish, functions_answer_iff, hsplit]
  exact and_congr_right finish_answer_iff

/-! ## What a client ends up with -/

def candidatesOf (responses : List ChatResponse) : List Candidate :=
  responses.flatMap ChatResponse.candidates

theorem map_snd_placed (responses : List ChatResponse) :
    (responses.flatMap ChatResponse.placed).map Prod.snd = candidatesOf responses := by
  rw [List.map_flatMap, candidatesOf]
  refine congrArg responses.flatMap (funext fun r => ?_)
  rw [ChatResponse.placed, List.map_map]
  exact List.zipIdx_map_fst 0 r.candidates

theorem gather_eq {chunks : List Json} {responses : List ChatResponse}
    (h : (chunks.flatMap (heardIn "delta")).map Heard.anonymous =
      (responses.flatMap ChatResponse.placed).map fun (index, c) => c.heard index) :
    functions (gather chunks).calls = functions ((candidatesOf responses).foldl hear {}).calls ∧
      (gather chunks).finish = ((candidatesOf responses).foldl hear {}).finish := by
  have hgather : (gather chunks).anonymous = (candidatesOf responses).foldl hear {} := by
    rw [gather, anonymous_foldl_add, h, List.foldl_map, ← map_snd_placed, List.foldl_map]
    rfl
  rw [← hgather]
  exact ⟨(functions_anonymous _).symm, rfl⟩

section

variable (call : Call) (body wholeBody : Body) {events : List Sse.Event} {octets : Bytes}
  {r : ChatResponse} {usage : Usage}

theorem exists_gathered
    (hread : Sse.read body.octets = .ok events) (hfits : ∀ r ∈ responsesOf events, r.Fits)
    (hestimate : lastReported? (responsesOf events) = none →
      call.promptTokens.toNat + Tokens.ofText (visibleText (responsesOf events)) < UInt32.size)
    (hwhole : wholeBody.whole? = some octets)
    (hr : decodeBody? ChatResponse.decoder octets = some r) (hone : r.candidates = [whole])
    (husage : r.usage call = .ok usage) (stamp wholeStamp : Stamp) :
    ∃ (chunks : List Json) (completion : Json) (heard : Heard),
      Sse.read (Buffer.ofWrites ((handleChatStream call body).run stamp).1.writes).body =
        .ok (chunks.map (.ofData ·.text) ++ [.done]) ∧
      ((handleChat call wholeBody).run wholeStamp).1.writes = Write.json 200 completion ∧
      heardIn "message" completion = [heard] ∧
      functions (gather chunks).calls =
        functions ((candidatesOf (responsesOf events)).foldl hear {}).calls ∧
      (gather chunks).finish = ((candidatesOf (responsesOf events)).foldl hear {}).finish ∧
      functions heard.calls = whole.functions ∧ heard.finish = whole.finish? := by
  rw [lastReported?_eq, visibleText_eq, Tokens.ofText_eq] at hestimate
  obtain ⟨streamed, hstreamed, -, -⟩ := exists_usage call hestimate
  rw [← lastReported?_eq, ← visibleText_eq] at hstreamed
  obtain ⟨chunks, s, stamp', hhandled, hvoices⟩ :=
    handleChatStream_eq call body hread hfits hstreamed stamp
  obtain ⟨c, hc, hchoices, -⟩ :=
    handleChat_eq call wholeBody hwhole hr (hone ▸ List.cons_ne_nil whole []) husage wholeStamp
  obtain ⟨choice, hchoice, hanswer⟩ : ∃ choice, c.choices = [choice] ∧
      choice.heard.answer = (whole.heard (whole.index.getD 0)).answer := by
    rw [r.heard_eq, hone] at hchoices
    exact List.map_eq_singleton_iff.mp hchoices
  obtain ⟨hcalls, hfinish⟩ := @gather_eq ((chunks ++ s.tails call streamed).map Chunk.json)
    (responsesOf events) (by
      rw [List.map_append, List.flatMap_append, flatMap_heardIn_tails, List.append_nil,
        heard_spoken (heard_of_voices hvoices)])
  refine ⟨(chunks ++ s.tails call streamed).map Chunk.json, c.json, choice.heard, ?_, ?_, ?_,
    hcalls, hfinish, ?_, congrArg Heard.finish hanswer⟩
  · rw [hhandled]
    exact read_chunks _
  · rw [hc]
  · rw [heardIn_completion, hchoice]
    rfl
  · rw [← functions_answer, hanswer, functions_answer, whole.functions_heard]

/-- A client has the same calls and finish reason of a stream as of one response with all its parts
exactly if calls come last in the stream. -/
theorem gather_agrees_iff_callsLast
    (hread : Sse.read body.octets = .ok events) (hfits : ∀ r ∈ responsesOf events, r.Fits)
    (hestimate : lastReported? (responsesOf events) = none →
      call.promptTokens.toNat + Tokens.ofText (visibleText (responsesOf events)) < UInt32.size)
    (hwhole : wholeBody.whole? = some octets)
    (hr : decodeBody? ChatResponse.decoder octets = some r) (hone : r.candidates = [whole])
    (hgathers : whole.Gathers (candidatesOf (responsesOf events)))
    (husage : r.usage call = .ok usage) (stamp wholeStamp : Stamp) :
    ∃ (chunks : List Json) (completion : Json) (heard : Heard),
      Sse.read (Buffer.ofWrites ((handleChatStream call body).run stamp).1.writes).body =
        .ok (chunks.map (.ofData ·.text) ++ [.done]) ∧
      ((handleChat call wholeBody).run wholeStamp).1.writes = Write.json 200 completion ∧
      heardIn "message" completion = [heard] ∧
      (functions (gather chunks).calls = functions heard.calls ∧
        (gather chunks).finish = heard.finish ↔ CallsLast (candidatesOf (responsesOf events))) := by
  obtain ⟨chunks, completion, heard, hstream, hanswer, hheard, hgathered, hlast, hcalls, hfinish⟩ :=
    exists_gathered call body wholeBody hread hfits hestimate hwhole hr hone husage stamp wholeStamp
  refine ⟨chunks, completion, heard, hstream, hanswer, hheard, ?_⟩
  rw [hgathered, hlast, hcalls, hfinish]
  exact hgathers.answer_iff

theorem gather_agrees_iff_callsLast_one_call :
    let hi := Json.obj [("text", .str "Hi")]
    let look := Json.obj [("functionCall", .obj [("name", .str "look")])]
    let response (parts : List Json) : Json :=
      .obj [("candidates", .arr [.obj [("content", .obj [("parts", .arr parts)])]])]
    let events := [(response [hi]).text, (response [look]).text].map Sse.Event.ofData
    let body : Body := ⟨Sse.framing [(response [hi]).text, (response [look]).text], false⟩
    let wholeBody : Body := ⟨(response [hi, look]).bytes, false⟩
    let call : Call := {
      channelId := 1, provider := .gemini, wire := .gemini, requestedModel := "gemini-2.0-flash"
      providerModel := "gemini-2.0-flash", isStream := true, mode := .chat, baseUrl := ""
      apiKey := "k", group := "default", promptTokens := 2, includeUsage := false
      cacheWriteTokens := 0, timeoutMs := 5000 }
    let stamp : Stamp := ⟨1700000000, 0⟩
    CallsLast (candidatesOf (responsesOf events)) ∧
      ∃ (chunks : List Json) (completion : Json) (heard : Heard),
        Sse.read (Buffer.ofWrites ((handleChatStream call body).run stamp).1.writes).body =
          .ok (chunks.map (.ofData ·.text) ++ [.done]) ∧
        ((handleChat call wholeBody).run stamp).1.writes = Write.json 200 completion ∧
        heardIn "message" completion = [heard] ∧
        (functions (gather chunks).calls = functions heard.calls ∧
          (gather chunks).finish = heard.finish ↔
            CallsLast (candidatesOf (responsesOf events))) := by
  intro hi look response events body wholeBody call stamp
  have hread : Sse.read body.octets = .ok events :=
    Sse.read_framing (List.forall_mem_cons.mpr
      ⟨Sse.framed_obj _, List.forall_mem_singleton.mpr (Sse.framed_obj _)⟩)
  have hresponses : responsesOf events = [
      { candidates := [⟨some ⟨none, [{ text := some "Hi" }]⟩, none, none⟩] },
      { candidates := [⟨some ⟨none, [{ functionCall := some ⟨"look", .null⟩ }]⟩, none, none⟩] }] :=
    by
    decide +kernel
  have hwhole : decodeBody? ChatResponse.decoder (response [hi, look]).bytes = some
      { candidates := [⟨some ⟨none, [{ text := some "Hi" },
        { functionCall := some ⟨"look", .null⟩ }]⟩, none, none⟩] } := by
    decide +kernel
  rw [hresponses]
  refine ⟨by decide, ?_⟩
  rw [← hresponses]
  exact gather_agrees_iff_callsLast call body wholeBody hread (hresponses ▸ by decide)
    (fun _ => hresponses ▸ by decide +kernel) rfl hwhole rfl (hresponses ▸ ⟨by decide, by decide⟩)
    (show _ = Except.ok ⟨2, 1, 3, none, none⟩ from rfl) stamp stamp

/-- Of calls in two events a client has one, with the arguments of both. -/
theorem gather_differs_two_calls :
    let calling (name : String) : Json := .obj [("functionCall", .obj [("name", .str name)])]
    let response (parts : List Json) : Json :=
      .obj [("candidates", .arr [.obj [("content", .obj [("parts", .arr parts)])]])]
    let body : Body :=
      ⟨Sse.framing [(response [calling "look"]).text, (response [calling "find"]).text], false⟩
    let wholeBody : Body := ⟨(response [calling "look", calling "find"]).bytes, false⟩
    let call : Call := {
      channelId := 1, provider := .gemini, wire := .gemini, requestedModel := "gemini-2.0-flash"
      providerModel := "gemini-2.0-flash", isStream := true, mode := .chat, baseUrl := ""
      apiKey := "k", group := "default", promptTokens := 2, includeUsage := false
      cacheWriteTokens := 0, timeoutMs := 5000 }
    let stamp : Stamp := ⟨1700000000, 0⟩
    ∃ (chunks : List Json) (completion : Json) (heard : Heard),
      Sse.read (Buffer.ofWrites ((handleChatStream call body).run stamp).1.writes).body =
        .ok (chunks.map (.ofData ·.text) ++ [.done]) ∧
      ((handleChat call wholeBody).run stamp).1.writes = Write.json 200 completion ∧
      heardIn "message" completion = [heard] ∧
      functions heard.calls = [("look", "null"), ("find", "null")] ∧
      functions (gather chunks).calls = [("look", "nullnull")] := by
  intro calling response body wholeBody call stamp
  let events := [(response [calling "look"]).text, (response [calling "find"]).text].map
    Sse.Event.ofData
  have hread : Sse.read body.octets = .ok events :=
    Sse.read_framing (List.forall_mem_cons.mpr
      ⟨Sse.framed_obj _, List.forall_mem_singleton.mpr (Sse.framed_obj _)⟩)
  have hresponses : responsesOf events = [
      { candidates := [⟨some ⟨none, [{ functionCall := some ⟨"look", .null⟩ }]⟩, none, none⟩] },
      { candidates := [⟨some ⟨none, [{ functionCall := some ⟨"find", .null⟩ }]⟩, none, none⟩] }] :=
    by
    decide +kernel
  have hwhole : decodeBody? ChatResponse.decoder (response [calling "look", calling "find"]).bytes =
      some { candidates := [⟨some ⟨none, [{ functionCall := some ⟨"look", .null⟩ },
        { functionCall := some ⟨"find", .null⟩ }]⟩, none, none⟩] } := by
    decide +kernel
  obtain ⟨chunks, completion, heard, hstream, hanswer, hheard, hgather, -, hcalls, -⟩ :=
    exists_gathered call body wholeBody hread (hresponses ▸ by decide)
      (fun _ => hresponses ▸ by decide +kernel) rfl hwhole rfl
      (show _ = Except.ok ⟨2, 0, 2, none, none⟩ from rfl) stamp stamp
  refine ⟨chunks, completion, heard, hstream, hanswer, hheard, ?_, ?_⟩
  · rw [hcalls]
    decide +kernel
  · rw [hgather, hresponses]
    decide +kernel

end

end ModelGateway.Wire.Gemini
