import Mathlib.Data.List.Forall2
import ModelGateway.Proofs.Gemini.Candidates
import ModelGateway.Proofs.Json.RoundTrip
import ModelGateway.Proofs.Sse.Framing
import ModelGateway.Proofs.Usage
import ModelGateway.Wire.Gemini.Handlers

/-!
# Streamed chat

Every response with candidates becomes one chunk, with the choice of each candidate as in a
completion, and its thoughts.  Events that are blank or no response are left out.
-/

namespace ModelGateway.Wire.Gemini

open Client

def responsesOf (events : List Sse.Event) : List ChatResponse :=
  events.filterMap fun e =>
    let data := Text.trim e.data
    if data.isEmpty then none else responseOf? data

theorem responsesOf_obj {members : List (String × Json)} {r : ChatResponse}
    (hreadable : Json.Readable 0 (.obj members))
    (hr : ChatResponse.decoder .json (Json.obj members).document = .ok r)
    (events : List Sse.Event) :
    responsesOf (.ofData (Json.obj members).text :: events) = r :: responsesOf events := by
  obtain ⟨htrim, hne⟩ := Text.nonBlank?_eq_some_iff.mp (Json.nonBlank?_text_obj members)
  refine List.filterMap_cons_some ?_
  dsimp only [Sse.Event.ofData]
  rw [htrim, if_neg (mt String.isEmpty_iff.mp hne), responseOf?, decodeBody?,
    Json.readDocument?_text hreadable, Option.bind_some, hr]
  rfl

def ChatResponse.placed (r : ChatResponse) : List (Nat × Candidate) :=
  r.candidates.zipIdx.map fun (c, position) => (c.index.getD position, c)

/-- The candidates for one choice, in order. -/
def candidatesAt (index : Nat) (responses : List ChatResponse) : List Candidate :=
  ((responses.flatMap ChatResponse.placed).filter (·.1 = index)).map Prod.snd

def visibleText (responses : List ChatResponse) : String :=
  String.join (responses.flatMap fun r => r.candidates.map Candidate.visibleText)

def lastReported? (responses : List ChatResponse) : Option UsageMetadata :=
  (responses.filterMap ChatResponse.reported?).getLast?

structure UsageMetadata.Fits (m : UsageMetadata) : Prop where
  completion : m.candidates.toNat + m.thoughts.toNat < UInt32.size
  total : m.total = 0 → m.prompt.toNat + m.candidates.toNat + m.thoughts.toNat < UInt32.size

instance : DecidablePred UsageMetadata.Fits := fun m =>
  decidable_of_iff
    (m.candidates.toNat + m.thoughts.toNat < UInt32.size ∧
      (m.total = 0 → m.prompt.toNat + m.candidates.toNat + m.thoughts.toNat < UInt32.size))
    ⟨fun h => ⟨h.1, h.2⟩, fun h => ⟨h.completion, h.total⟩⟩

def UsageMetadata.counted (m : UsageMetadata) : Usage where
  prompt := m.prompt
  completion := m.candidates + m.thoughts
  total := if 0 < m.total then m.total else m.prompt + (m.candidates + m.thoughts)
  cached := if 0 < m.cachedContent then some m.cachedContent else none
  reasoning := if 0 < m.thoughts then some m.thoughts else none

theorem UsageMetadata.Fits.usage_eq {m : UsageMetadata} (h : m.Fits) : m.usage = .ok m.counted := by
  unfold UsageMetadata.usage UsageMetadata.counted
  rw [Usage.add?_of_lt h.completion]
  by_cases htotal : 0 < m.total
  · simp only [htotal, ↓reduceIte]
    rfl
  · have hzero : m.total = 0 := by
      rw [UInt32.pos_iff_ne_zero, ne_eq, not_not] at htotal
      exact htotal
    have hsum : m.prompt.toNat + (m.candidates + m.thoughts).toNat < UInt32.size := by
      have hall := h.total hzero
      rw [UInt32.toNat_add, Nat.mod_eq_of_lt h.completion]
      omega
    simp only [htotal, ↓reduceIte]
    change (Usage.add? m.prompt (m.candidates + m.thoughts) >>= _) = _
    rw [Usage.add?_of_lt hsum]
    rfl

def ChatResponse.Fits (r : ChatResponse) : Prop :=
  ∀ m ∈ r.reported?, m.Fits

instance : DecidablePred ChatResponse.Fits := fun r =>
  inferInstanceAs (Decidable (∀ m ∈ r.reported?, m.Fits))

def Candidate.heard (c : Candidate) (index : Nat) : Heard where
  index := some index
  content := c.visibleText
  reasoning := c.thoughtText
  calls := c.calls.zipIdx.map fun (f, i) => ⟨some i, "", f.name, f.args.text⟩
  finish := finishReason? c.finishReason !c.calls.isEmpty

def ChatResponse.heard (r : ChatResponse) : List Heard :=
  r.placed.map fun (index, c) => c.heard index

theorem heard_toolCalls (index : Nat) (calls : List FunctionCall) (stamp : Stamp) :
    (((toolCalls index calls).run stamp).1.map fun t => { heardCall t with id := "" }) =
      (calls.zipIdx index).map fun (f, i) => ⟨some i, "", f.name, f.args.text⟩ := by
  induction calls generalizing index stamp with
  | nil => rfl
  | cons f calls ih => exact congrArg (_ :: ·) (ih (index + 1) _)

theorem isEmpty_toolCalls (index : Nat) (calls : List FunctionCall) (stamp : Stamp) :
    ((toolCalls index calls).run stamp).1.isEmpty = calls.isEmpty := by
  cases calls <;> rfl

theorem heard_deltasFrom (isFirst : Bool) (position : Nat) (candidates : List Candidate)
    (stamp : Stamp) :
    ((deltasFrom isFirst position candidates).run stamp).1.map (·.heard.anonymous) =
      (candidates.zipIdx position).map fun (c, p) => c.heard (c.index.getD p) := by
  induction candidates generalizing position stamp with
  | nil => rfl
  | cons c candidates ih =>
      refine congrArg₂ List.cons ?_ (ih (position + 1) _)
      simp only [Delta.heard, Heard.anonymous, Candidate.heard, List.map_map, Function.comp_def]
      rw [← heard_toolCalls 0 c.calls stamp, ← isEmpty_toolCalls 0 c.calls stamp]
      rfl

theorem heard_choicesFrom (position : Nat) (candidates : List Candidate) (stamp : Stamp) :
    ((choicesFrom position candidates).run stamp).1.map (·.heard.answer) =
      (candidates.zipIdx position).map fun (c, p) => (c.heard (c.index.getD p)).answer := by
  induction candidates generalizing position stamp with
  | nil => rfl
  | cons c candidates ih =>
      refine congrArg₂ List.cons ?_ (ih (position + 1) _)
      have hcalls := congrArg (List.map fun h : HeardCall => { h with index := none })
        (heard_toolCalls 0 c.calls stamp)
      simp only [List.map_map, Function.comp_def] at hcalls
      simp only [Choice.heard, Heard.answer, Candidate.heard, List.map_map, Function.comp_def]
      rw [← hcalls, ← isEmpty_toolCalls 0 c.calls stamp]
      rfl

theorem ChatResponse.heard_eq (r : ChatResponse) :
    r.heard = r.candidates.zipIdx.map fun (c, p) => c.heard (c.index.getD p) := by
  rw [ChatResponse.heard, ChatResponse.placed, List.map_map]
  rfl

def ChatStream.hearing (s : ChatStream) (r : ChatResponse) : ChatStream where
  id := s.id
  created := s.created
  model := s.model
  isFirst := s.isFirst && r.candidates.isEmpty
  usage := (r.reported?.map UsageMetadata.counted).or s.usage
  text := s.text ++ String.join (r.candidates.map Candidate.visibleText)

theorem ChatStream.step_of_fits (s : ChatStream) {r : ChatResponse} (h : r.Fits) (stamp : Stamp) :
    (s.step r).run stamp =
      if r.candidates.isEmpty then (.ok (s.hearing r, []), stamp)
      else
        let drawn := (deltasFrom s.isFirst 0 r.candidates).run stamp
        (.ok (s.hearing r, [(s.chunk drawn.1).write]), drawn.2) := by
  have hsome : ∀ m, r.reported? = some m → m.usage = .ok m.counted := fun m hm => (h m hm).usage_eq
  unfold ChatStream.step ChatStream.hearing
  cases hempty : r.candidates.isEmpty with
  | true =>
      have hnil := List.isEmpty_iff.mp hempty
      cases hr : r.reported? with
      | none =>
          simp only [↓reduceIte, StateT.run_pure, Bool.and_true, Option.map_none, Option.none_or,
            hnil, List.map_nil, String.join_nil, String.append_empty]
          rfl
      | some m =>
          simp only [Except.map, hsome m hr, ↓reduceIte, StateT.run_pure, Bool.and_true,
            Option.map_some, Option.some_or, hnil, List.map_nil, String.join_nil,
            String.append_empty]
          rfl
  | false =>
      cases hr : r.reported? with
      | none =>
          simp only [Bool.false_eq_true, ↓reduceIte, Bool.and_false, Option.map_none,
            Option.none_or]
          rfl
      | some m =>
          simp only [Except.map, hsome m hr, Bool.false_eq_true, ↓reduceIte, Bool.and_false,
            Option.map_some, Option.some_or]
          rfl

/-- A chunk for a response with candidates. -/
structure Chunk.Voices (c : Chunk) (r : ChatResponse) : Prop where
  heard : c.choices.map (·.heard.anonymous) = r.heard
  no_usage : c.usage = none

theorem ChatStream.voices_step (s : ChatStream) {r : ChatResponse} (h : r.Fits) (stamp : Stamp) :
    ∃ chunks stamp', (s.step r).run stamp = (.ok (s.hearing r, chunks.map Chunk.write), stamp') ∧
      List.Forall₂ Chunk.Voices chunks ([r].filter fun r => !r.candidates.isEmpty) := by
  rw [s.step_of_fits h stamp]
  cases hempty : r.candidates.isEmpty with
  | true => exact ⟨[], stamp, rfl, by simp [hempty]⟩
  | false =>
      refine ⟨[s.chunk ((deltasFrom s.isFirst 0 r.candidates).run stamp).1], _, rfl, ?_⟩
      have hfilter : [r].filter (fun r => !r.candidates.isEmpty) = [r] := by simp [hempty]
      rw [hfilter]
      exact .cons
        ⟨(heard_deltasFrom s.isFirst 0 r.candidates stamp).trans r.heard_eq.symm, rfl⟩ .nil

def ChatStream.answer : ChatStream → List ChatResponse →
    StateM Stamp (List Write × Except Halt ChatStream)
  | s, [] => pure ([], .ok s)
  | s, r :: rest => do
    match ← s.step r with
    | .error h => return ([], .error h)
    | .ok (s, here) =>
      let (later, outcome) ← answer s rest
      return (here ++ later, outcome)

theorem ChatStream.run_eq_answer (s : ChatStream) (events : List Sse.Event) :
    s.run events = s.answer (responsesOf events) := by
  induction events generalizing s with
  | nil => rfl
  | cons e events ih =>
      rw [ChatStream.run]
      dsimp only
      rw [responsesOf, List.filterMap_cons]
      dsimp only
      cases (if (Text.trim e.data).isEmpty then none else responseOf? (Text.trim e.data)) with
      | none => exact ih s
      | some r =>
          dsimp only
          rw [ChatStream.answer]
          refine bind_congr fun stepped => ?_
          cases stepped with
          | error h => rfl
          | ok next =>
              obtain ⟨s', here⟩ := next
              dsimp only
              rw [ih s']
              rfl

theorem ChatStream.answer_of_fits (s : ChatStream) {responses : List ChatResponse}
    (h : ∀ r ∈ responses, r.Fits) (stamp : Stamp) :
    ∃ chunks stamp', (s.answer responses).run stamp =
        ((chunks.map Chunk.write, .ok (responses.foldl ChatStream.hearing s)), stamp') ∧
      List.Forall₂ Chunk.Voices chunks (responses.filter fun r => !r.candidates.isEmpty) := by
  induction responses generalizing s stamp with
  | nil => exact ⟨[], stamp, rfl, .nil⟩
  | cons r responses ih =>
      obtain ⟨here, between, hstep, hvoices⟩ := s.voices_step (h r List.mem_cons_self) stamp
      obtain ⟨later, after, hrest, hlater⟩ :=
        ih (s.hearing r) (fun r' hr' => h r' (List.mem_cons_of_mem r hr')) between
      refine ⟨here ++ later, after, ?_, ?_⟩
      · rw [ChatStream.answer, StateT.run_bind, hstep, List.map_append]
        change ((s.hearing r).answer responses >>= _).run between = _
        rw [StateT.run_bind, hrest]
        rfl
      · rw [← List.singleton_append, List.filter_append]
        exact List.rel_append hvoices hlater

theorem ChatStream.usage_foldl_hearing (s : ChatStream) (responses : List ChatResponse) :
    (responses.foldl ChatStream.hearing s).usage =
      ((lastReported? responses).map UsageMetadata.counted).or s.usage := by
  induction responses generalizing s with
  | nil => rfl
  | cons r responses ih =>
      rw [List.foldl_cons, ih, lastReported?, lastReported?, List.filterMap_cons]
      cases hr : r.reported? with
      | none => simp [ChatStream.hearing, hr]
      | some m =>
          rw [List.getLast?_cons]
          cases (responses.filterMap ChatResponse.reported?).getLast? <;>
            simp [ChatStream.hearing, hr]

theorem ChatStream.text_foldl_hearing (s : ChatStream) (responses : List ChatResponse) :
    (responses.foldl ChatStream.hearing s).text = s.text ++ visibleText responses := by
  induction responses generalizing s with
  | nil => exact String.append_empty.symm
  | cons r responses ih =>
      rw [List.foldl_cons, ih, visibleText, visibleText, List.flatMap_cons, String.join_append,
        ← String.append_assoc]
      rfl

def ChatStream.tails (s : ChatStream) (call : Call) (usage : Usage) : List Chunk :=
  if call.includeUsage then [s.tail usage] else []

theorem handleChatStream_eq (call : Call) (body : Body) {events : List Sse.Event}
    (hread : Sse.read body.octets = .ok events) (hfits : ∀ r ∈ responsesOf events, r.Fits)
    {usage : Usage}
    (husage : ((lastReported? (responsesOf events)).map UsageMetadata.counted).elim
      (estimatedUsage call (visibleText (responsesOf events))) .ok = .ok usage)
    (stamp : Stamp) :
    ∃ (chunks : List Chunk) (s : ChatStream) (stamp' : Stamp),
      (handleChatStream call body).run stamp =
        (⟨Write.startEvents ::
          ((chunks ++ s.tails call usage).map (·.json.text) ++ ["[DONE]"]).map Write.data,
          .ok usage⟩, stamp') ∧
      List.Forall₂ Chunk.Voices chunks
        ((responsesOf events).filter fun r => !r.candidates.isEmpty) := by
  obtain ⟨⟨id, begun⟩, hid⟩ : ∃ p, completionId.run stamp = pure p := ⟨_, rfl⟩
  let opened : ChatStream := { id, created := begun.now, model := call.requestedModel }
  obtain ⟨chunks, stamp', hanswer, hvoices⟩ := opened.answer_of_fits hfits begun
  refine ⟨chunks, (responsesOf events).foldl ChatStream.hearing opened, stamp', ?_, hvoices⟩
  have htext : ((responsesOf events).foldl ChatStream.hearing opened).text =
      visibleText (responsesOf events) :=
    (opened.text_foldl_hearing _).trans String.empty_append
  have husage' : ((responsesOf events).foldl ChatStream.hearing opened).usage.elim
      (estimatedUsage call ((responsesOf events).foldl ChatStream.hearing opened).text) .ok =
        .ok usage := by
    rw [htext, opened.usage_foldl_hearing, ← husage]
    exact congrArg (Option.elim · _ _) Option.or_none
  have hrun : (opened.run events).run begun =
      pure ((chunks.map Chunk.write,
        .ok ((responsesOf events).foldl ChatStream.hearing opened)), stamp') := by
    rw [opened.run_eq_answer]
    exact hanswer
  rw [handleChatStream, hread]
  simp only [StateT.run_bind, StateT.run_get, pure_bind, hid, hrun, husage', opened]
  rw [StateT.run_pure, ChatStream.tails, List.map_append, List.map_append, List.map_append,
    List.map_map]
  cases call.includeUsage <;> rfl

theorem read_chunks (chunks : List Chunk) :
    Sse.read (Buffer.ofWrites (Write.startEvents ::
      (chunks.map (·.json.text) ++ ["[DONE]"]).map Write.data)).body =
        .ok ((chunks.map Chunk.json).map (.ofData ·.text) ++ [.done]) := by
  have hframed : ∀ data ∈ chunks.map (·.json.text) ++ ["[DONE]"], Sse.Framed data := by
    intro data hdata
    rcases List.mem_append.mp hdata with hchunk | hdone
    · obtain ⟨c, -, rfl⟩ := List.mem_map.mp hchunk
      exact Sse.framed_obj _
    · exact List.mem_singleton.mp hdone ▸ Sse.framed_done
  rw [Buffer.body_ofWrites_stream, Sse.read_framing hframed, List.map_append, List.map_map,
    List.map_map]
  rfl

/-! ## Streams -/

def ChatResponse.told (r : ChatResponse) : List Heard :=
  r.placed.map fun (index, c) => c.told index

def shownText (responses : List ChatResponse) : String :=
  String.join (responses.flatMap fun r => r.candidates.map Candidate.shown)

def lastCounts? (responses : List ChatResponse) : Option UsageMetadata :=
  (responses.filterMap ChatResponse.counts?).getLast?

/-- The events that a client has of a streamed chat, and its outcome. -/
structure Streamed (call : Call) (responses : List ChatResponse) (stamp : Stamp)
    (spoken tail : List Json) (usage : Usage) (handled : Handled) : Prop where
  read_back : Sse.read (Buffer.ofWrites handled.writes).body =
    .ok ((spoken ++ tail).map (.ofData ·.text) ++ [.done])
  done_once : ∀ chunk ∈ spoken ++ tail, chunk.text ≠ "[DONE]"
  heard : List.Forall₂ (fun chunk r => (heardIn "delta" chunk).map Heard.anonymous = r.told) spoken
    (responses.filter fun r => !r.candidates.isEmpty)
  content : ∀ index, String.join
      (((spoken.flatMap (heardIn "delta")).filter (·.index = some index)).map Heard.content) =
    String.join ((candidatesAt index responses).map Candidate.shown)
  reasoning : ∀ index, String.join
      (((spoken.flatMap (heardIn "delta")).filter (·.index = some index)).map Heard.reasoning) =
    String.join ((candidatesAt index responses).map Candidate.thinking)
  no_usage : ∀ chunk ∈ spoken, chunk.get? "usage" = none
  tail_eq : tail.map (fun chunk => (heardIn "delta" chunk, chunk.get? "usage")) =
    if call.includeUsage then [([], some usage.json)] else []
  outcome : handled.outcome = .ok usage
  reported : ∀ last, lastCounts? responses = some last → usage = last.counted
  estimated : lastCounts? responses = none →
    Usage.IsEstimate call.promptTokens (shownText responses) usage
  responses_only : ∀ (body : Body) (events : List Sse.Event),
    Sse.read body.octets = .ok events → responsesOf events = responses →
      ((handleChatStream call body).run stamp).1 = handled
  single : ∀ (r : ChatResponse) (body : Body) (octets : Bytes) (stamp : Stamp),
    responses = [r] → r.candidates ≠ [] → body.whole? = some octets →
    decodeBody? ChatResponse.decoder octets = some r →
    ∃ whole : Json, ((handleChat call body).run stamp).1 = ⟨Write.json 200 whole, .ok usage⟩ ∧
      (heardIn "message" whole).map Heard.answer =
        (spoken.flatMap (heardIn "delta")).map Heard.answer ∧
      whole.get? "usage" = some usage.json

theorem Streamed.heard_eq {call : Call} {responses : List ChatResponse} {stamp : Stamp}
    {spoken tail : List Json} {usage : Usage} {handled : Handled}
    (h : Streamed call responses stamp spoken tail usage handled) :
    spoken.map (fun chunk => (heardIn "delta" chunk).map Heard.anonymous) =
      (responses.filter fun r => !r.candidates.isEmpty).map ChatResponse.told := by
  rw [← List.forall₂_eq_eq_eq, List.forall₂_map_left_iff, List.forall₂_map_right_iff]
  exact h.heard

theorem Candidate.heard_eq (c : Candidate) (index : Nat) : c.heard index = c.told index := by
  rw [heard, told, visibleText_eq, thoughtText_eq, finishReason?_eq, calls_eq]

theorem ChatResponse.heard_eq_told (r : ChatResponse) : r.heard = r.told :=
  List.map_congr_left fun _ _ => Candidate.heard_eq _ _

theorem visibleText_eq (responses : List ChatResponse) :
    visibleText responses = shownText responses := by
  rw [visibleText, shownText, funext Candidate.visibleText_eq]

theorem lastReported?_eq (responses : List ChatResponse) :
    lastReported? responses = lastCounts? responses := by
  rw [lastReported?, lastCounts?, funext ChatResponse.reported?_eq]

theorem flatMap_heard_filter (responses : List ChatResponse) :
    (responses.filter fun r => !r.candidates.isEmpty).flatMap ChatResponse.heard =
      responses.flatMap ChatResponse.heard := by
  induction responses with
  | nil => rfl
  | cons r responses ih =>
      rw [List.filter_cons, List.flatMap_cons, ← ih]
      cases hempty : r.candidates.isEmpty with
      | true =>
          have hnone : r.heard = [] := by
            rw [ChatResponse.heard, ChatResponse.placed, List.isEmpty_iff.mp hempty]
            rfl
          rw [hnone]
          rfl
      | false => rfl

section

variable {spoken : List Json} {responses : List ChatResponse}

theorem heard_spoken
    (h : List.Forall₂ (fun chunk r => (heardIn "delta" chunk).map Heard.anonymous = r.heard) spoken
      (responses.filter fun r => !r.candidates.isEmpty)) :
    (spoken.flatMap (heardIn "delta")).map Heard.anonymous =
      (responses.flatMap ChatResponse.placed).map fun (index, c) => c.heard index := by
  have hmap : spoken.map (fun chunk => (heardIn "delta" chunk).map Heard.anonymous) =
      (responses.filter fun r => !r.candidates.isEmpty).map ChatResponse.heard := by
    rw [← List.forall₂_eq_eq_eq, List.forall₂_map_left_iff, List.forall₂_map_right_iff]
    exact h
  calc (spoken.flatMap (heardIn "delta")).map Heard.anonymous
    _ = (spoken.map fun chunk => (heardIn "delta" chunk).map Heard.anonymous).flatten := by
        rw [List.map_flatMap, List.flatMap_def]
    _ = (responses.filter fun r => !r.candidates.isEmpty).flatMap ChatResponse.heard := by
        rw [hmap, List.flatMap_def]
    _ = responses.flatMap ChatResponse.heard := flatMap_heard_filter responses
    _ = _ := by
        rw [List.map_flatMap]
        rfl

theorem gathered_at (part : Heard → String) (hpart : ∀ h : Heard, part h.anonymous = part h)
    (h : (spoken.flatMap (heardIn "delta")).map Heard.anonymous =
      (responses.flatMap ChatResponse.placed).map fun (index, c) => c.heard index)
    (index : Nat) :
    ((spoken.flatMap (heardIn "delta")).filter (·.index = some index)).map part =
      (candidatesAt index responses).map fun c => part (c.heard index) := by
  have hat := congrArg
    (fun heard => (heard.filter fun h : Heard => h.index = some index).map part) h
  rw [List.filter_map, List.filter_map, List.map_map, List.map_map] at hat
  have hindex : (fun h : Heard => decide (h.index = some index)) ∘
      (fun placed : Nat × Candidate => placed.2.heard placed.1) =
        fun placed : Nat × Candidate => decide (placed.1 = index) :=
    funext fun placed => decide_eq_decide.mpr Option.some_inj
  calc ((spoken.flatMap (heardIn "delta")).filter (·.index = some index)).map part
    _ = ((spoken.flatMap (heardIn "delta")).filter (·.index = some index)).map
          (part ∘ Heard.anonymous) := by rw [show part ∘ Heard.anonymous = part from funext hpart]
    _ = ((responses.flatMap ChatResponse.placed).filter (·.1 = index)).map
          fun (i, c) => part (c.heard i) := hat.trans (by rw [hindex]; rfl)
    _ = (candidatesAt index responses).map fun c => part (c.heard index) := by
        rw [candidatesAt, List.map_map]
        refine List.map_congr_left fun placed hplaced => ?_
        have hindex : placed.1 = index := by simpa using (List.mem_filter.mp hplaced).2
        rw [← hindex]
        rfl

end

theorem handleChat_eq (call : Call) (body : Body) {octets : Bytes} {r : ChatResponse}
    (hwhole : body.whole? = some octets) (hr : decodeBody? ChatResponse.decoder octets = some r)
    (hcandidates : r.candidates ≠ []) {usage : Usage} (husage : r.usage call = .ok usage)
    (stamp : Stamp) :
    ∃ c : Completion,
      ((handleChat call body).run stamp).1 = ⟨Write.json 200 c.json, .ok usage⟩ ∧
      c.choices.map (·.heard.answer) = r.heard.map Heard.answer ∧ c.usage = usage := by
  have hempty : r.candidates.isEmpty = false := by simpa using hcandidates
  refine ⟨((completion call.requestedModel usage r).run stamp).1, ?_, ?_, rfl⟩
  · rw [handleChat, hwhole]
    dsimp only
    rw [hr]
    dsimp only
    rw [hempty, husage]
    rfl
  · rw [ChatResponse.heard_eq, List.map_map]
    exact heard_choicesFrom 0 r.candidates stamp

theorem usage_singleton (call : Call) {r : ChatResponse} (h : r.Fits) :
    r.usage call = ((lastReported? [r]).map UsageMetadata.counted).elim
      (estimatedUsage call (visibleText [r])) .ok := by
  unfold ChatResponse.usage
  cases hr : r.reported? with
  | none =>
      have hlast : lastReported? [r] = none := by simp [lastReported?, hr]
      rw [hlast, visibleText, List.flatMap_singleton]
      rfl
  | some m =>
      have hlast : lastReported? [r] = some m := by simp [lastReported?, hr]
      rw [hlast]
      exact (h m hr).usage_eq

theorem no_usage_of_voices {chunks : List Chunk} {responses : List ChatResponse}
    (h : List.Forall₂ Chunk.Voices chunks responses) : ∀ c ∈ chunks, c.usage = none := by
  induction h with
  | nil => nofun
  | cons hvoice _ ih => exact List.forall_mem_cons.mpr ⟨hvoice.no_usage, ih⟩

theorem heard_of_voices {chunks : List Chunk} {responses : List ChatResponse}
    (h : List.Forall₂ Chunk.Voices chunks responses) :
    List.Forall₂ (fun chunk r => (heardIn "delta" chunk).map Heard.anonymous = r.heard)
      (chunks.map Chunk.json) responses := by
  rw [List.forall₂_map_left_iff]
  refine h.imp fun c r hvoice => ?_
  rw [heardIn_chunk, List.map_map]
  exact hvoice.heard

theorem flatMap_heardIn_tails (s : ChatStream) (call : Call) (usage : Usage) :
    ((s.tails call usage).map Chunk.json).flatMap (heardIn "delta") = [] := by
  rw [ChatStream.tails]
  cases call.includeUsage with
  | true => simp [heardIn_chunk, ChatStream.tail, ChatStream.chunk]
  | false => rfl

theorem handleChatStream_congr (call : Call) {body body' : Body} {events events' : List Sse.Event}
    (hread : Sse.read body.octets = .ok events) (hread' : Sse.read body'.octets = .ok events')
    (h : responsesOf events' = responsesOf events) :
    handleChatStream call body' = handleChatStream call body := by
  unfold handleChatStream
  rw [hread, hread']
  simp only [ChatStream.run_eq_answer, h]

theorem exists_usage (call : Call) {responses : List ChatResponse}
    (hestimate : lastCounts? responses = none →
      call.promptTokens.toNat + (Text.words (shownText responses)).length < UInt32.size) :
    ∃ usage, ((lastCounts? responses).map UsageMetadata.counted).elim
        (estimatedUsage call (shownText responses)) .ok = .ok usage ∧
      (∀ last, lastCounts? responses = some last → usage = last.counted) ∧
      (lastCounts? responses = none →
        Usage.IsEstimate call.promptTokens (shownText responses) usage) := by
  cases hlast : lastCounts? responses with
  | none =>
      obtain ⟨usage, hcounted, hwords⟩ := Usage.exists_ofCounts (hestimate hlast)
      exact ⟨usage, hcounted, nofun, fun _ => hwords⟩
  | some last => exact ⟨last.counted, rfl, fun m hm => Option.some.inj hm ▸ rfl, nofun⟩

/-- Whatever the events of a stream are and wherever it breaks off, the client has one chunk for
every response with candidates, with the visible text, the thoughts and the calls of each candidate,
and the usage is the last one reported or an estimate from the visible text. -/
theorem handleChatStream_streamed (call : Call) (body : Body) {events : List Sse.Event}
    (hread : Sse.read body.octets = .ok events)
    (hfits : ∀ r ∈ responsesOf events, ∀ m ∈ r.counts?, m.Fits)
    (hestimate : lastCounts? (responsesOf events) = none →
      call.promptTokens.toNat + (Text.words (shownText (responsesOf events))).length < UInt32.size)
    (stamp : Stamp) :
    ∃ spoken tail usage, Streamed call (responsesOf events) stamp spoken tail usage
      ((handleChatStream call body).run stamp).1 := by
  obtain ⟨usage, husage, hreported, hestimated⟩ := exists_usage call hestimate
  rw [← lastReported?_eq, ← visibleText_eq] at husage
  have hfits : ∀ r ∈ responsesOf events, r.Fits := fun r hr m hm =>
    hfits r hr m (r.reported?_eq ▸ hm)
  obtain ⟨chunks, s, stamp', hhandled, hvoices⟩ :=
    handleChatStream_eq call body hread hfits husage stamp
  have hheard := heard_of_voices hvoices
  have hspoken := heard_spoken hheard
  refine ⟨chunks.map Chunk.json, (s.tails call usage).map Chunk.json, usage, ?_⟩
  rw [hhandled]
  exact {
    read_back := by
      rw [read_chunks, List.map_append]
    done_once := by
      intro chunk hchunk
      rw [← List.map_append] at hchunk
      obtain ⟨c, -, rfl⟩ := List.mem_map.mp hchunk
      exact Sse.text_obj_ne_done _
    heard := hheard.imp fun chunk r h => h.trans r.heard_eq_told
    content := by
      intro index
      rw [gathered_at Heard.content (fun _ => rfl) hspoken index, ← funext Candidate.visibleText_eq]
      rfl
    reasoning := by
      intro index
      rw [gathered_at Heard.reasoning (fun _ => rfl) hspoken index,
        ← funext Candidate.thoughtText_eq]
      rfl
    no_usage := by
      intro chunk hchunk
      obtain ⟨c, hc, rfl⟩ := List.mem_map.mp hchunk
      rw [usage_chunk, no_usage_of_voices hvoices c hc]
      rfl
    tail_eq := by
      rw [ChatStream.tails]
      cases call.includeUsage with
      | true => simp [heardIn_chunk, usage_chunk, ChatStream.tail, ChatStream.chunk]
      | false => rfl
    outcome := rfl
    reported := hreported
    estimated := hestimated
    responses_only := fun body' events' hread' h => by
      rw [handleChatStream_congr call hread hread' h, hhandled]
    single := by
      intro r body' octets stamp'' hone hcandidates hwhole hr
      have hrusage : r.usage call = .ok usage := by
        rw [usage_singleton call (hfits r (hone ▸ List.mem_singleton_self r)), ← hone]
        exact husage
      obtain ⟨c, hc, hchoices, hcusage⟩ :=
        handleChat_eq call body' hwhole hr hcandidates hrusage stamp''
      refine ⟨c.json, hc, ?_, by rw [usage_completion, hcusage]⟩
      have hanswers := congrArg (List.map Heard.answer) hspoken
      rw [List.map_map, show Heard.answer ∘ Heard.anonymous = Heard.answer from
        funext Heard.answer_anonymous, hone, List.flatMap_singleton] at hanswers
      rw [heardIn_completion, List.map_map, hanswers]
      exact hchoices }

theorem handleChatStream_streamed_broken :
    let text (s : String) := Json.obj [("text", .str s)]
    let thought := Json.obj [("text", .str "Hm."), ("thought", .bool true)]
    let look := Json.obj [("functionCall", .obj [("name", .str "look")])]
    let candidates (parts : List Json) : Json :=
      .arr [.obj [("content", .obj [("parts", .arr parts)])]]
    let first := Json.obj [("candidates", candidates [thought, text "Hi", thought, text " there"])]
    let second := Json.obj [("candidates", candidates [look]),
      ("usageMetadata", .obj [("promptTokenCount", .nat 3), ("candidatesTokenCount", .nat 2)])]
    let datas := [" ", first.text, "two\nlines"]
    let body : Body := ⟨Sse.framing (datas ++ [second.text]) ++ Utf8.encode "data: cut", true⟩
    let unreported : Body := ⟨Sse.framing datas ++ Utf8.encode "data: cut", true⟩
    let call : Call := {
      channelId := 1, provider := .gemini, wire := .gemini, requestedModel := "gemini-2.0-flash"
      providerModel := "gemini-2.0-flash", isStream := true, mode := .chat, baseUrl := ""
      apiKey := "k", group := "default", promptTokens := 2, includeUsage := true
      cacheWriteTokens := 0, timeoutMs := 5000 }
    let stamp : Stamp := ⟨1700000000, 0⟩
    let said : ChatResponse := { candidates := [⟨some ⟨none, [
      { text := some "Hm.", thought := some true }, { text := some "Hi" },
      { text := some "Hm.", thought := some true }, { text := some " there" }]⟩, none, none⟩] }
    let called : ChatResponse := {
      candidates := [⟨some ⟨none, [{ functionCall := some ⟨"look", .null⟩ }]⟩, none, none⟩]
      usageMetadata := some ⟨3, 2, 0, 0, 0⟩ }
    (∃ spoken tail, Streamed call [said, called] stamp spoken tail ⟨3, 2, 5, none, none⟩
        ((handleChatStream call body).run stamp).1 ∧
      spoken.map (fun chunk => (heardIn "delta" chunk).map Heard.anonymous) =
        [[⟨some 0, "Hi there", "Hm.Hm.", [], none⟩],
          [⟨some 0, "", "", [⟨some 0, "", "look", "null"⟩], some "tool_calls"⟩]] ∧
      tail.map (Json.get? "usage") = [some (.obj [("prompt_tokens", .nat 3),
        ("completion_tokens", .nat 2), ("total_tokens", .nat 5)])]) ∧
    ∃ spoken tail, Streamed call [said] stamp spoken tail ⟨2, 2, 4, none, none⟩
      ((handleChatStream call unreported).run stamp).1 := by
  intro text thought look candidates first second datas body unreported call stamp said called
  have hframed : ∀ data ∈ datas, Sse.Framed data :=
    List.forall_mem_cons.mpr ⟨by decide, List.forall_mem_cons.mpr
      ⟨Sse.framed_obj _, List.forall_mem_singleton.mpr (by decide)⟩⟩
  have hread : Sse.read body.octets = .ok ((datas ++ [second.text]).map Sse.Event.ofData) :=
    Sse.read_framing_append (List.forall_mem_append.mpr
      ⟨hframed, List.forall_mem_singleton.mpr (Sse.framed_obj _)⟩) (by decide)
  have hreadUnreported : Sse.read unreported.octets = .ok (datas.map Sse.Event.ofData) :=
    Sse.read_framing_append hframed (by decide)
  have hblank (events : List Sse.Event) :
      responsesOf (.ofData " " :: events) = responsesOf events :=
    List.filterMap_cons_none (by decide +kernel)
  have hline (events : List Sse.Event) :
      responsesOf (.ofData "two\nlines" :: events) = responsesOf events :=
    List.filterMap_cons_none (by decide +kernel)
  have hfirst (events : List Sse.Event) :
      responsesOf (.ofData first.text :: events) = said :: responsesOf events :=
    responsesOf_obj (by simp [Json.Readable, Json.ReadableItems, Json.ReadableMembers,
      Json.maxLevel, candidates, thought, text]) rfl events
  have hsecond (events : List Sse.Event) :
      responsesOf (.ofData second.text :: events) = called :: responsesOf events :=
    responsesOf_obj (by simp [Json.Readable, Json.ReadableItems, Json.ReadableMembers,
      Json.maxLevel, candidates, look, Json.nat, Json.IsWhole, Number.minInt64, UInt64.size]) rfl
      events
  have hresponses :
      responsesOf ((datas ++ [second.text]).map Sse.Event.ofData) = [said, called] := by
    change responsesOf [.ofData " ", .ofData first.text, .ofData "two\nlines",
      .ofData second.text] = _
    rw [hblank, hfirst, hline, hsecond]
    rfl
  have hunreported : responsesOf (datas.map Sse.Event.ofData) = [said] := by
    change responsesOf [.ofData " ", .ofData first.text, .ofData "two\nlines"] = _
    rw [hblank, hfirst, hline]
    rfl
  have hlast : lastCounts? [said, called] = some ⟨3, 2, 0, 0, 0⟩ := by decide
  have hnone : lastCounts? [said] = none := by decide
  have hfits : ∀ r ∈ [said, called], ∀ m ∈ r.counts?, m.Fits := by decide
  have hshown : shownText [said] = "Hi there" := by decide +kernel
  have hestimate : Usage.IsEstimate 2 "Hi there" ⟨2, 2, 4, none, none⟩ :=
    ⟨rfl, by decide, by decide, rfl, rfl⟩
  refine ⟨?_, ?_⟩
  · obtain ⟨spoken, tail, usage, hstreamed⟩ := handleChatStream_streamed call body hread
      (by rw [hresponses]; exact hfits)
      (by rw [hresponses, hlast]; exact fun hnone => absurd hnone (Option.some_ne_none _)) stamp
    rw [hresponses] at hstreamed
    obtain rfl : usage = ⟨3, 2, 5, none, none⟩ := hstreamed.reported _ hlast
    refine ⟨spoken, tail, hstreamed, ?_, ?_⟩
    · rw [hstreamed.heard_eq]
      decide +kernel
    · have htail := congrArg (List.map Prod.snd) hstreamed.tail_eq
      rw [List.map_map] at htail
      exact htail
  · obtain ⟨spoken, tail, usage, hstreamed⟩ := handleChatStream_streamed call unreported
      hreadUnreported
      (by rw [hunreported]; exact List.forall_mem_singleton.mpr (hfits said List.mem_cons_self))
      (by rw [hunreported, hshown]; decide) stamp
    rw [hunreported] at hstreamed
    have hsaid := hstreamed.estimated hnone
    rw [hshown] at hsaid
    obtain rfl := hsaid.unique hestimate
    exact ⟨spoken, tail, hstreamed⟩

end ModelGateway.Wire.Gemini
