import Mathlib.Data.List.Nodup
import ModelGateway.Proofs.Gemini.Candidates
import ModelGateway.Proofs.Gemini.Conversation
import ModelGateway.Proofs.Json.Fields
import ModelGateway.Proofs.Json.Members

/-!
# Messages that are sent back

A client sends the message that it received for a candidate back, with answers to the calls in it.
The next request has the candidate's visible text and its calls in one turn, and every answer is
named after the function that was called.
-/

namespace ModelGateway.Wire.Gemini

open Json.RecordReader (decoder_obj_iff nullable reads_nullable reads_required required)

def Choice.message (c : Choice) : Json :=
  .record [
    .of "content" (.str c.text),
    if c.toolCalls.isEmpty then .absent
    else
      .of "tool_calls" (.arr (c.toolCalls.map fun t => { t with index := none : ToolCall }.json)),
    .of "role" (.str "assistant")]

theorem Choice.get?_message (c : Choice) : c.json.get? "message" = some c.message := by
  simp [Choice.json, Choice.message]

def Choice.echo (c : Choice) : Message where
  role := "assistant"
  content := some (.text c.text)
  toolCalls := if c.toolCalls.isEmpty then none
    else some (c.toolCalls.map fun t => { t with index := none })

theorem decoder_toolCall (t : ToolCall) :
    ToolCall.decoder .json { t with index := none : ToolCall }.json.document =
      .ok { t with index := none } := by
  obtain ⟨index, id, kind, name, arguments⟩ := t
  rfl

theorem decoder_toolCalls (ts : List ToolCall) :
    Json.Decoder.listFrom (ToolCall.decoder .json)
        (Json.documents (ts.map fun t => { t with index := none : ToolCall }.json)) =
      .ok (ts.map fun t => { t with index := none }) := by
  induction ts with
  | nil => rfl
  | cons t ts ih =>
      simp only [List.map_cons, Json.documents, Json.Decoder.listFrom, decoder_toolCall t, ih]
      rfl

theorem decoder_message (c : Choice) : Message.decoder .json c.message.document = .ok c.echo := by
  obtain ⟨index, text, calls, finish⟩ := c
  cases calls with
  | nil => rfl
  | cons t ts =>
      let sent := (t :: ts).map fun t => ({ t with index := none : ToolCall }).json
      let members : List (Option String × Json.Document) := [(some "content", .str text),
        (some "tool_calls", .arr (Json.documents sent)), (some "role", .str "assistant")]
      have hrole : (required "role" .string).Reads members "assistant" :=
        reads_required.mpr ⟨_, rfl, rfl⟩
      have hcontent : (nullable "content" ModelGateway.Content.decoder).Reads members
          (some (.text text)) := reads_nullable.mpr (.inr ⟨_, rfl, rfl⟩)
      have hname : (nullable "name" .string).Reads members none :=
        reads_nullable.mpr (.inl ⟨rfl, rfl⟩)
      have hcalls : (nullable "tool_calls" (.list ToolCall.decoder)).Reads members
          (some ((t :: ts).map fun t => { t with index := none })) :=
        reads_nullable.mpr
          (.inr ⟨_, rfl, congrArg (Except.map some) (decoder_toolCalls (t :: ts))⟩)
      have hid : (nullable "tool_call_id" .string).Reads members none :=
        reads_nullable.mpr (.inl ⟨rfl, rfl⟩)
      have hreads := ((((hrole.map Message.mk).seq hcontent).seq hname).seq hcalls).seq hid
      exact decoder_obj_iff.mpr ⟨hreads, rfl⟩

theorem functions_toolCalls (index : Nat) (calls : List FunctionCall) (stamp : Stamp) :
    (toolCalls index calls stamp).1.map (·.function) =
      calls.map fun f => ⟨f.name, f.args.text⟩ := by
  induction calls generalizing index stamp with
  | nil => rfl
  | cons f calls ih => exact congrArg (_ :: ·) (ih (index + 1) _)

theorem exists_choice {candidates : List Candidate} {place : Nat} {c : Candidate}
    (h : candidates[place]? = some c) (position : Nat) (stamp : Stamp) :
    ∃ choice, (choicesFrom position candidates stamp).1[place]? = some choice ∧
      choice.text = c.shown ∧
      choice.toolCalls.map (·.function) = c.called.map fun f => ⟨f.name, f.args.text⟩ := by
  rw [← c.visibleText_eq, ← c.calls_eq]
  induction candidates generalizing place position stamp with
  | nil => cases h
  | cons first candidates ih =>
      cases place with
      | zero =>
          obtain rfl := Option.some.inj h
          exact ⟨_, rfl, rfl, functions_toolCalls 0 first.calls stamp⟩
      | succ place => exact ih h (position + 1) _

/-- A turn with the visible text of the candidate, if there is some, and its calls. -/
def Candidate.modelTurn (c : Candidate) : Content where
  role := some "model"
  parts := (if c.shown = "" then [] else [{ text := some c.shown }]) ++
    c.called.map fun f => { functionCall := some f }

variable {c : Candidate} {choice : Choice}

theorem getD_toolCalls_echo (choice : Choice) :
    choice.echo.toolCalls.getD [] = choice.toolCalls.map fun t => { t with index := none } := by
  unfold Choice.echo
  cases choice.toolCalls <;> rfl

theorem callParts (hcalls : choice.toolCalls.map (·.function) =
      c.called.map fun f => ⟨f.name, f.args.text⟩)
    (hargs : ∀ f ∈ c.called, Json.readText? f.args.text = some f.args) :
    (choice.echo.toolCalls.getD []).map callPart =
      c.called.map fun f => { functionCall := some f } := by
  have hfunction : (choice.echo.toolCalls.getD []).map callPart =
      (choice.toolCalls.map (·.function)).map fun g : ModelGateway.FunctionCall =>
        Part.ofCall ⟨g.name, (Json.readText? g.arguments).getD (.obj [])⟩ := by
    rw [getD_toolCalls_echo, List.map_map, List.map_map]
    rfl
  rw [hfunction, hcalls, List.map_map]
  refine List.map_congr_left fun f hf => ?_
  simp [hargs f hf, Part.ofCall]

theorem messageParts_echo (htext : choice.text = c.shown)
    (hcalls : choice.toolCalls.map (·.function) = c.called.map fun f => ⟨f.name, f.args.text⟩)
    (hargs : ∀ f ∈ c.called, Json.readText? f.args.text = some f.args) :
    messageParts choice.echo = c.modelTurn.parts := by
  have hparts : choice.echo.parts.filterMap partOf? =
      if c.shown = "" then [] else [{ text := some c.shown }] := by
    rw [← htext]
    change [ContentPart.ofText choice.text].filterMap partOf? = _
    have hpart : partOf? (.ofText choice.text) =
        if choice.text.isEmpty then none else some { text := some choice.text } := rfl
    rw [List.filterMap_cons, hpart]
    by_cases hempty : choice.text = "" <;> simp [hempty]
  rw [messageParts, hparts, callParts hcalls hargs]
  rfl

/-- The calls of a candidate, under the ids that they were given. -/
def issued (c : Candidate) (choice : Choice) : List (String × FunctionCall) :=
  (choice.toolCalls.map (·.id)).zip c.called

theorem lookup_issued (hcalls : choice.toolCalls.map (·.function) =
      c.called.map fun f => ⟨f.name, f.args.text⟩)
    (hids : (choice.toolCalls.map (·.id)).Nodup) {id : String} {f : FunctionCall}
    (h : (id, f) ∈ issued c choice) (names : CallNames) :
    (names.add choice.echo).lookup id = some f.name := by
  let entries := choice.toolCalls.map fun t => (t.id, t.function.name)
  have hnames : choice.toolCalls.map (·.function.name) = c.called.map (·.name) := by
    simpa [Function.comp_def] using congrArg (List.map (·.name)) hcalls
  have hentries : entries = (issued c choice).map fun (id, f) => (id, f.name) := by
    change choice.toolCalls.map (fun t => (t.id, t.function.name)) = _
    rw [← List.zip_map', hnames, List.zip_map_right]
    rfl
  have hmem : (id, f.name) ∈ entries := hentries ▸ List.mem_map.mpr ⟨(id, f), h, rfl⟩
  have hkeys : (entries.reverse.map Prod.fst).Nodup := by
    rw [List.map_reverse, List.nodup_reverse, List.map_map]
    exact hids
  have hadd : names.add choice.echo = entries.reverse ++ names := by
    rw [CallNames.add, getD_toolCalls_echo, ← List.map_reverse, List.map_map, ← List.map_reverse]
    rfl
  rw [hadd, List.lookup_append, Json.lookup_of_mem_nodup hkeys (List.mem_reverse.mpr hmem)]
  rfl

theorem turns_echo {names : CallNames} (htext : choice.text = c.shown)
    (hcalls : choice.toolCalls.map (·.function) = c.called.map fun f => ⟨f.name, f.args.text⟩)
    (hargs : ∀ f ∈ c.called, Json.readText? f.args.text = some f.args)
    (hspoken : c.shown ≠ "" ∨ c.called ≠ []) (later : List Message) :
    turns names (choice.echo :: later) = c.modelTurn :: turns (names.add choice.echo) later := by
  have hrole : Speaker.ofRole choice.echo.role = .model :=
    show Speaker.ofRole "assistant" = .model by decide
  have hparts : c.modelTurn.parts.isEmpty = false := by
    unfold Candidate.modelTurn
    rcases hspoken with htext | hcalls
    · simp [htext]
    · simp [hcalls]
  rw [turns, hrole]
  dsimp only
  rw [messageParts_echo htext hcalls hargs, hparts]
  rfl

/-! ## Answers to its calls -/

structure AnswersTo (m : Message) (id : String) : Prop where
  role : m.role ∈ answerRoles
  toolCallId : m.toolCallId = some id

inductive ResponseTurn (m : Message) (f : FunctionCall) : Content → Prop
  | of {response : Json} (h : Response (wording m) response) : ResponseTurn m f {
      role := some "user", parts := [{ functionResponse := some ⟨f.name, response⟩ }] }

theorem turns_answer {names : CallNames} {between behind : List Message} {m : Message}
    {id : String} {f : FunctionCall} (hm : AnswersTo m id) (hname : names.lookup id = some f.name)
    (hfresh : ∀ call ∈ callsIn between, call.id ≠ id) :
    ∃ turn, ResponseTurn m f turn ∧
      turns names (between ++ m :: behind) =
        turns names between ++ turn :: turns (names.after between) behind := by
  have hlookup : (names.after between).lookup id = some f.name := by
    have hnone : (CallNames.after [] between).lookup id = none := by
      simpa [lookup_after] using hfresh
    rw [names.after_eq, List.lookup_append, hnone, Option.none_or, hname]
  refine ⟨_, .of (response_iff.mpr rfl), ?_⟩
  rw [turns_append, turns, ofRole_eq_tool.mpr hm.role]
  dsimp only
  rw [toolTurn, hm.toolCallId]
  simp only [Option.bind_some, hlookup, Option.some_or, Option.getD_some, text_eq_wording]

/-- The candidate's turn stands where its message stood, and every later answer to one of its calls
is named after the function, unless the id was used again in between. -/
structure Restores (c : Candidate) (choice : Choice) (earlier later : List Message)
    (contents : List Content) : Prop where
  whole : Becomes (earlier ++ choice.echo :: later) contents
  turn : ∃ before after, contents = before ++ c.modelTurn :: after ∧ Becomes earlier before
  answer : ∀ between m behind id f, later = between ++ m :: behind → AnswersTo m id →
    (id, f) ∈ issued c choice → (∀ call ∈ callsIn between, call.id ≠ id) →
    ∃ before middle turn after, contents = before ++ c.modelTurn :: (middle ++ turn :: after) ∧
      Becomes earlier before ∧
      Becomes (earlier ++ choice.echo :: between) (before ++ c.modelTurn :: middle) ∧
      ResponseTurn m f turn

/-- A candidate with visible text or calls, whose message is sent back with answers to its calls, is
restored in the next request. -/
theorem echo_restores {r : ChatResponse} {model : String} {usage : Usage} {stamp : Stamp}
    {place : Nat} {c : Candidate} (hc : r.candidates[place]? = some c)
    (hspoken : c.shown ≠ "" ∨ c.called ≠ [])
    (hids : ((completion model usage r stamp).1.choices.flatMap fun choice =>
      choice.toolCalls.map (·.id)).Nodup)
    (hargs : ∀ f ∈ c.called, Json.readText? f.args.text = some f.args) :
    ∃ choice message, (completion model usage r stamp).1.choices[place]? = some choice ∧
      choice.json.get? "message" = some message ∧
      Message.decoder .json message.document = .ok choice.echo ∧
      ∀ (s : GeminiSettings) (call : Call) (request : ChatRequest) (earlier later : List Message),
        request.messages = earlier ++ choice.echo :: later →
        ∃ body : ChatBody, convert s call (.chat request) = .ok (body.json.sorted, call) ∧
          Restores c choice earlier later body.contents := by
  obtain ⟨choice, hchoice, htext, hcalls⟩ := exists_choice hc 0 stamp
  have hnodup : (choice.toolCalls.map (·.id)).Nodup :=
    (List.nodup_flatMap.mp hids).1 choice (List.mem_of_getElem? hchoice)
  refine ⟨choice, choice.message, hchoice, choice.get?_message, decoder_message choice,
    fun s call request earlier later hmessages => ?_⟩
  have hturns : ∀ behind, turns [] (earlier ++ choice.echo :: behind) = turns [] earlier ++
      c.modelTurn :: turns ((CallNames.after [] earlier).add choice.echo) behind := by
    intro behind
    rw [turns_append, turns_echo htext hcalls hargs hspoken]
  have hbody : ∃ body : ChatBody, chatBody request call.providerModel s = .ok body ∧
      body.contents = turns [] request.messages := by
    rw [chatBody, if_neg (by simp [hmessages]), if_neg (by simp [hmessages, hturns])]
    exact ⟨_, rfl, rfl⟩
  obtain ⟨body, hbody, hcontents⟩ := hbody
  rw [hmessages] at hcontents
  refine ⟨body, by rw [convert, hbody]; rfl, becomes_iff.mpr hcontents,
    ⟨_, _, hcontents.trans (hturns later), becomes_iff.mpr rfl⟩, ?_⟩
  rintro between m behind id f rfl hm hissued hfresh
  obtain ⟨turn, hturn, hsplit⟩ := @turns_answer _ _ behind _ _ _ hm
    (lookup_issued hcalls hnodup hissued (CallNames.after [] earlier)) hfresh
  rw [hturns, hsplit] at hcontents
  exact ⟨_, _, _, _, hcontents, becomes_iff.mpr rfl, becomes_iff.mpr (hturns between).symm, hturn⟩

theorem echo_restores_two_calls :
    let look : FunctionCall := ⟨"look", .obj [("at", .str "sky")]⟩
    let book : FunctionCall := ⟨"book", .obj []⟩
    let c : Candidate := { content := some { role := some "model", parts := [
      { text := some "Hm.", thought := some true }, { text := some "Let me " },
      { text := some "see." }, { functionCall := some look }, { functionCall := some book }] } }
    let call : Call := {
      channelId := 1, provider := .gemini, wire := .gemini, requestedModel := "gemini-2.5-flash"
      providerModel := "gemini-2.5-flash", isStream := false, mode := .chat, baseUrl := ""
      apiKey := "k", group := "default", promptTokens := 2, includeUsage := false
      cacheWriteTokens := 0, timeoutMs := 5000 }
    let asked : Message := { role := "user", content := some (.text "hi") }
    let answering (id text : String) : Message :=
      { role := "tool", content := some (.text text), toolCallId := some id }
    ∃ choice idOfLook idOfBook, issued c choice = [(idOfLook, look), (idOfBook, book)] ∧
      let later := [answering idOfBook "booked", answering idOfLook "\x7b\"seen\":7\x7d"]
      let chat : ChatRequest :=
        { model := "gemini-2.5-flash", messages := asked :: choice.echo :: later }
      ∃ body : ChatBody, convert {} call (.chat chat) = .ok (body.json.sorted, call) ∧
        Restores c choice [asked] later body.contents ∧
        body.contents = [
          { role := some "user", parts := [{ text := some "hi" }] },
          { role := some "model", parts := [{ text := some "Let me see." },
            { functionCall := some look }, { functionCall := some book }] },
          { role := some "user", parts := [
            { functionResponse := some ⟨"book", .obj [("content", .str "booked")]⟩ }] },
          { role := some "user", parts := [
            { functionResponse := some ⟨"look", .obj [("seen", .nat 7)]⟩ }] }] := by
  intro look book c call asked answering
  obtain ⟨choice, message, hchoice, -, -, hrestores⟩ := @echo_restores { candidates := [c] }
    "gemini-2.5-flash" ⟨1, 1, 2, none, none⟩ ⟨0, 0⟩ 0 c rfl (.inr (by decide +kernel))
    (by decide +kernel) (by decide +kernel)
  have hmade := Option.some.inj hchoice
  refine ⟨choice, "call_" ++ idOf 0, "call_" ++ idOf 1, by rw [← hmade]; rfl, ?_⟩
  intro later chat
  obtain ⟨body, hbody, hrestored⟩ := hrestores {} call chat [asked] later rfl
  refine ⟨body, hbody, hrestored, ?_⟩
  rw [becomes_iff.mp hrestored.whole, ← hmade]
  decide +kernel

theorem empty_candidate_lost :
    let c : Candidate := { finishReason := some "SAFETY" }
    let call : Call := {
      channelId := 1, provider := .gemini, wire := .gemini, requestedModel := "gemini-2.5-flash"
      providerModel := "gemini-2.5-flash", isStream := false, mode := .chat, baseUrl := ""
      apiKey := "k", group := "default", promptTokens := 2, includeUsage := false
      cacheWriteTokens := 0, timeoutMs := 5000 }
    let r : ChatResponse := { candidates := [c] }
    ∃ (choice : Choice) (message : Json) (body : ChatBody),
      (completion "gemini-2.5-flash" ⟨1, 0, 1, none, none⟩ r ⟨0, 0⟩).1.choices[0]? = some choice ∧
      choice.json.get? "message" = some message ∧
      Message.decoder .json message.document = .ok choice.echo ∧
      convert {} call (.chat {
        model := "gemini-2.5-flash"
        messages := [{ role := "user", content := some (.text "hi") }, choice.echo] }) =
          .ok (body.json.sorted, call) ∧
      body.contents = [{ role := some "user", parts := [{ text := some "hi" }] }] := by
  intro c call r
  have hchoice : (completion "gemini-2.5-flash" ⟨1, 0, 1, none, none⟩ r ⟨0, 0⟩).1.choices[0]? =
      some ⟨0, "", [], some "content_filter"⟩ := by decide +kernel
  refine ⟨_, _, _, hchoice, Choice.get?_message _, decoder_message _, rfl, ?_⟩
  decide +kernel

end ModelGateway.Wire.Gemini
