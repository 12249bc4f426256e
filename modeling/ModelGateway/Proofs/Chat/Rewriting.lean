import ModelGateway.Proofs.Json.Rewriting
import ModelGateway.Request.Chat

/-!
# Chat requests that are read and written again

Every record of a chat request is written with the fields that it has.  Of an object that is read as
such a record exactly the members with these names are kept.
-/

namespace ModelGateway

open Json (Any Each IsDouble Shape)
open Json.RecordReader (keeps_decoder reads_map reads_seq)

def ImageUrl.shape : Shape := [("url", Any), ("detail", Any)]

theorem ImageUrl.keeps : decoder.Keeps json shape.IsObject :=
  keeps_decoder (by decide) fun _ => ⟨_, rfl, fun documents h => by
    simp only [reads_seq, reads_map] at h
    obtain ⟨_, detail, ⟨url, hurl, rfl⟩, hdetail, rfl⟩ := h
    exact .cons (.required .string nofun hurl) (.cons (.nullable .string hdetail) .nil)⟩

def ContentPart.shape : Shape :=
  [("type", Any), ("text", Any), ("image_url", ImageUrl.shape.IsObject)]

theorem ContentPart.keeps : decoder.Keeps json shape.IsObject :=
  keeps_decoder (by decide) fun _ => ⟨_, rfl, fun documents h => by
    simp only [reads_seq, reads_map] at h
    obtain ⟨_, imageUrl, ⟨_, text, ⟨kind, hkind, rfl⟩, htext, rfl⟩, himageUrl, rfl⟩ := h
    exact .cons (.required .string nofun hkind) (.cons (.nullable .string htext)
      (.cons (.nullable ImageUrl.keeps himageUrl) .nil))⟩

theorem Content.keeps : decoder.Keeps json (Each ContentPart.shape.IsObject) :=
  .either (.mapped (.string_of fun _ => nofun)) (.mapped (.list ContentPart.keeps))

def FunctionCall.shape : Shape := [("name", Any), ("arguments", Any)]

theorem FunctionCall.keeps : decoder.Keeps json shape.IsObject :=
  keeps_decoder (by decide) fun _ => ⟨_, rfl, fun documents h => by
    simp only [reads_seq, reads_map] at h
    obtain ⟨_, arguments, ⟨name, hname, rfl⟩, harguments, rfl⟩ := h
    exact .cons (.withDefault .string nofun hname) (.cons (.withDefault .string nofun harguments)
      .nil)⟩

def ToolCall.shape : Shape :=
  [("index", Any), ("id", Any), ("type", Any), ("function", FunctionCall.shape.IsObject)]

theorem ToolCall.keeps : decoder.Keeps json shape.IsObject :=
  keeps_decoder (by decide) fun _ => ⟨_, rfl, fun documents h => by
    simp only [reads_seq, reads_map] at h
    obtain ⟨_, function, ⟨_, kind, ⟨_, id, ⟨index, hindex, rfl⟩, hid, rfl⟩, hkind, rfl⟩, hfunction,
      rfl⟩ := h
    exact .cons (.nullable .nat32 hindex) (.cons (.withDefault .string nofun hid)
      (.cons (.withDefault .string nofun hkind) (.cons (.required FunctionCall.keeps nofun hfunction)
      .nil)))⟩

def FunctionDefinition.shape : Shape := [("name", Any), ("description", Any), ("parameters", Any)]

theorem FunctionDefinition.keeps : decoder.Keeps json shape.IsObject :=
  keeps_decoder (by decide) fun _ => ⟨_, rfl, fun documents h => by
    simp only [reads_seq, reads_map] at h
    obtain ⟨_, parameters, ⟨_, description, ⟨name, hname, rfl⟩, hdescription, rfl⟩, hparameters,
      rfl⟩ := h
    exact .cons (.required .string nofun hname) (.cons (.nullable .string hdescription)
      (.cons (.nullable .json hparameters) .nil))⟩

def ToolDefinition.shape : Shape :=
  [("type", Any), ("function", FunctionDefinition.shape.IsObject)]

theorem ToolDefinition.keeps : decoder.Keeps json shape.IsObject :=
  keeps_decoder (by decide) fun _ => ⟨_, rfl, fun documents h => by
    simp only [reads_seq, reads_map] at h
    obtain ⟨_, function, ⟨kind, hkind, rfl⟩, hfunction, rfl⟩ := h
    exact .cons (.withDefault .string nofun hkind)
      (.cons (.required FunctionDefinition.keeps nofun hfunction) .nil)⟩

def Message.shape : Shape :=
  [("role", Any), ("content", Each ContentPart.shape.IsObject), ("name", Any),
    ("tool_calls", Each ToolCall.shape.IsObject), ("tool_call_id", Any)]

theorem Message.keeps : decoder.Keeps json shape.IsObject :=
  keeps_decoder (by decide) fun _ => ⟨_, rfl, fun documents h => by
    simp only [reads_seq, reads_map] at h
    obtain ⟨_, toolCallId, ⟨_, toolCalls, ⟨_, name, ⟨_, content, ⟨role, hrole, rfl⟩, hcontent, rfl⟩,
      hname, rfl⟩, htoolCalls, rfl⟩, htoolCallId, rfl⟩ := h
    exact .cons (.required .string nofun hrole) (.cons (.nullable Content.keeps hcontent)
      (.cons (.nullable .string hname) (.cons (.nullable (.list ToolCall.keeps) htoolCalls)
      (.cons (.nullable .string htoolCallId) .nil))))⟩

def ResponseFormat.shape : Shape := [("type", Any), ("json_schema", Any)]

theorem ResponseFormat.keeps : decoder.Keeps json shape.IsObject :=
  keeps_decoder (by decide) fun _ => ⟨_, rfl, fun documents h => by
    simp only [reads_seq, reads_map] at h
    obtain ⟨_, schema, ⟨kind, hkind, rfl⟩, hschema, rfl⟩ := h
    exact .cons (.required .string nofun hkind) (.cons (.nullable .json hschema) .nil)⟩

def StreamOptions.shape : Shape := [("include_usage", Any)]

theorem StreamOptions.keeps : decoder.Keeps json shape.IsObject :=
  keeps_decoder (by decide) fun _ => ⟨_, rfl, fun documents h => by
    obtain ⟨includeUsage, hincludeUsage, rfl⟩ := reads_map.mp h
    exact .cons (.withDefault .bool nofun hincludeUsage) .nil⟩

namespace ChatRequest

/-- The members that a chat request has a field for, with their values. -/
def shape : Shape :=
  [("model", Any), ("messages", fun x => x ≠ .arr [] ∧ Each Message.shape.IsObject x),
    ("stream", fun x => x ≠ .bool false ∧ Any x),
    ("stream_options", StreamOptions.shape.IsObject), ("max_tokens", Any),
    ("max_completion_tokens", Any), ("temperature", IsDouble), ("top_p", IsDouble),
    ("top_k", Any), ("n", Any), ("stop", Any), ("tools", Each ToolDefinition.shape.IsObject),
    ("tool_choice", Any), ("response_format", ResponseFormat.shape.IsObject),
    ("reasoning_effort", Any), ("input", Any), ("user", Any)]

theorem bool_false_iff {d : Json.Document} {x : Json} {b : Bool} (hx : d.value? = some x)
    (hb : Json.Decoder.bool .json d = .ok b) : (!b) = true ↔ x = .bool false := by
  cases d with
  | bool b' =>
      obtain rfl := Except.ok.inj hb
      obtain rfl := Option.some.inj hx
      simp
  | _ => cases hb

theorem keeps_stream {documents : List (Option String × Json.Document)} {stream : Bool}
    (h : (Json.RecordReader.withDefault "stream" .bool false).Reads documents stream) :
    (if stream then Json.Field.of "stream" (.bool true) else .absent).Keeps documents "stream"
      fun x => x ≠ .bool false ∧ Any x := by
  have hkeeps : (if !stream then Json.Field.absent else .of "stream" (.bool stream)).Keeps
      documents "stream" fun x => x ≠ .bool false ∧ Any x :=
    .omitting .bool nofun (fun _ _ _ => bool_false_iff) h
  cases stream <;> exact hkeeps

theorem fieldsKeep {documents : List (Option String × Json.Document)} {r : ChatRequest}
    (h : decoder .json (.obj documents) = .ok r) :
    ∃ fields, r.json = .record fields ∧ Json.FieldsKeep documents shape fields := by
  have hreads := (Json.RecordReader.decoder_obj_iff.mp h).1
  simp only [reads_seq, reads_map] at hreads
  obtain ⟨_, user, ⟨_, input, ⟨_, effort, ⟨_, format, ⟨_, toolChoice, ⟨_, tools, ⟨_, stop, ⟨_, n,
    ⟨_, topK, ⟨_, topP, ⟨_, temperature, ⟨_, maxCompletion, ⟨_, maxTokens, ⟨_, options, ⟨_, stream,
    ⟨_, messages, ⟨model, hmodel, rfl⟩, hmessages, rfl⟩, hstream, rfl⟩, hoptions, rfl⟩, hmaxTokens,
    rfl⟩, hmaxCompletion, rfl⟩, htemperature, rfl⟩, htopP, rfl⟩, htopK, rfl⟩, hn, rfl⟩, hstop, rfl⟩,
    htools, rfl⟩, htoolChoice, rfl⟩, hformat, rfl⟩, heffort, rfl⟩, hinput, rfl⟩, huser, rfl⟩ := hreads
  refine ⟨_, rfl, ?_⟩
  refine .cons (.required .string nofun hmodel) ?_
  refine .cons (.omitting (.list Message.keeps) nofun
    (fun _ _ _ => Json.Decoder.Keeps.isEmpty_list_iff) hmessages) ?_
  refine .cons (keeps_stream hstream) ?_
  refine .cons (.nullableInPlace StreamOptions.keeps hoptions) ?_
  refine .cons (.nullableInPlace .nat32 hmaxTokens) ?_
  refine .cons (.nullableInPlace .nat32 hmaxCompletion) ?_
  refine .cons (.nullableInPlace .float htemperature) ?_
  refine .cons (.nullableInPlace .float htopP) ?_
  refine .cons (.nullableInPlace .nat32 htopK) ?_
  refine .cons (.nullableInPlace .nat32 hn) ?_
  refine .cons (.nullableInPlace .json hstop) ?_
  refine .cons (.nullableInPlace (.list ToolDefinition.keeps) htools) ?_
  refine .cons (.nullableInPlace .json htoolChoice) ?_
  refine .cons (.nullableInPlace ResponseFormat.keeps hformat) ?_
  refine .cons (.nullableInPlace .string heffort) ?_
  refine .cons (.nullableInPlace .json hinput) ?_
  exact .cons (.nullableInPlace .string huser) .nil

def withStreamOptions (r : ChatRequest) (options : StreamOptions) : ChatRequest :=
  { r with streamOptions := some options }

theorem exists_fields (r : ChatRequest) :
    ∃ before after : List Json.Field,
      r.json = .record
        (before ++ .ifSome "stream_options" StreamOptions.json r.streamOptions :: after) ∧
      (∀ options, (r.withStreamOptions options).json =
        .record (before ++ .of "stream_options" options.json :: after)) ∧
      List.Forall₂ Json.Field.Named before ["model", "messages", "stream"] ∧
      List.Forall₂ Json.Field.Named after ["max_tokens", "max_completion_tokens", "temperature",
        "top_p", "top_k", "n", "stop", "tools", "tool_choice", "response_format",
        "reasoning_effort", "input", "user"] := by
  refine ⟨[_, _, _], _, rfl, fun _ => rfl, ?_, ?_⟩
  · exact .cons (.of _ _) (.cons (.ite _ (.absent _) (.of _ _))
      (.cons (.ite _ (.of _ _) (.absent _)) .nil))
  · repeat' constructor
    all_goals exact .ifSome _ _ _

theorem get?_withStreamOptions (r : ChatRequest) (options : StreamOptions) (key : String) :
    (r.withStreamOptions options).json.sorted.get? key =
      if key = "stream_options" then some options.json.sorted else r.json.sorted.get? key := by
  obtain ⟨before, after, hjson, hwith, hbefore, hafter⟩ := r.exists_fields
  have hnamed {f : Json.Field} (hf : f.Named "stream_options") :=
    List.rel_append hbefore (List.Forall₂.cons hf hafter)
  have hnodup : (shape.map Prod.fst).Nodup := by decide
  rw [hjson, hwith, Json.Field.Named.get?_sorted (hnamed (.of _ _)) hnodup,
    Json.Field.Named.get?_sorted (hnamed (.ifSome _ _ _)) hnodup]
  split
  · next heq =>
    subst heq
    have hmem : ("stream_options", options.json) ∈
        (before ++ .of "stream_options" options.json :: after).filterMap Json.Field.member? :=
      List.mem_filterMap.mpr
        ⟨_, List.mem_append_right before List.mem_cons_self, rfl⟩
    rw [Json.lookup_of_mem_nodup (hnodup.sublist (Json.Field.Named.names_sublist
      (hnamed (.of _ _)))) hmem]
    rfl
  · next hne =>
    simp only [List.filterMap_append, List.lookup_append,
      (Json.Field.Named.of "stream_options" _).lookup_cons_of_ne hne after,
      (Json.Field.Named.ifSome "stream_options" _ _).lookup_cons_of_ne hne after]

end ChatRequest

end ModelGateway
