import ModelGateway.Proofs.Chat.Rewriting
import ModelGateway.Wire.Basic

/-!
# Requests through the compatible wire

The body for a chat is written from the fields of the request.  A member that no field is there for
is left out of it, at whatever depth it stands, and the request is accepted all the same.
-/

namespace ModelGateway.Wire.Compatible

def replaced (r : ChatRequest) : List String :=
  "model" :: if r.stream then ["stream_options"] else []

/-- The body has every member of the object that was read, up to the given keys. -/
def Carries (replaced : List String) (d : Json.Document) (body : Json) : Prop :=
  ∃ members, d.value? = some (.obj members) ∧
    ∀ m ∈ members, m.1 ∉ replaced → m.2.KeptAs (body.get? m.1)

/-- The request has a field for every member of the object that was read, up to the given keys. -/
def Knows (replaced : List String) (d : Json.Document) : Prop :=
  ∃ members, d.value? = some (.obj members) ∧
    ∀ m ∈ members, m.1 ∉ replaced → ChatRequest.shape.Knows m

def bodyOf (call : Call) (r : ChatRequest) : Json :=
  (askingForUsage r).json.sorted.withMember "model" (.str call.providerModel)

theorem get?_bodyOf (call : Call) (r : ChatRequest) (key : String) :
    (bodyOf call r).get? key =
      if key = "model" then some (.str call.providerModel)
      else (askingForUsage r).json.sorted.get? key :=
  Json.lookup_insertMember key

theorem get?_askingForUsage (r : ChatRequest) {key : String} (hkey : key ∉ replaced r) :
    (askingForUsage r).json.sorted.get? key = r.json.sorted.get? key := by
  unfold askingForUsage
  split
  · next hstream =>
    have hne : key ≠ "stream_options" := by
      rintro rfl
      simp [replaced, hstream] at hkey
    exact (r.get?_withStreamOptions _ key).trans (if_neg hne)
  · rfl

theorem get?_stream_options {r : ChatRequest} (hstream : r.stream = true) :
    (askingForUsage r).json.sorted.get? "stream_options" =
      some (.obj [("include_usage", .bool true)]) := by
  rw [askingForUsage, if_pos hstream]
  exact (r.get?_withStreamOptions _ _).trans (if_pos rfl)

theorem carries_iff_knows (call : Call) {d : Json.Document} {r : ChatRequest}
    (h : ChatRequest.decoder .json d = .ok r) :
    Carries (replaced r) d (bodyOf call r) ↔ Knows (replaced r) d := by
  rcases Json.RecordReader.decoder_cases h with ⟨documents, rfl⟩ | ⟨items, rfl⟩
  · obtain ⟨fields, hjson, hfields⟩ := ChatRequest.fieldsKeep h
    refine exists_congr fun members => and_congr_right fun hvalue => forall₂_congr fun m hm =>
      imp_congr_right fun hkey => ?_
    obtain ⟨values, hvalues, hsorted⟩ := Option.map_eq_some_iff.mp hvalue
    obtain rfl := Json.obj.inj hsorted
    have hmodel : m.1 ≠ "model" := fun hname => hkey (hname ▸ List.mem_cons_self)
    rw [get?_bodyOf, if_neg hmodel, get?_askingForUsage r hkey, hjson]
    exact hfields.keptAs_iff (by decide) hvalues (Json.mem_of_mem_sortMembers hm)
  · -- A request that is given as an array is no object.
    have hnot (members) : (Json.Document.arr items).value? ≠ some (.obj members) := fun hvalue => by
      obtain ⟨_, -, hobj⟩ := Option.map_eq_some_iff.mp hvalue
      cases hobj
    exact iff_of_false (fun ⟨members, h, _⟩ => hnot members h) fun ⟨members, h, _⟩ =>
      hnot members h

/-- The body for a chat names the provider's model, asks for usage if it is streamed, and carries
the other members of the client's object exactly if the request has a field for each of them. -/
theorem convert_carries_iff_knows (s : GeminiSettings) {call : Call} (hwire : call.wire = .openai)
    {d : Json.Document} {r : ChatRequest} (h : ChatRequest.decoder .json d = .ok r) :
    ∃ body, Wire.convert s call (.chat r) = .ok (body, call) ∧
      body.get? "model" = some (.str call.providerModel) ∧
      (r.stream = true → body.get? "stream_options" =
        some (.obj [("include_usage", .bool true)])) ∧
      (Carries (replaced r) d body ↔ Knows (replaced r) d) := by
  refine ⟨bodyOf call r, ?_, ?_, fun hstream => ?_, carries_iff_knows call h⟩
  · rw [Wire.convert, hwire]
    rfl
  · exact (get?_bodyOf ..).trans (if_pos rfl)
  · rw [get?_bodyOf, if_neg (by decide), get?_stream_options hstream]

def plainCall : Call := {
  channelId := 1, provider := .openai, wire := .openai, requestedModel := "fast"
  providerModel := "gpt-4o", isStream := false, mode := .chat, baseUrl := "https://api.openai.com"
  apiKey := "k", group := "default", promptTokens := 1, includeUsage := false
  cacheWriteTokens := 0, timeoutMs := 5000 }

def hello : ChatRequest := { model := "fast", messages := [.ofText "user" "hi"] }

def helloWith (members : List (Option String × Json.Document)) : Json.Document :=
  .obj ([(some "model", .str "fast"),
    (some "messages", .arr [.obj [(some "role", .str "user"), (some "content", .str "hi")]])] ++
    members)

theorem knows_hello : Knows (replaced hello) (helloWith []) := by
  have hmessage : Message.shape.IsObject (.obj [("content", .str "hi"), ("role", .str "user")]) :=
    ⟨_, rfl, by simp [Json.Shape.Knows, Message.shape, Json.Each, Json.Any]⟩
  refine ⟨[("messages", .arr [.obj [("content", .str "hi"), ("role", .str "user")]]),
    ("model", .str "fast")], rfl, fun m hm hreplaced => ?_⟩
  rcases List.mem_cons.mp hm with rfl | hm
  · refine .inr ⟨_, List.mem_cons_of_mem _ List.mem_cons_self, by simp, ?_⟩
    rintro items ⟨⟩
    simpa using hmessage
  · obtain rfl := List.mem_singleton.mp hm
    exact absurd List.mem_cons_self hreplaced

theorem convert_carries_iff_knows_hello :
    plainCall.wire = .openai ∧ ChatRequest.decoder .json (helloWith []) = .ok hello ∧
      ∃ body, Wire.convert {} plainCall (.chat hello) = .ok (body, plainCall) ∧
        body.get? "model" = some (.str "gpt-4o") ∧ Carries ["model"] (helloWith []) body := by
  have hwire : plainCall.wire = .openai := rfl
  have hdecode : ChatRequest.decoder .json (helloWith []) = .ok hello := rfl
  obtain ⟨body, hconvert, hmodel, -, hcarries⟩ := convert_carries_iff_knows {} hwire hdecode
  exact ⟨hwire, hdecode, body, hconvert, hmodel, hcarries.mpr knows_hello⟩

theorem seed_not_carried :
    let d := helloWith [(some "seed", .num (.int 7))]
    ∃ r, ChatRequest.decoder .json d = .ok r ∧
      ∃ body, Wire.convert {} plainCall (.chat r) = .ok (body, plainCall) ∧
        ¬ Carries (replaced r) d body := by
  refine ⟨hello, rfl, bodyOf plainCall hello, rfl, fun ⟨members, hvalue, hcarries⟩ => ?_⟩
  obtain rfl := Json.obj.inj (Option.some.inj hvalue)
  have hmem : ("seed", Json.num (.int 7)) ∈ Json.sortMembers
      [("model", .str "fast"), ("messages", .arr [.obj [("content", .str "hi"),
        ("role", .str "user")]]), ("seed", .num (.int 7))] := by decide
  have hkept := hcarries _ hmem (by decide)
  have hbody : (bodyOf plainCall hello).get? "seed" = none := by decide
  rw [hbody] at hkept
  cases hkept

end ModelGateway.Wire.Compatible
