import ModelGateway.Health.Tester
import ModelGateway.Proofs.Relay.Settlement

/-!
# The requests of tests

The kind of a test request follows from the name under which the model is tested, its content from
the name that the provider knows.  The request carries something, and the wire of the channel
accepts it, exactly if both names agree on whether the model makes embeddings.
-/

namespace ModelGateway

namespace TestRequest

variable {name : String}

theorem build_embedding (h : ModelName.isEmbedding name = true) (kind : TestKind) :
    (build name kind).input = some (.strings ["hello world"]) ∧
      (build name kind).messages = [] := by
  rw [build, if_pos h]
  exact ⟨rfl, rfl⟩

theorem limited_input (name : String) : (limited name).input = none := by
  unfold limited
  split <;> rfl

theorem build_plain (h : ModelName.isEmbedding name = false) (kind : TestKind) :
    (build name kind).input = none ∧ ∃ instructions text,
      (build name kind).messages = instructions ++ [.ofText "user" text] ∧ text ≠ "" ∧
        ∀ m ∈ instructions, m.role = (limited name).systemRole := by
  rw [build, if_neg (by simp [h])]
  cases kind with
  | text => exact ⟨limited_input name, [], "hi", rfl, by decide, fun _ h => nomatch h⟩
  | json =>
      have hquestion : jsonQuestion name ≠ "" :=
        fun h => absurd (String.append_eq_empty_iff.mp h).2 (by decide)
      exact ⟨limited_input name, [.ofText (limited name).systemRole jsonInstruction], _, rfl,
        hquestion, List.forall_mem_singleton.mpr rfl⟩
  | function =>
      exact ⟨limited_input name, [.ofText (limited name).systemRole functionInstruction], _, rfl,
        by decide, List.forall_mem_singleton.mpr rfl⟩

theorem messages_ne_nil_iff (name : String) (kind : TestKind) :
    (build name kind).messages ≠ [] ↔ ModelName.isEmbedding name = false := by
  cases h : ModelName.isEmbedding name with
  | true => simp [(build_embedding h kind).2]
  | false =>
      obtain ⟨-, instructions, text, hmessages, -⟩ := build_plain h kind
      simp [hmessages]

end TestRequest

/-- A request has what its capability needs: an input that is not blank, or a message. -/
def Request.Carries : Request → Prop
  | .embedding r => ∃ input ∈ r.inputs, Text.isBlankText input = false
  | .chat r => r.messages ≠ []
  | .image _ | .rerank _ | .speech _ | .native _ => True

/-! ## What the wires accept -/

namespace Wire.Gemini

theorem ofRole_systemRole (r : ChatRequest) : Speaker.ofRole r.systemRole = .system := by
  unfold ChatRequest.systemRole
  split <;> decide

theorem turns_instructions {instructions : List Message}
    (h : ∀ m ∈ instructions, Speaker.ofRole m.role = .system) (rest : List Message) :
    turns [] (instructions ++ rest) = turns [] rest := by
  induction instructions with
  | nil => rfl
  | cons m instructions ih =>
      obtain ⟨hm, hrest⟩ := List.forall_mem_cons.mp h
      rw [List.cons_append, turns, hm]
      exact ih hrest

theorem turns_user {text : String} (h : text ≠ "") :
    turns [] [.ofText "user" text] = [{ role := some "user", parts := [.ofText text] }] := by
  have hrole : Speaker.ofRole (Message.ofText "user" text).role = .user :=
    show Speaker.ofRole "user" = .user by decide
  have hparts : messageParts (.ofText "user" text) = [.ofText text] := by
    simp [messageParts, Message.ofText, Message.parts, ContentPart.ofText, partOf?, h]
  simp [turns, hrole, hparts]

end Wire.Gemini

namespace Wire

variable {s : GeminiSettings} {call : Call}

theorem exists_convert_chat_compatible (h : call.wire ≠ .gemini) (r : ChatRequest) :
    ∃ sent, convert s call (.chat r) = .ok sent := by
  cases hwire : call.wire with
  | openai => exact ⟨_, by rw [convert, hwire]; rfl⟩
  | zhipu => exact ⟨_, by rw [convert, hwire]; rfl⟩
  | gemini => exact absurd hwire h

theorem exists_convert_chat_gemini (hwire : call.wire = .gemini) {name : String} {kind : TestKind}
    (h : ModelName.isEmbedding name = false) :
    ∃ sent, convert s call (.chat (TestRequest.build name kind)) = .ok sent := by
  obtain ⟨-, instructions, text, hmessages, htext, hroles⟩ := TestRequest.build_plain h kind
  have hsystem : ∀ m ∈ instructions, Gemini.Speaker.ofRole m.role = .system :=
    fun m hm => hroles m hm ▸ Gemini.ofRole_systemRole _
  have hturns : Gemini.turns [] (TestRequest.build name kind).messages ≠ [] := by
    rw [hmessages, Gemini.turns_instructions hsystem, Gemini.turns_user htext]
    exact List.cons_ne_nil _ _
  obtain ⟨body, hbody⟩ := Gemini.exists_convert_chat s call _ hturns
  exact ⟨_, by rw [convert, hwire]; exact hbody⟩

theorem convert_chat_empty (hwire : call.wire = .gemini) {r : ChatRequest} (h : r.messages = []) :
    convert s call (.chat r) = .error (.invalidInput "messages is required") := by
  rw [convert, hwire]
  simp [Gemini.convert, Gemini.chatBody, h, Except.map]

theorem exists_convert_embedding {r : EmbeddingRequest} {text : String}
    (h : r.input = some (.strings [text])) (hblank : Text.isBlankText text = false) :
    ∃ sent, convert s call (.embedding r) = .ok sent := by
  have hinputs : r.inputs = [text] := by rw [EmbeddingRequest.inputs, h]; rfl
  have hcompatible : ∃ sent, Compatible.convert call (.embedding r) = .ok sent := by
    refine ⟨_, if_neg ?_⟩
    simp [hinputs, hblank]
  unfold convert
  cases call.wire with
  | openai => exact hcompatible
  | zhipu => exact hcompatible
  | gemini =>
      have hempty : text.isEmpty = false := by
        cases he : text.isEmpty with
        | false => rfl
        | true =>
            rw [String.isEmpty_iff.mp he] at hblank
            exact absurd hblank (by decide)
      simp [Gemini.convert, Gemini.embeddingBody, h, hinputs, hempty, Except.map]

theorem convert_embedding_missing {r : EmbeddingRequest} (h : r.input = none) :
    ∃ message, convert s call (.embedding r) = .error (.invalidInput message) := by
  have hcompatible : Compatible.convert call (.embedding r) =
      .error (.invalidInput "embedding input is empty") :=
    if_pos (by simp [EmbeddingRequest.inputs, h])
  unfold convert
  cases call.wire with
  | openai => exact ⟨_, hcompatible⟩
  | zhipu => exact ⟨_, hcompatible⟩
  | gemini =>
      exact ⟨"input is required", by simp [Gemini.convert, Gemini.embeddingBody, h, Except.map]⟩

end Wire

theorem Alias.resolve_nil (name : String) : Alias.resolve [] name = .ok name := rfl

namespace Tester

/-! ## The order of a test -/

theorem prepare_eq {channel : Channel} {wire : Wire} {table : Alias.Table} {model name : String}
    (hwire : channel.provider.wire? = some wire) (haliases : channel.aliases? = some table)
    (hname : Alias.resolve table model = .ok name) (key : String) (mode : RelayMode)
    (timeoutMs : Nat) :
    ∃ call, Call.prepare channel key model mode timeoutMs = .ok call ∧ call.wire = wire ∧
      call.mode = mode ∧ call.requestedModel = model ∧ call.providerModel = name := by
  unfold Call.prepare Call.start
  rw [hwire]
  simp only [Call.withAliases_eq, haliases, hname]
  exact ⟨_, rfl, rfl, rfl, rfl, rfl⟩

theorem modeFor_cases (channel : Channel) (model : String) :
    modeFor channel model = .embeddings ∨ modeFor channel model = .chat := by
  unfold modeFor
  split
  · exact .inl rfl
  · exact .inr rfl

variable {call : Call}

theorem requestFor_embeddings (h : call.mode = .embeddings) (kind : TestKind) :
    requestFor call kind = (call, .embedding {
      model := call.providerModel
      input := (TestRequest.build call.providerModel kind).input }) := by
  rw [requestFor, h]

theorem requestFor_chat (h : call.mode = .chat) (kind : TestKind) :
    requestFor call kind = (call.withChat (TestRequest.build call.providerModel kind),
      .chat (TestRequest.build call.providerModel kind)) := by
  rw [requestFor, h]

theorem carries_requestFor (hmode : call.mode = .embeddings ∨ call.mode = .chat) (kind : TestKind) :
    (requestFor call kind).2.Carries ↔
      (call.mode = .embeddings ↔ ModelName.isEmbedding call.providerModel = true) := by
  rcases hmode with hmode | hmode
  · rw [requestFor_embeddings hmode, Request.Carries, EmbeddingRequest.inputs]
    cases h : ModelName.isEmbedding call.providerModel with
    | true =>
        have hblank : Text.isBlankText "hello world" = false := by decide
        simp [hmode, (TestRequest.build_embedding h kind).1, Json.strings, Json.str?, hblank]
    | false => simp [hmode, (TestRequest.build_plain h kind).1]
  · rw [requestFor_chat hmode, Request.Carries, TestRequest.messages_ne_nil_iff]
    simp [hmode]

def Accepts (call : Call) (request : Request) : Prop :=
  request.Carries ∨ call.mode = .chat ∧ call.wire ≠ .gemini

theorem convert_requestFor (s : GeminiSettings)
    (hmode : call.mode = .embeddings ∨ call.mode = .chat) (kind : TestKind) :
    let test := requestFor call kind
    Accepts call test.2 ∧ (∃ out, Wire.convert s test.1 test.2 = .ok out) ∨
      ¬ Accepts call test.2 ∧
        ∃ message, Wire.convert s test.1 test.2 = .error (.invalidInput message) := by
  intro test
  -- An embedding needs its input on either wire; a chat without messages passes a compatible one.
  have hcarries : test.2.Carries ↔ _ := carries_requestFor hmode kind
  rcases hmode with hmode | hmode
  · have haccepts : Accepts call test.2 ↔
        ModelName.isEmbedding call.providerModel = true := by simp [Accepts, hcarries, hmode]
    rw [haccepts, show test = _ from requestFor_embeddings hmode kind]
    cases hname : ModelName.isEmbedding call.providerModel with
    | true =>
        exact .inl ⟨rfl, Wire.exists_convert_embedding (TestRequest.build_embedding hname kind).1
          (by decide)⟩
    | false =>
        exact .inr ⟨by decide,
          Wire.convert_embedding_missing (TestRequest.build_plain hname kind).1⟩
  · have haccepts : Accepts call test.2 ↔
        ModelName.isEmbedding call.providerModel = false ∨ call.wire ≠ .gemini := by
      simp [Accepts, hcarries, hmode]
    rw [haccepts, show test = _ from requestFor_chat hmode kind]
    have hsame : (call.withChat (TestRequest.build call.providerModel kind)).wire = call.wire := rfl
    by_cases hwire : call.wire = .gemini
    · have hsent := hsame.trans hwire
      cases hname : ModelName.isEmbedding call.providerModel with
      | true =>
          exact .inr ⟨by simp [hwire], _, Wire.convert_chat_empty hsent
            (TestRequest.build_embedding hname kind).2⟩
      | false => exact .inl ⟨.inl rfl, Wire.exists_convert_chat_gemini hsent hname⟩
    · have hsent := hsame.trans_ne hwire
      exact .inl ⟨.inr hwire, Wire.exists_convert_chat_compatible hsent _⟩

theorem order_eq {s : Settings} {channel : Channel} {wire : Wire} {table : Alias.Table}
    {model name : String} {price : Price} (hwire : channel.provider.wire? = some wire)
    (hkeys : channel.keys ≠ []) (haliases : channel.aliases? = some table)
    (hname : Alias.resolve table model = .ok name)
    (hprice : s.pricing.priceFor model = .ok price) (kind : TestKind) :
    ∃ call, call.wire = wire ∧ call.mode = modeFor channel model ∧ call.providerModel = name ∧
      order s channel model kind = .ok
        ⟨(requestFor call kind).1, (requestFor call kind).2, price, "channel test",
          kind.name ++ " test"⟩ := by
  obtain ⟨key, hkey⟩ : ∃ key, channel.keys.head? = some key := by
    cases h : channel.keys with
    | nil => exact absurd h hkeys
    | cons key rest => exact ⟨key, rfl⟩
  have htestable : channel.provider.untestableName? = none := by
    rw [← Option.not_isSome_iff_eq_none, Provider.untestableName?_isSome, hwire]
    simp
  obtain ⟨call, hcall, hw, hm, hrequested, hp⟩ := prepare_eq hwire haliases hname key
    (modeFor channel model) (s.relay.timeoutSecs * 1000)
  refine ⟨call, hw, hm, hp, ?_⟩
  rw [← hrequested] at hprice
  simp [order, htestable, hkey, hcall, hprice, bind, Except.bind, pure, Except.pure]

variable {σ : Type} {s : Settings}

theorem run_of_refused {ordered : Order} {f : RelayFailure}
    (h : Wire.convert s.gemini ordered.call ordered.request = .error f) (network : Network σ)
    (world : RelayState σ) : ordered.run s network world = (Relay.fail ordered.call f, world) := by
  have hrelay : RelayState.relay s network ordered.call ordered.request world =
      (Relay.fail ordered.call f, world) := by
    simp [RelayState.relay, RelayState.services, Relay.once, h]
  rw [Order.run_eq, hrelay]
  rfl

theorem probe_of_order {channel : Channel} {requested : Option String} {kind : TestKind}
    {ordered : Order}
    (h : order s channel (TestRequest.modelFor channel requested) kind = .ok ordered)
    (network : Network σ) (elapsedNanos : Nat) (world : RelayState σ) :
    probe s network elapsedNanos channel requested kind world =
      (⟨0, (failure? (ordered.run s network world).1.outcome).map
        (⟨TestRequest.modelFor channel requested, elapsedNanos, ·⟩)⟩,
        (ordered.run s network world).2) := by
  unfold probe
  simp only [h]
  rfl

/-- The request of a test carries something exactly if the requested name and the provider's name
agree on whether the model makes embeddings.  Without it, all but a chat on a compatible wire fail
as invalid input, and nothing is sent. -/
theorem order_carries_iff {channel : Channel} {wire : Wire} {table : Alias.Table}
    {requested : Option String} {name : String} {price : Price}
    (hwire : channel.provider.wire? = some wire) (hkeys : channel.keys ≠ [])
    (haliases : channel.aliases? = some table)
    (hname : Alias.resolve table (TestRequest.modelFor channel requested) = .ok name)
    (hprice : s.pricing.priceFor (TestRequest.modelFor channel requested) = .ok price)
    (kind : TestKind) (network : Network σ) (elapsedNanos : Nat) (world : RelayState σ) :
    let model := TestRequest.modelFor channel requested
    ∃ ordered, order s channel model kind = .ok ordered ∧
      (ordered.request.Carries ↔
        (modeFor channel model = .embeddings ↔ ModelName.isEmbedding name = true)) ∧
      ((∃ out, Wire.convert s.gemini ordered.call ordered.request = .ok out) ↔
        ordered.request.Carries ∨ modeFor channel model = .chat ∧ wire ≠ .gemini) ∧
      ∀ f, Wire.convert s.gemini ordered.call ordered.request = .error f →
        f.kind = .invalidInput ∧
          probe s network elapsedNanos channel requested kind world =
            (⟨0, some ⟨model, elapsedNanos, some f⟩⟩, world) := by
  intro model
  obtain ⟨call, rfl, hmode, rfl, horder⟩ := order_eq hwire hkeys haliases hname hprice kind
  have hcases := hmode ▸ modeFor_cases channel model
  refine ⟨_, horder, hmode ▸ carries_requestFor hcases kind, ?_, ?_⟩
  · rcases convert_requestFor s.gemini hcases kind with ⟨haccepts, hout⟩ | ⟨hrefuses, _, hout⟩
    · exact iff_of_true hout (hmode ▸ haccepts)
    · refine iff_of_false ?_ (hmode ▸ hrefuses)
      rintro ⟨out, htaken⟩
      cases hout.symm.trans htaken
  · intro f hf
    rcases convert_requestFor s.gemini hcases kind with ⟨-, out, hout⟩ | ⟨-, message, hout⟩
    · cases hout.symm.trans hf
    · refine ⟨Except.error.inj (hf.symm.trans hout) ▸ rfl, ?_⟩
      rw [probe_of_order horder, run_of_refused hf]
      rfl

theorem order_carries_iff_gemini :
    let channel : Channel := {
      id := 1, name := "one", provider := .gemini, baseUrl := none, key := "k"
      models := "gemini-2.5-flash", testModel := none, modelMapping := none, group := "default"
      status := .enabled, responseTimeMs := 0, autoBan := true, testTime := none }
    ∃ ordered, order {} channel "gemini-2.5-flash" .function = .ok ordered ∧
      ordered.request.Carries ∧
      ∃ out, Wire.convert {} ordered.call ordered.request = .ok out := by
  intro channel
  have hmodel : TestRequest.modelFor channel none = "gemini-2.5-flash" := by decide +kernel
  obtain ⟨ordered, horder, hcarries, htaken, -⟩ := order_carries_iff (s := {}) rfl
    (show channel.keys ≠ [] by decide +kernel) rfl (Alias.resolve_nil _) rfl .function
    (fun _ => pure .unreachable) 0 (⟨(), {}, {}, ⟨0, 0⟩⟩ : RelayState Unit)
  rw [hmodel] at horder hcarries
  have hcarried := hcarries.mpr (by decide +kernel)
  exact ⟨ordered, horder, hcarried, htaken.mpr (.inl hcarried)⟩

/-- A chat model on a channel for embeddings is tested with an embedding of nothing. -/
theorem test_of_nothing :
    let channel : Channel := {
      id := 1, name := "one", provider := .mokaAi, baseUrl := none, key := "k"
      models := "gpt-4o-mini", testModel := none, modelMapping := none, group := "default"
      status := .enabled, responseTimeMs := 0, autoBan := true, testTime := none }
    ∃ ordered, order {} channel "gpt-4o-mini" .text = .ok ordered ∧
      ¬ ordered.request.Carries ∧
      ∃ message, Wire.convert {} ordered.call ordered.request =
        .error (.invalidInput message) := by
  intro channel
  have hmode : modeFor channel "gpt-4o-mini" = .embeddings := by decide +kernel
  have hplain : ModelName.isEmbedding "gpt-4o-mini" = false := by decide +kernel
  obtain ⟨call, -, hcall, hp, horder⟩ := order_eq (s := {}) rfl
    (show channel.keys ≠ [] by decide +kernel) rfl (Alias.resolve_nil "gpt-4o-mini") rfl .text
  rw [hmode] at hcall
  have hnothing : ¬ (requestFor call .text).2.Carries := by
    rw [carries_requestFor (.inl hcall), hp, hplain]
    simp [hcall]
  refine ⟨_, horder, hnothing, ?_⟩
  rcases convert_requestFor {} (.inl hcall) .text with ⟨haccepts, -⟩ | ⟨-, hrefused⟩
  · rcases haccepts with hcarries | ⟨hchat, -⟩
    · exact absurd hcarries hnothing
    · cases hcall.symm.trans hchat
  · exact hrefused

end Tester

end ModelGateway
