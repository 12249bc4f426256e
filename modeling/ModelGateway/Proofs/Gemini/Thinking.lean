import ModelGateway.Proofs.Gemini.Agreement
import ModelGateway.Proofs.Gemini.Prompts
import ModelGateway.Proofs.Relay.Addressees
import ModelGateway.Proofs.ThinkingSuffixes

/-!
# Models with a thinking suffix

With the adapter, a call uses the base of the provider's name for the model everywhere, and a chat
has the configuration that the suffix asks for.  Without it, a call uses the whole name and a chat
has no such configuration.
-/

namespace ModelGateway.Wire.Gemini

variable {s : GeminiSettings} {call call' : Call} {body : Json} {name : String}

def budgetRange (model : String) : Nat × Nat :=
  if Text.containsText "2.5-pro" model then (128, 32768)
  else if Text.containsText "flash-lite" model then (512, 24576)
  else (0, 24576)

def clamped (range : Nat × Nat) (n : Nat) : Nat :=
  if n < range.1 then range.1 else if range.2 < n then range.2 else n

/-- The configuration that a chat asks for, under a base name. -/
def asked? (base : String) : ModelName.Thinking → Option Json
  | .unspecified => none
  | .off => some (.obj [("thinkingBudget", .nat 0)])
  | .on none => some (.obj [("includeThoughts", .bool true)])
  | .on (some n) => some (.obj
      [("includeThoughts", .bool true), ("thinkingBudget", .nat (clamped (budgetRange base) n))])

theorem clampBudget_eq_clamped (model : String) (n : Nat) :
    clampBudget model n = clamped (budgetRange model) n := by
  unfold clampBudget budgetRange clamped
  split
  · grind
  · split <;> grind

theorem map_thinkingConfig? (name : String) :
    (thinkingConfig? name).map (·.json.sorted) =
      asked? (ModelName.parseThinking name).1 (ModelName.parseThinking name).2 := by
  unfold thinkingConfig?
  rcases ModelName.parseThinking name with ⟨base, _ | _ | _ | n⟩
  · rfl
  · rfl
  · rfl
  · simp only [Option.map_some, clampBudget_eq_clamped]
    rfl

theorem get?_thinkingConfig (c : GenerationConfig) :
    c.json.sorted.get? "thinkingConfig" = c.thinkingConfig.map (·.json.sorted) := by
  obtain ⟨fields, hjson, hnamed⟩ : ∃ fields, c.json = .record fields ∧
      List.Forall₂ Json.Field.Named fields ["temperature", "topP", "topK", "maxOutputTokens",
        "candidateCount", "stopSequences", "responseMimeType", "responseSchema",
        "thinkingConfig"] :=
    ⟨_, rfl, .cons (.ifSome _ _ _) <| .cons (.ifSome _ _ _) <| .cons (.ifSome _ _ _) <|
      .cons (.ifSome _ _ _) <| .cons (.ifSome _ _ _) <| .cons (.ifSome _ _ _) <|
      .cons (.ifSome _ _ _) <| .cons (.ifSome _ _ _) <| .cons (.ifSome _ _ _) .nil⟩
  have hget : c.json.get? "thinkingConfig" = c.thinkingConfig.map ThinkingConfig.json := by
    simp [GenerationConfig.json]
  rw [hjson] at hget ⊢
  rw [Json.Field.Named.get?_sorted hnamed (by decide)]
  exact (congrArg (Option.map Json.sorted) hget).trans (Option.map_map _ _ _)

theorem thinkingConfig_withFormat (c : GenerationConfig) (format : Option ResponseFormat) :
    (withFormat c format).thinkingConfig = c.thinkingConfig := by
  unfold withFormat
  split
  · rfl
  · split <;> rfl

theorem thinkingConfig_generationConfig (r : ChatRequest) (model : String) (s : GeminiSettings) :
    (generationConfig r model s).thinkingConfig =
      if s.thinkingAdapterEnabled then thinkingConfig? model else none := by
  unfold generationConfig
  dsimp only
  split
  · rfl
  · exact thinkingConfig_withFormat _ _

theorem ChatBody.get?_generationConfig (b : ChatBody) :
    b.json.get? "generationConfig" = b.generationConfig.map GenerationConfig.json := by
  unfold ChatBody.json
  split <;> simp

theorem asks_of_convert {r : ChatRequest} (h : convert s call (.chat r) = .ok (body, call')) :
    (body.get? "generationConfig").bind (·.get? "thinkingConfig") =
      if s.thinkingAdapterEnabled then
        asked? (ModelName.parseThinking call.providerModel).1
          (ModelName.parseThinking call.providerModel).2
      else none := by
  obtain ⟨b, hb, hsent⟩ := exists_chatBody_of_convert h
  obtain ⟨rfl, -⟩ := Prod.mk.inj hsent
  have hconfig : b.generationConfig = some (generationConfig r call.providerModel s) := by
    rw [eq_of_chatBody_eq_ok hb]
  rw [b.get?_sorted, b.get?_generationConfig, hconfig, Option.map_some, Option.map_some,
    Option.bind_some, get?_thinkingConfig, thinkingConfig_generationConfig, ← map_thinkingConfig?]
  split <;> rfl

/-! ## Where the name counts -/

/-- The calls to a model use a name: in addresses and bodies, for the purpose of the model, for
cached prompts and for responses. -/
structure GoesBy (s : GeminiSettings) (call : Call) (name : String) : Prop where
  url : url s call = Text.trimEndSlashes call.baseUrl ++ "/" ++
    (s.versionOverrides.lookup name).getD s.defaultVersion ++ "/models/" ++ name ++ ":" ++
    (Endpoint.of name call).action
  embeds : ∀ r body call', convert s call (.embedding r) = .ok (body, call') →
    body.get? "model" = some (.str ("models/" ++ name)) ∧
    body.get? "outputDimensionality" =
      if name = "embedding-001" then none else (positive? r.dimensions).map .nat
  draws : ∀ r,
    (ModelName.isImagen name = false → convert s call (.image r) =
      .error (.invalidInput ("model " ++ name ++ " does not support image generation"))) ∧
    (ModelName.isImagen name = true → Text.isBlankText r.prompt = false →
      ∃ sent, convert s call (.image r) = .ok sent)
  keeps : ∀ {σ : Type} (settings : PromptCacheSettings) (store : PromptCache.Store σ)
    (network : Network σ) (body : Json) (b : ChatBody) (w : σ), call.mode = .chat →
    ChatBody.decoder .json body.document = .ok b → IsWorthKeeping settings b →
      let (result, w') := PromptCache.getOrCreate settings store (backend network call b.shared)
        ⟨call.channelId, name, b.shared.preamble⟩ w
      prepare s (some (settings, store)) network call body w =
        (match result with
          | .error _ => (body, call)
          | .ok outcome => ((b.referring outcome.handle).json.sorted,
              if outcome.created then { call with cacheWriteTokens := outcome.tokens.toUInt32 }
              else call), w')
  answers : ∀ answer, call.mode ≠ .native → handle s call answer =
    match Endpoint.of name call with
      | .predict => handleImage answer
      | .embed => pure (handleEmbedding call answer)
      | .stream => handleChatStream call answer
      | .generate => handleChat call answer

theorem get?_of_embeddingBody {r : EmbeddingRequest} {b : EmbeddingBody}
    (h : embeddingBody r name = .ok b) :
    b.json.sorted.get? "model" = some (.str ("models/" ++ name)) ∧
    b.json.sorted.get? "outputDimensionality" =
      if name = "embedding-001" then none else (positive? r.dimensions).map .nat := by
  have hdimension : b.outputDimensionality =
      if name = "embedding-001" then none else positive? r.dimensions := by
    unfold embeddingBody at h
    split at h
    · cases h
    split at h
    · cases h
    split at h
    · cases h
    · exact (Except.ok.inj h) ▸ rfl
  refine ⟨by rw [b.get?_model, model_of_embeddingBody h], ?_⟩
  have hget : b.json.get? "outputDimensionality" = b.outputDimensionality.map .nat := by
    simp [EmbeddingBody.json]
  rw [b.get?_sorted, hget, hdimension]
  split
  · rfl
  · rw [Option.map_map]
    rfl

theorem prepare_of_worthKeeping {σ : Type} {settings : PromptCacheSettings} {b : ChatBody}
    (store : PromptCache.Store σ) (network : Network σ) (w : σ) (hmode : call.mode = .chat)
    (hb : ChatBody.decoder .json body.document = .ok b) (hworth : IsWorthKeeping settings b) :
    prepare s (some (settings, store)) network call body w =
      let (result, w') := PromptCache.getOrCreate settings store (backend network call b.shared)
        (b.query s call) w
      (match result with
        | .error _ => (body, call)
        | .ok outcome => ((b.referring outcome.handle).json.sorted,
            if outcome.created then { call with cacheWriteTokens := outcome.tokens.toUInt32 }
            else call), w') := by
  obtain ⟨hunkept, hworthwhile⟩ := isWorthKeeping_iff.mp hworth
  simp only [prepare, hmode, hb, applyCache, if_neg hunkept, hworthwhile, Bool.not_true,
    Bool.false_eq_true, if_false, bind, StateT.bind, ChatBody.query]
  rcases PromptCache.getOrCreate settings store (backend network call b.shared)
    ⟨call.channelId, addressedModel s call, b.shared.preamble⟩ w with ⟨result, w'⟩
  cases result <;> rfl

theorem goesBy_addressedModel (s : GeminiSettings) (call : Call) :
    GoesBy s call (addressedModel s call) where
  url := rfl
  embeds r body call' h := by
    rw [convert] at h
    cases hb : embeddingBody r (addressedModel s call) with
    | error f => simp [hb, Except.map] at h
    | ok b =>
        rw [hb] at h
        obtain ⟨rfl, -⟩ := Prod.mk.inj (Except.ok.inj h)
        exact get?_of_embeddingBody hb
  draws r := by
    constructor
    · intro hname
      simp [convert, imageBody, hname, Except.map]
    · intro hname hprompt
      simp [convert, imageBody, hname, hprompt, Except.map]
  keeps settings store network body b w hmode hb hworth :=
    prepare_of_worthKeeping store network w hmode hb hworth
  answers answer hmode := handle_of_ne_native hmode answer

/-- A name has at most one of the three suffixes.  With the adapter, a call uses the base of its
name and a chat asks for what the suffix says; without it, a call uses the whole name. -/
theorem goes_by_base :
    (∀ (base base' : String) (x y : ModelName.Suffix), base ++ x.text = base' ++ y.text →
      base = base' ∧ x = y) ∧
    (∀ name base,
      (ModelName.parseThinking name = (base, .off) ↔ name = base ++ "-nothinking") ∧
      (∀ budget, ModelName.parseThinking name = (base, .on budget) ↔
        name = base ++ "-thinking" ∧ budget = none ∨
        ∃ d : ModelName.Digits, name = base ++ "-thinking-" ++ d.text ∧ budget = d.word?) ∧
      (ModelName.parseThinking name = (base, .unspecified) ↔
        base = name ∧ ¬ ModelName.IsSuffixed name)) ∧
    ∀ (s : GeminiSettings) (call : Call),
      let (base, thinking) :=
        if s.thinkingAdapterEnabled then ModelName.parseThinking call.providerModel
        else (call.providerModel, .unspecified)
      GoesBy s call base ∧
      ∀ r body call', convert s call (.chat r) = .ok (body, call') →
        (body.get? "generationConfig").bind (·.get? "thinkingConfig") = asked? base thinking := by
  refine ⟨fun _ _ _ _ => ModelName.suffix_unique, fun name base => ⟨?_, fun budget => ?_, ?_⟩,
    fun s call => ?_⟩
  · exact ModelName.parseThinking_eq_off_iff
  · exact ModelName.parseThinking_eq_on_iff
  · exact ModelName.parseThinking_eq_unspecified_iff
  have hgoes := goesBy_addressedModel s call
  rw [addressedModel] at hgoes
  cases hadapter : s.thinkingAdapterEnabled with
  | true =>
      rw [if_pos hadapter] at hgoes
      refine ⟨hgoes, fun r body call' h => ?_⟩
      rw [asks_of_convert h, if_pos hadapter]
      rfl
  | false =>
      rw [if_neg (by simp [hadapter])] at hgoes
      refine ⟨hgoes, fun r body call' h => ?_⟩
      rw [asks_of_convert h, if_neg (by simp [hadapter])]
      rfl

def thriftyCall : Call where
  channelId := 1
  provider := .gemini
  wire := .gemini
  requestedModel := "gemini-2.5-pro-thinking-64"
  providerModel := "gemini-2.5-pro-thinking-64"
  isStream := false
  mode := .chat
  baseUrl := "http://localhost/"
  apiKey := "k"
  group := "default"
  promptTokens := 2
  includeUsage := false
  cacheWriteTokens := 0
  timeoutMs := 5000

theorem goes_by_base_thrifty :
    let s : GeminiSettings := { versionOverrides := [("gemini-2.5-pro", "v1")] }
    let chat : ChatRequest :=
      { model := "gemini-2.5-pro-thinking-64", messages := [.ofText "user" "hi there"] }
    url s thriftyCall = "http://localhost/v1/models/gemini-2.5-pro:generateContent" ∧
    ∃ body, convert s thriftyCall (.chat chat) = .ok (body, thriftyCall) ∧
      (body.get? "generationConfig").bind (·.get? "thinkingConfig") =
        some (.obj [("includeThoughts", .bool true), ("thinkingBudget", .nat 128)]) := by
  intro s chat
  have hparse : ModelName.parseThinking thriftyCall.providerModel =
      ("gemini-2.5-pro", .on (some 64)) := by decide +kernel
  obtain ⟨-, -, hcalls⟩ := goes_by_base
  have hcall := hcalls s thriftyCall
  rw [if_pos rfl, hparse] at hcall
  obtain ⟨hgoes, hasks⟩ := hcall
  obtain ⟨body, hbody⟩ := exists_convert_chat s thriftyCall chat (by decide +kernel)
  refine ⟨hgoes.url.trans (by decide +kernel), body, hbody, ?_⟩
  rw [hasks chat body thriftyCall hbody]
  decide +kernel

end ModelGateway.Wire.Gemini
