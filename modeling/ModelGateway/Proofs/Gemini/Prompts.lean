import ModelGateway.Proofs.Gemini.Fingerprints
import ModelGateway.Proofs.Json.RoundTrip
import ModelGateway.Proofs.PromptCache.Provenance

/-!
# Requests with a cached prompt

A request whose prompt the provider caches is sent as two bodies, possibly at different times and by
different sessions: one that creates the prompt and one that refers to it.  Together they make up
the request.
-/

namespace ModelGateway.Wire.Gemini

open PromptCache (Outcome Query Store View conversation getOrCreate)
open PromptCache.Traffic (Reachable)

variable {σ : Type}

/-- The body that creates a prompt and the body that refers to it make up a request. -/
structure MakesUp (creation : Json) (model : String) (sent b : ChatBody) : Prop where
  model : creation.get? "model" = some (.str ("models/" ++ model))
  systemInstruction : creation.get? "systemInstruction" = b.systemInstruction.map Content.json
  tools : creation.get? "tools" = b.tools.map toolsJson
  toolConfig : creation.get? "toolConfig" = b.toolConfig.map ToolConfig.json
  contents : ∃ turns, creation.get? "contents" = some (.arr (turns.map Content.json)) ∧
    turns ++ sent.contents = b.contents

structure Refers (sent b : ChatBody) (handle : String) : Prop where
  cachedContent : sent.cachedContent = some handle
  systemInstruction : sent.systemInstruction = none
  tools : sent.tools = none
  toolConfig : sent.toolConfig = none
  safetySettings : sent.safetySettings = b.safetySettings
  generationConfig : sent.generationConfig = b.generationConfig

theorem refers_referring (b : ChatBody) (handle : String) : Refers (b.referring handle) b handle :=
  ⟨rfl, rfl, rfl, rfl, rfl, rfl⟩

theorem makesUp_creation (b : ChatBody) (handle model displayName : String) (ttlSecs : Nat) :
    MakesUp (b.shared.creation model ttlSecs displayName) model (b.referring handle) b where
  model := by simp [Shared.creation]
  systemInstruction := by simp [Shared.creation, ChatBody.shared]
  tools := by simp [Shared.creation, ChatBody.shared]
  toolConfig := by simp [Shared.creation, ChatBody.shared]
  contents := by
    refine ⟨b.contents.dropLast, by simp [Shared.creation, ChatBody.shared], ?_⟩
    change b.contents.dropLast ++ b.contents.getLast?.toList = b.contents
    cases hlast : b.contents.getLast? with
    | none =>
        rw [List.getLast?_eq_none_iff.mp hlast]
        rfl
    | some last => exact List.dropLast_append_getLast? last hlast

/-! ## What prepares a request -/

def ChatBody.query (b : ChatBody) (g : GeminiSettings) (call : Call) : Query :=
  ⟨call.channelId, addressedModel g call, b.shared.preamble⟩

def ChatBody.said (b : ChatBody) (settings : PromptCacheSettings) (store : Store σ)
    (network : Network σ) (g : GeminiSettings) (call : Call) (w : σ) : List PromptCache.Call :=
  (conversation settings store (backend network call b.shared) (b.query g call) w).2.2

def OfChat (f : PromptCache.Flight σ) : Prop :=
  ∃ (network : Network σ) (g : GeminiSettings) (call : Call) (body : Json) (b : ChatBody),
    body.IsFinite ∧ ChatBody.decoder .json body.document = .ok b ∧
      f.backend = backend network call b.shared ∧ f.query = b.query g call

/-- Caching is enabled, and the body has something to keep and refers to no prompt yet. -/
structure IsWorthKeeping (settings : PromptCacheSettings) (b : ChatBody) : Prop where
  enabled : settings.enabled = true
  unkept : b.cachedContent = none
  turns : b.contents ≠ []
  words : 4096 ≤ Tokens.ofTexts
    ((b.systemInstruction.toList ++ b.contents.dropLast).flatMap Content.texts)

def Posted (network : Network σ) (call : Call) (creation : Json) (handle : String) : Prop :=
  ∃ w, keptHandle (exchange network call .post (cacheRoot call ++ "cachedContents")
    (some creation) w).1 = .ok handle

/-- The body that a handle was created with, by this call or an earlier one of its channel. -/
inductive Origin (settings : PromptCacheSettings) (t : PromptCache.Traffic σ)
    (network : Network σ) (call : Call) (said : List PromptCache.Call) (handle : String) :
    (creation : Json) → (created : Bool) → Prop
  | here {shared : Shared} {model displayName : String} {ttlSecs : Nat}
      (hsaid : .create model ttlSecs displayName (.ok handle) ∈ said)
      (hposted : Posted network call (shared.creation model ttlSecs displayName) handle) :
      Origin settings t network call said handle (shared.creation model ttlSecs displayName) true
  | earlier {f : PromptCache.Flight σ} {shared : Shared} {network' : Network σ} {call' : Call}
      {model displayName : String} {ttlSecs : Nat}
      (hsaid : ∀ call ∈ said, call.isCreate = false) (hf : f ∈ t.flights)
      (hchannel : f.query.channel = call.channelId)
      (hbackend : f.backend = backend network' call' shared)
      (hcreated : (f.query, .create model ttlSecs displayName (.ok handle)) ∈ t.said)
      (hposted : Posted network' call' (shared.creation model ttlSecs displayName) handle) :
      Origin settings t network call said handle (shared.creation model ttlSecs displayName) false

variable {settings : PromptCacheSettings} {store : Store σ} {network : Network σ} {call : Call}
  {g : GeminiSettings} {b : ChatBody} {body : Json} {w : σ}

theorem posted_of_answers {shared : Shared} {model displayName handle : String} {ttlSecs : Nat}
    (h : (backend network call shared).Answers model ttlSecs displayName (.ok handle)) :
    Posted network call (shared.creation model ttlSecs displayName) handle := h

theorem isWorthKeeping_iff : IsWorthKeeping settings b ↔
    ¬ (b.cachedContent.isSome || b.contents.isEmpty) = true ∧
      PromptCache.isWorthwhile settings b.shared.preamble = true := by
  simp only [Bool.or_eq_true, Option.isSome_iff_ne_none, List.isEmpty_iff, not_or, not_not,
    PromptCache.isWorthwhile, Bool.and_eq_true, decide_eq_true_eq]
  exact ⟨fun h => ⟨⟨h.unkept, h.turns⟩, h.enabled, h.words⟩,
    fun ⟨⟨hunkept, hturns⟩, henabled, hwords⟩ => ⟨henabled, hunkept, hturns, hwords⟩⟩

theorem applyCache_eq (settings : PromptCacheSettings) (store : Store σ) (network : Network σ)
    (model : String) (call : Call) (b : ChatBody) (w : σ) :
    (¬ IsWorthKeeping settings b → (applyCache settings store network model call b w).1 = none) ∧
      (IsWorthKeeping settings b → (applyCache settings store network model call b w).1 =
        match (getOrCreate settings store (backend network call b.shared)
          ⟨call.channelId, model, b.shared.preamble⟩ w).1 with
        | .error _ => none
        | .ok outcome => some (b.referring outcome.handle,
            if outcome.created then { call with cacheWriteTokens := outcome.tokens.toUInt32 }
            else call)) := by
  rw [isWorthKeeping_iff]
  unfold applyCache
  split
  · next hkept => exact ⟨fun _ => rfl, fun hworth => absurd hkept hworth.1⟩
  next hunkept =>
    dsimp only
    split
    · next hnot =>
      refine ⟨fun _ => rfl, fun hworth => ?_⟩
      rw [hworth.2] at hnot
      cases hnot
    next hworth =>
      refine ⟨fun hnot => absurd ⟨hunkept, by simpa using hworth⟩ hnot, fun _ => ?_⟩
      simp only [bind, StateT.bind]
      rcases getOrCreate settings store (backend network call b.shared)
        ⟨call.channelId, model, b.shared.preamble⟩ w with ⟨result, w'⟩
      cases result <;> rfl

theorem prepare_of_decoded (hmode : call.mode = .chat)
    (hb : ChatBody.decoder .json body.document = .ok b) :
    (prepare g (some (settings, store)) network call body w).1 =
      match (applyCache settings store network (addressedModel g call) call b w).1 with
      | some (b, call) => (b.json.sorted, call)
      | none => (body, call) := by
  simp only [prepare, hmode, hb, bind, StateT.bind]
  rcases applyCache settings store network (addressedModel g call) call b w with ⟨found, w'⟩
  cases found <;> rfl

theorem prepare_cases (g : GeminiSettings) (settings : PromptCacheSettings) (store : Store σ)
    (network : Network σ) (call : Call) (body : Json) (w : σ) :
    (prepare g (some (settings, store)) network call body w).1 = (body, call) ∨
      call.mode = .chat ∧ ∃ b outcome, ChatBody.decoder .json body.document = .ok b ∧
        IsWorthKeeping settings b ∧
        (getOrCreate settings store (backend network call b.shared) (b.query g call) w).1 =
          .ok outcome ∧
        (prepare g (some (settings, store)) network call body w).1 =
          ((b.referring outcome.handle).json.sorted,
            if outcome.created then { call with cacheWriteTokens := outcome.tokens.toUInt32 }
            else call) := by
  by_cases hmode : call.mode = .chat
  · cases hb : ChatBody.decoder .json body.document with
    | error e =>
        refine .inl ?_
        simp only [prepare, hmode, hb]
        rfl
    | ok b =>
        obtain ⟨hleft, hserved⟩ :=
          applyCache_eq settings store network (addressedModel g call) call b w
        rw [prepare_of_decoded hmode hb]
        by_cases hworth : IsWorthKeeping settings b
        · rw [hserved hworth]
          cases hget : (getOrCreate settings store (backend network call b.shared)
              (b.query g call) w).1 with
          | error e =>
              rw [ChatBody.query] at hget
              rw [hget]
              exact .inl rfl
          | ok outcome =>
              rw [ChatBody.query] at hget
              rw [hget]
              exact .inr ⟨hmode, b, outcome, rfl, hworth, hget, rfl⟩
        · rw [hleft hworth]
          exact .inl rfl
  · refine .inl ?_
    cases hother : call.mode with
    | chat => exact absurd hother hmode
    | _ =>
        simp only [prepare, hother]
        rfl

theorem origin_of_found {t : PromptCache.Traffic σ}
    (hbegun : ∀ f ∈ t.flights, OfChat f) (hfinite : b.shared.fingerprint.IsFinite)
    {said : List PromptCache.Call} {outcome : Outcome}
    (h : PromptCache.Found settings t (backend network call b.shared) (b.query g call) said
      outcome) :
    outcome.tokens = b.shared.preamble.tokens ∧
      ∃ creation, MakesUp creation (addressedModel g call) (b.referring outcome.handle) b ∧
        Origin settings t network call said outcome.handle creation outcome.created := by
  cases h with
  | created hcall hanswers =>
      exact ⟨rfl, _, makesUp_creation b _ _ _ _, .here hcall (posted_of_answers hanswers)⟩
  | @reused handle hcalls f hearlier =>
      obtain ⟨network', g', call', body', b', hbody', hb', hbackend, hquery⟩ :=
        hbegun f hearlier.flight
      have hfinite' := ChatBody.decoder_gives _ _ _ (Json.document_isFinite body' hbody') hb'
      have hshared : b'.shared = b.shared := by
        refine Shared.eq_of_preamble hfinite' hfinite ?_
        have hfingerprint := hearlier.fingerprint
        rw [hquery] at hfingerprint
        exact hfingerprint
      rw [hshared] at hbackend
      have hanswers := hearlier.answers
      have hcreated := hearlier.created
      rw [PromptCache.Traffic.Created] at hcreated
      rw [hbackend] at hanswers
      rw [hearlier.model] at hanswers hcreated
      exact ⟨rfl, _, makesUp_creation b _ _ _ _,
        .earlier hcalls hearlier.flight hearlier.channel hbackend hcreated
          (posted_of_answers hanswers)⟩

/-- A chat is sent as it came, or as a creation and a body that refers to it, which together make up
the request.  A creation that fails leaves the request as it is. -/
theorem prepare_keeps_or_splits (g : GeminiSettings) (network : Network σ) (call : Call)
    (body : Json) {view : View σ} {t : PromptCache.Traffic σ} (hstore : store.Keeps view)
    (hreach : Reachable settings store view t) (hbegun : ∀ f ∈ t.flights, OfChat f)
    (hfinite : body.IsFinite)
    (hapart : ∀ b, ChatBody.decoder .json body.document = .ok b →
      ∀ f ∈ t.flights, f.query.Apart (b.query g call)) :
    let out := (prepare g (some (settings, store)) network call body t.world).1
    let plain := (prepare g none network call body t.world).1
    plain = (body, call) ∧
      (out = plain ∨ call.mode = .chat ∧
        ∃ b sent creation handle created, ChatBody.decoder .json body.document = .ok b ∧
          IsWorthKeeping settings b ∧ out.1 = sent.json.sorted ∧ Refers sent b handle ∧
          MakesUp creation (addressedModel g call) sent b ∧
          Origin settings t network call (b.said settings store network g call t.world) handle
            creation created ∧
          out.2 = if created then
            { call with cacheWriteTokens := (Tokens.ofTexts ((b.systemInstruction.toList ++
              b.contents.dropLast).flatMap Content.texts)).toUInt32 } else call) ∧
      ∀ b, ChatBody.decoder .json body.document = .ok b →
        ∀ model ttlSecs displayName e,
          PromptCache.Call.create model ttlSecs displayName (.error e) ∈
            b.said settings store network g call t.world → out = plain := by
  intro out plain
  have hsession (b : ChatBody) := PromptCache.conversation_converses settings store
    (backend network call b.shared) (b.query g call) t.world
  have hcases := prepare_cases g settings store network call body t.world
  refine ⟨rfl, ?_, ?_⟩
  · rcases hcases with hplain | ⟨hmode, b, outcome, hb, hworth, hget, hout⟩
    · exact .inl hplain
    · obtain ⟨calls, result, w', hconverses, hrun, hsaid⟩ := hsession b
      obtain rfl : result = .ok outcome := by rw [hrun] at hget; exact hget
      have hcalls : b.said settings store network g call t.world = calls := by
        rw [ChatBody.said, hsaid]
      have hprompt := ChatBody.decoder_gives _ _ _ (Json.document_isFinite body hfinite) hb
      obtain ⟨htokens, creation, hmakes, horigin⟩ := origin_of_found hbegun hprompt
        (PromptCache.found_of_converses hstore hreach
          (PromptCache.isFingerprint_preamble b.shared) (hapart b hb) hconverses)
      refine .inr ⟨hmode, b, _, creation, outcome.handle, outcome.created, hb, hworth,
        congrArg Prod.fst hout, refers_referring b _, hmakes, hcalls ▸ horigin, ?_⟩
      exact (congrArg Prod.snd hout).trans (by rw [htokens]; rfl)
  · intro b hb model ttlSecs displayName e hfailed
    rcases hcases with hplain | ⟨-, b', outcome, hb', hworth, hget, hout⟩
    · exact hplain
    · obtain rfl : b = b' := Except.ok.inj (hb.symm.trans hb')
      obtain ⟨calls, result, w', hconverses, hrun, hsaid⟩ := hsession b
      rw [ChatBody.said, hsaid] at hfailed
      rw [hrun, hconverses.course.failed hfailed] at hget
      cases hget

/-! ## A prompt that is kept and used -/

def naming (handle : String) : Network σ := fun _ w =>
  (.response ⟨200, none, ⟨(Json.obj [("name", .str handle)]).bytes, false⟩⟩, w)

section Naming

variable {handle : String} {shared : Shared}

theorem exchange_naming (hkey : Credential.isSendable call.apiKey = true) (method : Method)
    (url : String) (body : Option Json) (w : σ) :
    exchange (naming handle) call method url body w =
      (.ok ⟨200, none, ⟨(Json.obj [("name", .str handle)]).bytes, false⟩⟩, w) := by
  have hheader : authorization call = .ok (keyHeader, call.apiKey) := if_pos hkey
  simp only [exchange, hheader]
  rfl

theorem verify_naming (hkey : Credential.isSendable call.apiKey = true) (asked : String) (w : σ) :
    (backend (naming handle) call shared).verify asked w = (.ok true, w) := by
  simp only [backend, bind, StateT.bind, exchange_naming hkey]
  rfl

theorem keptHandle_naming (hhandle : handle ≠ "") :
    keptHandle (.ok ⟨200, none, ⟨(Json.obj [("name", .str handle)]).bytes, false⟩⟩) =
      .ok handle := by
  have hreadable : Json.Readable 0 (.obj [("name", .str handle)]) := ⟨by decide, trivial, trivial⟩
  have hread : decodeBody? keptName (Json.obj [("name", .str handle)]).bytes = some handle := by
    rw [decodeBody?, Json.bytes, Json.readDocument?_text hreadable]
    rfl
  simp [keptHandle, Body.whole?, hread, hhandle]

theorem create_naming (hkey : Credential.isSendable call.apiKey = true) (hhandle : handle ≠ "")
    (model displayName : String) (ttlSecs : Nat) (w : σ) :
    (backend (naming handle) call shared).create model ttlSecs displayName w = (.ok handle, w) := by
  simp only [backend, bind, StateT.bind, exchange_naming hkey, keptHandle_naming hhandle]
  rfl

/-- After one session for a prompt, the next one for it finds the handle of the first. -/
theorem exists_reuse (settings : PromptCacheSettings) (shared : Shared)
    (hkey : Credential.isSendable call.apiKey = true) (hhandle : handle ≠ "") (q : Query)
    (hq : PromptCache.IsFingerprint q.preamble.fingerprint)
    (hchannel : PromptCache.Envelope.IsChannelId q.channel) :
    ∃ (w w' : RelayState Unit) (said : List (Query × PromptCache.Call)),
      Reachable settings RelayState.store RelayState.view
          ⟨w, [⟨q, backend (RelayState.network (naming handle)) call shared,
            .finished (.ok ⟨handle, true, q.preamble.tokens⟩)⟩], said⟩ ∧
        conversation settings RelayState.store
            (backend (RelayState.network (naming handle)) call shared) q w =
          (.ok ⟨handle, false, q.preamble.tokens⟩, w',
            [.read (q.key settings) (.ok (some (PromptCache.Envelope.write handle q.channel))),
              .verify handle (.ok true)]) := by
  let r : RelayState Unit := { providers := (), stamp := { now := 0, drawn := 0 } }
  let w : RelayState Unit := { r with
    memory := r.memory.set 0 (q.key settings) (PromptCache.Envelope.write handle q.channel)
      (max settings.mappingTtlSecs 1) }
  have hstart : Reachable settings RelayState.store RelayState.view ⟨r, [], []⟩ :=
    .start List.nodup_nil fun _ => rfl
  have hread := (hstart.next (.begin _ (RelayState.gemini_spares (naming handle) call shared) hq
    hchannel)).alone (.read rfl)
  have hcreated := hread.alone (.create (create_naming hkey hhandle _ _ _ _))
  obtain ⟨said, hwritten⟩ : ∃ said, Reachable settings RelayState.store RelayState.view
      ⟨w, [⟨q, backend (RelayState.network (naming handle)) call shared,
        .finished (.ok ⟨handle, true, q.preamble.tokens⟩)⟩], said⟩ :=
    ⟨_, hcreated.alone (.write rfl)⟩
  have hlive : (w.memory.get 0 (q.key settings)).1 =
      some (PromptCache.Envelope.write handle q.channel) := by
    rw [PromptCache.Memory.get_fst]
    exact PromptCache.Memory.live?_set_self List.nodup_nil (by omega)
  have hget : RelayState.store.get (q.key settings) w =
      (.ok (some (PromptCache.Envelope.write handle q.channel)),
        { w with memory := (w.memory.get 0 (q.key settings)).2 }) := by
    rw [← hlive]
    rfl
  exact ⟨w, _, said, hwritten, PromptCache.conversation_of_confirmed
    (PromptCache.grants_write hchannel hhandle) hget (verify_naming hkey _ _)⟩

end Naming

theorem countWords_flatten (n : Nat) :
    Text.countWords false (List.replicate n ['a', ' ']).flatten = n := by
  induction n with
  | zero => rfl
  | succ n ih =>
      rw [List.replicate_succ, List.flatten_cons]
      exact congrArg (· + 1) ih

def longChat (long : String) : ChatBody where
  contents := [{ parts := [.ofText long] }, { parts := [.ofText "Go on"] }]

theorem words_longChat (n : Nat) :
    let b := longChat (String.ofList (List.replicate n ['a', ' ']).flatten)
    Tokens.ofTexts ((b.systemInstruction.toList ++ b.contents.dropLast).flatMap Content.texts) =
      n := by
  change Tokens.ofText (String.ofList (List.replicate n ['a', ' ']).flatten) + 0 = n
  rw [Tokens.ofText, String.toList_ofList, countWords_flatten]
  rfl

theorem decoder_longChat (long : String) :
    ChatBody.decoder .json (longChat long).json.document = .ok (longChat long) := rfl

theorem isFinite_longChat (long : String) : (longChat long).json.IsFinite := by
  simp [longChat, ChatBody.json, Content.json, Part.json, Part.ofText, Json.isFinite_record,
    Json.IsFinite, Json.ItemsFinite]

theorem sorted_referring_ne (long handle : String) :
    ((longChat long).referring handle).json.sorted ≠ (longChat long).json := by
  intro heq
  have hhandle : some (Json.str handle) = none := congrArg (Json.get? "cachedContent") heq
  cases hhandle

theorem eq_false_of_unwritten {created : Bool} {tokens : UInt32}
    (h : call = if created then { call with cacheWriteTokens := tokens } else call)
    (hne : call.cacheWriteTokens ≠ tokens) : created = false := by
  cases created with
  | true => exact absurd (congrArg Call.cacheWriteTokens h) hne
  | false => rfl

theorem prepare_keeps_or_splits_reused :
    let b := longChat (String.ofList (List.replicate 4096 ['a', ' ']).flatten)
    let settings : PromptCacheSettings := { enabled := true }
    let network : Network (RelayState Unit) := RelayState.network (naming "cachedContents/c0")
    let call : Call := {
      channelId := 1, provider := .gemini, wire := .gemini, requestedModel := "gemini-2.5-pro"
      providerModel := "gemini-2.5-pro", isStream := false, mode := .chat, baseUrl := ""
      apiKey := "k", group := "default", promptTokens := 4098, includeUsage := false
      cacheWriteTokens := 0, timeoutMs := 5000 }
    ∃ (t : PromptCache.Traffic (RelayState Unit)) (sent : ChatBody) (creation : Json)
      (handle : String),
      let out := (prepare {} (some (settings, RelayState.store)) network call b.json t.world).1
      out = (sent.json.sorted, call) ∧ out.1 ≠ b.json ∧ Refers sent b handle ∧
        MakesUp creation (addressedModel {} call) sent b ∧
        Origin settings t network call (b.said settings RelayState.store network {} call t.world)
          handle creation false := by
  intro b settings network call
  have hkey : Credential.isSendable call.apiKey = true := by decide +kernel
  have hchannel : PromptCache.Envelope.IsChannelId call.channelId := ⟨by decide, by decide⟩
  have hunwritten : call.cacheWriteTokens ≠ Nat.toUInt32 4096 := by decide
  have hb : ChatBody.decoder .json b.json.document = .ok b := decoder_longChat _
  have hwords : Tokens.ofTexts ((b.systemInstruction.toList ++ b.contents.dropLast).flatMap
      Content.texts) = 4096 := words_longChat 4096
  have hworth : IsWorthKeeping settings b := ⟨rfl, rfl, List.cons_ne_nil _ _, hwords.ge⟩
  have hfinite : b.json.IsFinite := isFinite_longChat _
  have hchanged : (b.referring "cachedContents/c0").json.sorted ≠ b.json :=
    sorted_referring_ne _ _
  clear_value b
  obtain ⟨w, w', said, hreach, hreuse⟩ := exists_reuse settings b.shared hkey
    (show "cachedContents/c0" ≠ "" by decide) (b.query {} call)
    (PromptCache.isFingerprint_preamble b.shared) hchannel
  let t : PromptCache.Traffic (RelayState Unit) := ⟨w, [⟨b.query {} call,
    backend network call b.shared,
    .finished (.ok ⟨"cachedContents/c0", true, b.shared.preamble.tokens⟩)⟩], said⟩
  have hbegun : ∀ f ∈ t.flights, OfChat f := List.forall_mem_singleton.mpr
    ⟨network, {}, call, b.json, b, hfinite, hb, rfl, rfl⟩
  have hget : (getOrCreate settings RelayState.store (backend network call b.shared)
      (b.query {} call) w).1 = .ok ⟨"cachedContents/c0", false, b.shared.preamble.tokens⟩ := by
    obtain ⟨calls, result, w'', -, hrun, hsaid⟩ := PromptCache.conversation_converses settings
      RelayState.store (backend network call b.shared) (b.query {} call) w
    rw [hrun]
    exact congrArg Prod.fst (hsaid.symm.trans hreuse)
  have hout : (prepare {} (some (settings, RelayState.store)) network call b.json w).1 =
      ((b.referring "cachedContents/c0").json.sorted, call) := by
    rw [prepare_of_decoded rfl hb, (applyCache_eq _ _ _ _ _ _ _).2 hworth]
    rw [ChatBody.query] at hget
    rw [hget]
    rfl
  have hapart : ∀ b', ChatBody.decoder .json b.json.document = .ok b' →
      ∀ f ∈ t.flights, f.query.Apart (b'.query {} call) := by
    intro b' hb'
    obtain rfl : b = b' := Except.ok.inj (hb.symm.trans hb')
    exact List.forall_mem_singleton.mpr fun _ => rfl
  obtain ⟨-, hcases, -⟩ := prepare_keeps_or_splits {} network call b.json RelayState.store_keeps
    hreach hbegun hfinite hapart
  rcases hcases with hplain | ⟨-, b', sent, creation, handle, created, hb', -, hsent, hrefers,
    hmakes, horigin, hcall⟩
  · exact absurd (congrArg Prod.fst (hout.symm.trans hplain)) hchanged
  · obtain rfl : b = b' := Except.ok.inj (hb.symm.trans hb')
    rw [hout] at hsent hcall
    rw [hwords] at hcall
    obtain rfl := eq_false_of_unwritten hcall hunwritten
    exact ⟨t, sent, creation, handle, hout.trans (by rw [← hsent]),
      hout ▸ hchanged, hrefers, hmakes, horigin⟩

end ModelGateway.Wire.Gemini
