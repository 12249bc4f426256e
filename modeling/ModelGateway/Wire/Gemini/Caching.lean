import ModelGateway.PromptCache.Session
import ModelGateway.Relay.Exchange
import ModelGateway.Wire.Gemini.Endpoint

/-!
# Cached prompts at Gemini

All of a chat request but its last turn can be kept by the provider.  A request that uses a kept
prompt has the last turn and the handle, and what is not part of a prompt.
-/

namespace ModelGateway.Wire.Gemini

open PromptCache (Backend CacheError Preamble Query Store)

/-- The part of a request that is cached. -/
structure Shared where
  systemInstruction : Option Content
  contents : List Content
  tools : Option (List Tool)
  toolConfig : Option ToolConfig
  deriving DecidableEq

def ChatBody.shared (b : ChatBody) : Shared :=
  ⟨b.systemInstruction, b.contents.dropLast, b.tools, b.toolConfig⟩

def toolsJson (tools : List Tool) : Json := .arr (tools.map Tool.json)

def Shared.fingerprint (s : Shared) : Json :=
  .record [
    .of "system_instruction" (.orNull Content.json s.systemInstruction),
    .of "contents" (.arr (s.contents.map Content.json)),
    .of "tools" (.orNull toolsJson s.tools),
    .of "tool_config" (.orNull ToolConfig.json s.toolConfig)]

def Shared.preamble (s : Shared) : Preamble where
  fingerprint := s.fingerprint.text
  tokens := Tokens.ofTexts ((s.systemInstruction.toList ++ s.contents).flatMap Content.texts)

def cacheVersion : String := "v1beta"

def cacheRoot (call : Call) : String :=
  Text.trimEndSlashes call.baseUrl ++ "/" ++ cacheVersion ++ "/"

def Shared.creation (s : Shared) (model : String) (ttlSecs : Nat) (displayName : String) : Json :=
  .record [
    .of "model" (.str ("models/" ++ model)),
    .ifSome "systemInstruction" Content.json s.systemInstruction,
    .of "contents" (.arr (s.contents.map Content.json)),
    .ifSome "tools" toolsJson s.tools,
    .ifSome "toolConfig" ToolConfig.json s.toolConfig,
    .of "ttl" (.str (Nat.repr ttlSecs ++ "s")),
    .of "displayName" (.str displayName)]

/-- Sends a request with the key of a call, if the key can be sent. -/
def exchange (network : Network σ) (call : Call) (method : Method) (url : String)
    (body : Option Json) : StateM σ (Except CacheError HttpResponse) := do
  match authorization call with
  | .error f => return .error (.provider f.message)
  | .ok header =>
    let headers := if body.isSome then [jsonHeader, header] else [header]
    match ← network ⟨method, url, headers, body, call.timeoutMs⟩ with
    | .timedOut _ => return .error .timeout
    | .notReached detail => return .error (.provider detail)
    | .response r => return .ok r

def isKept (answer : Except CacheError HttpResponse) : Except CacheError Bool :=
  match answer with
  | .error e => .error e
  | .ok r =>
    if r.status = 200 then .ok true
    else if r.status = 404 then .ok false
    else .error (.provider ("verify cached content returned status " ++ Nat.repr r.status))

open Json (Decoder RecordReader) in
def keptName : Decoder String :=
  (id <$> .withDefault "name" .string "" : RecordReader _).decoder

def keptHandle (answer : Except CacheError HttpResponse) : Except CacheError String :=
  match answer with
  | .error e => .error e
  | .ok r =>
    if r.status < 200 ∨ 299 < r.status then
      .error (.provider ("create cached content failed with status " ++ Nat.repr r.status))
    else
      match r.body.whole?.bind (decodeBody? keptName) with
      | none => .error (.provider r.body.detail)
      | some name =>
        if name.isEmpty then .error (.provider "create cached content returned no name")
        else .ok name

def backend (network : Network σ) (call : Call) (shared : Shared) : Backend σ where
  verify handle := do
    return isKept (← exchange network call .get (cacheRoot call ++ handle) none)
  create model ttlSecs displayName := do
    return keptHandle (← exchange network call .post (cacheRoot call ++ "cachedContents")
      (some (shared.creation model ttlSecs displayName)))

def ChatBody.referring (b : ChatBody) (handle : String) : ChatBody where
  contents := b.contents.getLast?.toList
  systemInstruction := none
  safetySettings := b.safetySettings
  generationConfig := b.generationConfig
  tools := none
  toolConfig := none
  cachedContent := some handle

/-- The body that refers to its cached preamble, if that is worth caching and caching succeeds. -/
def applyCache (settings : PromptCacheSettings) (store : Store σ) (network : Network σ)
    (model : String) (call : Call) (b : ChatBody) : StateM σ (Option (ChatBody × Call)) := do
  if b.cachedContent.isSome || b.contents.isEmpty then return none
  let shared := b.shared
  if !PromptCache.isWorthwhile settings shared.preamble then return none
  let query : Query := ⟨call.channelId, model, shared.preamble⟩
  match ← PromptCache.getOrCreate settings store (backend network call shared) query with
  | .error _ => return none
  | .ok outcome =>
    let call :=
      if outcome.created then { call with cacheWriteTokens := outcome.tokens.toUInt32 } else call
    return some (b.referring outcome.handle, call)

def prepare (g : GeminiSettings) (cache : Option (PromptCacheSettings × Store σ))
    (network : Network σ) (call : Call) (body : Json) : StateM σ (Json × Call) := do
  match cache, call.mode with
  | some (settings, store), .chat =>
    match ChatBody.decoder .json body.document with
    | .error _ => return (body, call)
    | .ok b =>
      match ← applyCache settings store network (addressedModel g call) call b with
      | some (b, call) => return (b.json.sorted, call)
      | none => return (body, call)
  | _, _ => return (body, call)

end ModelGateway.Wire.Gemini
