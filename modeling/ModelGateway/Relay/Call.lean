import ModelGateway.Channel.Basic
import ModelGateway.Request.Capability

/-!
# Calls

A call is one request on its way to one channel: which model under which name, with which key, and
what has been learned about it on the way.
-/

namespace ModelGateway

structure Call where
  channelId : Int
  provider : Provider
  wire : Wire
  requestedModel : String
  providerModel : String
  isStream : Bool
  mode : RelayMode
  baseUrl : String
  apiKey : String
  group : String
  promptTokens : UInt32
  includeUsage : Bool
  /-- Tokens written into a prompt cache that the call created. -/
  cacheWriteTokens : UInt32
  timeoutMs : Nat
  deriving DecidableEq, Repr

namespace Call

def noWire (p : Provider) : RelayFailure :=
  ⟨.invalidApiType, "no adaptor for channel type " ++ p.name, none, none, none⟩

def unreadableAliases : RelayFailure :=
  ⟨.modelMappingFailed, "unmarshal model mapping failed: ", none, none, none⟩

def start (channel : Channel) (apiKey model : String) (mode : RelayMode) (timeoutMs : Nat) :
    Except RelayFailure Call :=
  match channel.provider.wire? with
  | none => .error (noWire channel.provider)
  | some wire => .ok {
      channelId := channel.id
      provider := channel.provider
      wire
      requestedModel := model
      providerModel := model
      isStream := false
      mode
      baseUrl := channel.resolvedBaseUrl
      apiKey
      group := channel.group
      promptTokens := 0
      includeUsage := false
      cacheWriteTokens := 0
      timeoutMs }

/-- Sets the provider's name of the model to the one that the aliases of the channel lead to. -/
def followAliases (channel : Channel) : StateM Call (Except RelayFailure Unit) := fun call =>
  match channel.aliases? with
  | none => (.error unreadableAliases, call)
  | some table =>
    match Alias.resolve table call.requestedModel with
    | .ok name => (.ok (), { call with providerModel := name })
    | .error fault => (.error fault.failure, call)

/-- The call under the name that the channel's aliases lead to. -/
def withAliases (call : Call) (channel : Channel) : Except RelayFailure Call :=
  match followAliases channel call with
  | (.ok (), call) => .ok call
  | (.error f, _) => .error f

theorem withAliases_eq (call : Call) (channel : Channel) :
    call.withAliases channel =
      match channel.aliases? with
      | none => .error unreadableAliases
      | some table =>
        match Alias.resolve table call.requestedModel with
        | .ok name => .ok { call with providerModel := name }
        | .error fault => .error fault.failure := by
  unfold withAliases followAliases
  cases channel.aliases? with
  | none => rfl
  | some table =>
      dsimp only
      cases Alias.resolve table call.requestedModel <;> rfl

def prepare (channel : Channel) (apiKey model : String) (mode : RelayMode) (timeoutMs : Nat) :
    Except RelayFailure Call :=
  match start channel apiKey model mode timeoutMs with
  | .ok call => call.withAliases channel
  | .error f => .error f

def withChat (call : Call) (request : ChatRequest) : Call :=
  { call with
    isStream := request.stream
    includeUsage := request.includesUsage
    promptTokens := Message.countTokens request.messages }

end Call

end ModelGateway
