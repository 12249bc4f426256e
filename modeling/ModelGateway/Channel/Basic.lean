import ModelGateway.Alias
import ModelGateway.Channel.Provider
import ModelGateway.Instant
import ModelGateway.Json.Reader
import ModelGateway.Text.Lines

/-!
# Channels

A channel is one account at a provider: keys, the models it serves, and whether it is in use.  Keys
stand on lines, models between commas, and aliases in a JSON object, all as texts.
-/

namespace ModelGateway

inductive ChannelStatus where
  | enabled
  | manuallyDisabled
  | autoDisabled
  deriving DecidableEq, Repr

namespace ChannelStatus

def name : ChannelStatus → String
  | .enabled => "enabled"
  | .manuallyDisabled => "manually_disabled"
  | .autoDisabled => "auto_disabled"

def ofName? (name : String) : Option ChannelStatus :=
  [enabled, manuallyDisabled, autoDisabled].find? (·.name = name)

def number : ChannelStatus → Int
  | .enabled => 1
  | .manuallyDisabled => 2
  | .autoDisabled => 3

def ofNumber (n : Int) : ChannelStatus :=
  if n = 1 then .enabled else if n = 3 then .autoDisabled else .manuallyDisabled

theorem ofNumber_number (s : ChannelStatus) : ofNumber s.number = s := by
  cases s <;> rfl

def decoder : Json.Decoder ChannelStatus := .oneOf ofName?

end ChannelStatus

structure Channel where
  id : Int
  name : String
  provider : Provider
  baseUrl : Option String
  key : String
  models : String
  testModel : Option String
  modelMapping : Option String
  group : String
  status : ChannelStatus
  responseTimeMs : Int
  autoBan : Bool
  testTime : Option Instant
  deriving DecidableEq, Repr

namespace Channel

open Json (Decoder RecordReader)

def decoder : Decoder Channel :=
  (Channel.mk <$> .required "id" .int64 <*> .required "name" .string
    <*> .required "channel_type" Provider.decoder <*> .nullableInPlace "base_url" .string
    <*> .required "key" .string <*> .required "models" .string
    <*> .nullableInPlace "test_model" .string <*> .nullableInPlace "model_mapping" .string
    <*> .required "group" .string <*> .required "status" ChannelStatus.decoder
    <*> .required "response_time_ms" .int64 <*> .required "auto_ban" .bool
    <*> .nullableInPlace "test_time" (Decoder.string.narrowed Instant.parseLoose?) :
    RecordReader _).decoder

def json (c : Channel) : Json :=
  .record [
    .of "id" (.int c.id),
    .of "name" (.str c.name),
    .of "channel_type" (.str c.provider.name),
    .of "base_url" (.orNull .str c.baseUrl),
    .of "key" (.str c.key),
    .of "models" (.str c.models),
    .of "test_model" (.orNull .str c.testModel),
    .of "model_mapping" (.orNull .str c.modelMapping),
    .of "group" (.str c.group),
    .of "status" (.str c.status.name),
    .of "response_time_ms" (.int c.responseTimeMs),
    .of "auto_ban" (.bool c.autoBan),
    .of "test_time" (.orNull (fun t => .str t.exactText) c.testTime)]

def isEnabled (c : Channel) : Bool :=
  c.status == .enabled

def modelList (c : Channel) : List String :=
  (Text.split ',' c.models).filterMap Text.nonBlank?

def supportsModel (c : Channel) (model : String) : Bool :=
  (Text.split ',' c.models).any (Text.trim · == model)

def keys (c : Channel) : List String :=
  (Text.lines c.key).filterMap Text.nonBlank?

def resolvedBaseUrl (c : Channel) : String :=
  match c.baseUrl.bind Text.nonBlank? with
  | some url => Text.trimEndSlashes url
  | none => c.provider.defaultBaseUrl

def aliases? (c : Channel) : Option Alias.Table :=
  match c.modelMapping.bind Text.nonBlank? with
  | none => some []
  | some raw =>
    if raw = "\x7b\x7d" then some []
    else
      match Json.readDocument? (Utf8.encode raw) with
      | none => none
      | some d => (Decoder.map .string .json d).toOption

end Channel

end ModelGateway
