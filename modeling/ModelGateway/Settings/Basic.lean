import ModelGateway.Channel.Provider
import ModelGateway.Number.Rounding
import ModelGateway.Number.Binary64

/-!
# Settings

What an operator can configure, section by section.  Every section and nearly every field has a
default; only a channel must say what it is.
-/

namespace ModelGateway

open Json (Decoder RecordReader)

abbrev TextTable := List (String × String)

def TextTable.json (t : TextTable) : Json := .obj (t.map fun (k, v) => (k, .str v))

abbrev NumberTable := List (String × Float)

def NumberTable.json (t : NumberTable) : Json := .obj (t.map fun (k, v) => (k, .float v))

structure ServerSettings where
  host : String := "0.0.0.0"
  portNumber : Nat := 8000
  deriving DecidableEq, Repr

def ServerSettings.decoder : Decoder ServerSettings :=
  (ServerSettings.mk <$> .withDefault "host" .string "0.0.0.0"
    <*> .withDefault "port" .nat16 8000 : RecordReader _).decoder

def ServerSettings.json (s : ServerSettings) : Json :=
  .record [.of "host" (.str s.host), .of "port" (.nat s.portNumber)]

structure LogSettings where
  databasePath : String := "data/gateway.db"
  deriving DecidableEq, Repr

def LogSettings.decoder : Decoder LogSettings :=
  (LogSettings.mk <$> .withDefault "database_path" .string "data/gateway.db"
    : RecordReader _).decoder

def LogSettings.json (s : LogSettings) : Json :=
  .record [.of "database_path" (.str s.databasePath)]

/-- How a channel is chosen among those that serve a model. -/
inductive Strategy where
  | firstAvailable
  | roundRobin
  | random
  deriving DecidableEq, Repr

def Strategy.name : Strategy → String
  | .firstAvailable => "first_available"
  | .roundRobin => "round_robin"
  | .random => "random"

def Strategy.ofName? (name : String) : Option Strategy :=
  [firstAvailable, roundRobin, random].find? (·.name = name)

def Strategy.decoder : Decoder Strategy := .oneOf ofName?

structure RelaySettings where
  requestTimeoutSecs : Nat := 120
  strategy : Strategy := .firstAvailable
  proxyBypassHosts : List String := []
  deriving DecidableEq, Repr

namespace RelaySettings

def decoder : Decoder RelaySettings :=
  (RelaySettings.mk <$> .withDefault "request_timeout_secs" .nat64 120
    <*> .withDefault "strategy" Strategy.decoder .firstAvailable
    <*> .withDefault "proxy_bypass_hosts" (.list .string) [] : RecordReader _).decoder

def json (s : RelaySettings) : Json :=
  .record [
    .of "request_timeout_secs" (.nat s.requestTimeoutSecs),
    .of "strategy" (.str s.strategy.name),
    .of "proxy_bypass_hosts" (.strings s.proxyBypassHosts)]

def timeoutSecs (s : RelaySettings) : Nat :=
  max s.requestTimeoutSecs 1

end RelaySettings

structure GeminiSettings where
  thinkingAdapterEnabled : Bool := true
  defaultVersion : String := "v1beta"
  versionOverrides : TextTable := []
  safetyThreshold : Option String := none
  deriving DecidableEq, Repr

namespace GeminiSettings

def decoder : Decoder GeminiSettings :=
  (GeminiSettings.mk <$> .withDefault "thinking_adapter_enabled" .bool true
    <*> .withDefault "default_version" .string "v1beta"
    <*> .withDefault "version_overrides" (.map .string) []
    <*> .nullable "safety_threshold" .string : RecordReader _).decoder

def json (s : GeminiSettings) : Json :=
  .record [
    .of "thinking_adapter_enabled" (.bool s.thinkingAdapterEnabled),
    .of "default_version" (.str s.defaultVersion),
    .of "version_overrides" s.versionOverrides.json,
    .of "safety_threshold" (.orNull .str s.safetyThreshold)]

def versionFor (s : GeminiSettings) (model : String) : String :=
  (s.versionOverrides.lookup model).getD s.defaultVersion

end GeminiSettings

structure PromptCacheSettings where
  enabled : Bool := false
  ttlSecs : Nat := 3600
  mappingTtlSecs : Nat := 3600
  keySpace : String := "gemini_cache"
  perChannel : Bool := true
  redisUrl : Option String := none
  storeTimeoutMs : Nat := 500
  deriving DecidableEq, Repr

namespace PromptCacheSettings

def decoder : Decoder PromptCacheSettings :=
  (PromptCacheSettings.mk <$> .withDefault "enabled" .bool false
    <*> .withDefault "ttl_secs" .nat64 3600
    <*> .withDefault "mapping_ttl_secs" .nat64 3600
    <*> .withDefault "namespace" .string "gemini_cache"
    <*> .withDefault "per_channel" .bool true
    <*> .nullable "redis_url" .string
    <*> .withDefault "store_timeout_ms" .nat64 500 : RecordReader _).decoder

def json (s : PromptCacheSettings) : Json :=
  .record [
    .of "enabled" (.bool s.enabled),
    .of "ttl_secs" (.nat s.ttlSecs),
    .of "mapping_ttl_secs" (.nat s.mappingTtlSecs),
    .of "namespace" (.str s.keySpace),
    .of "per_channel" (.bool s.perChannel),
    .of "redis_url" (.orNull .str s.redisUrl),
    .of "store_timeout_ms" (.nat s.storeTimeoutMs)]

end PromptCacheSettings

def defaultDisableKeywords : List String :=
  ["your credit balance is too low", "this organization has been disabled.",
    "you exceeded your current quota", "permission denied",
    "the security token included in the request is invalid", "operation not allowed",
    "your account is not authorized", "api key not valid", "api key expired", "invalid api key"]

structure HealthSettings where
  automaticDisable : Bool := true
  automaticEnable : Bool := true
  disableThresholdSecs : Float := 5.0
  requestIntervalMs : Nat := 0
  testFrequencyMinutes : Nat := 0
  disableKeywords : List String := defaultDisableKeywords
  disableStatusCodes : List Nat := [401]
  notifyWebhookUrl : Option String := none
  deriving DecidableEq, Repr

/-- The latency above which a test has failed. -/
inductive Threshold where
  /-- No limit. -/
  | off
  | nanos (n : Nat)
  /-- A configured limit beyond every duration that can be measured. -/
  | unrepresentable
  deriving DecidableEq, Repr

namespace HealthSettings

def decoder : Decoder HealthSettings :=
  (HealthSettings.mk <$> .withDefault "automatic_disable_channel_enabled" .bool true
    <*> .withDefault "automatic_enable_channel_enabled" .bool true
    <*> .withDefault "channel_disable_threshold_secs" .float 5.0
    <*> .withDefault "request_interval_ms" .nat64 0
    <*> .withDefault "test_frequency_minutes" .nat64 0
    <*> .withDefault "disable_keywords" (.list .string) defaultDisableKeywords
    <*> .withDefault "disable_status_codes" (.list .nat16) [401]
    <*> .nullable "notify_webhook_url" .string : RecordReader _).decoder

def json (s : HealthSettings) : Json :=
  .record [
    .of "automatic_disable_channel_enabled" (.bool s.automaticDisable),
    .of "automatic_enable_channel_enabled" (.bool s.automaticEnable),
    .of "channel_disable_threshold_secs" (.float s.disableThresholdSecs),
    .of "request_interval_ms" (.nat s.requestIntervalMs),
    .of "test_frequency_minutes" (.nat s.testFrequencyMinutes),
    .of "disable_keywords" (.strings s.disableKeywords),
    .of "disable_status_codes" (.arr (s.disableStatusCodes.map .nat)),
    .of "notify_webhook_url" (.orNull .str s.notifyWebhookUrl)]

/-- The threshold to the nearest nanosecond, a half going to the even one; durations have less than
`2 ^ 64` seconds. -/
def threshold (s : HealthSettings) : Threshold :=
  if s.disableThresholdSecs > 0.0 then
    match Number.parts? s.disableThresholdSecs with
    | none => .unrepresentable
    | some p =>
      let nanos := Number.roundScaled .even (p.significand * 1000000000) p.exponent
      if UInt64.size * 1000000000 ≤ nanos then .unrepresentable else .nanos nanos
  else .off

end HealthSettings

structure PricingSettings where
  quotaPerUnit : Float := 500000.0
  modelRatio : NumberTable := []
  completionRatio : NumberTable := []
  modelPrice : NumberTable := []
  defaultModelRatio : Option Float := some 1.0
  deriving DecidableEq, Repr

namespace PricingSettings

def decoder : Decoder PricingSettings :=
  (PricingSettings.mk <$> .withDefault "quota_per_unit" .float 500000.0
    <*> .withDefault "model_ratio" (.map .float) []
    <*> .withDefault "completion_ratio" (.map .float) []
    <*> .withDefault "model_price" (.map .float) []
    <*> .withDefault "default_model_ratio" (.optional .float) (some 1.0)
    : RecordReader _).decoder

def json (s : PricingSettings) : Json :=
  .record [
    .of "quota_per_unit" (.float s.quotaPerUnit),
    .of "model_ratio" s.modelRatio.json,
    .of "completion_ratio" s.completionRatio.json,
    .of "model_price" s.modelPrice.json,
    .of "default_model_ratio" (.orNull .float s.defaultModelRatio)]

end PricingSettings

structure ChannelSeed where
  id : Int
  name : String
  provider : Provider
  baseUrl : Option String
  keys : List String
  models : List String
  testModel : Option String
  modelMapping : TextTable
  group : String
  autoBan : Bool
  deriving DecidableEq, Repr

namespace ChannelSeed

def decoder : Decoder ChannelSeed :=
  (ChannelSeed.mk <$> .required "id" .int64 <*> .required "name" .string
    <*> .required "type" Provider.decoder <*> .nullable "base_url" .string
    <*> .required "keys" (.list .string) <*> .required "models" (.list .string)
    <*> .nullable "test_model" .string <*> .withDefault "model_mapping" (.map .string) []
    <*> .withDefault "group" .string "default" <*> .withDefault "auto_ban" .bool true
    : RecordReader _).decoder

def json (s : ChannelSeed) : Json :=
  .record [
    .of "id" (.int s.id),
    .of "name" (.str s.name),
    .of "type" (.str s.provider.name),
    .of "base_url" (.orNull .str s.baseUrl),
    .of "keys" (.strings s.keys),
    .of "models" (.strings s.models),
    .of "test_model" (.orNull .str s.testModel),
    .of "model_mapping" s.modelMapping.json,
    .of "group" (.str s.group),
    .of "auto_ban" (.bool s.autoBan)]

end ChannelSeed

structure Settings where
  server : ServerSettings := {}
  log : LogSettings := {}
  relay : RelaySettings := {}
  gemini : GeminiSettings := {}
  promptCache : PromptCacheSettings := {}
  health : HealthSettings := {}
  pricing : PricingSettings := {}
  channels : List ChannelSeed := []
  deriving DecidableEq, Repr

namespace Settings

def decoder : Decoder Settings :=
  (Settings.mk <$> .withDefault "server" ServerSettings.decoder {}
    <*> .withDefault "logging" LogSettings.decoder {}
    <*> .withDefault "relay" RelaySettings.decoder {}
    <*> .withDefault "gemini" GeminiSettings.decoder {}
    <*> .withDefault "prompt_cache" PromptCacheSettings.decoder {}
    <*> .withDefault "health" HealthSettings.decoder {}
    <*> .withDefault "pricing" PricingSettings.decoder {}
    <*> .withDefault "channels" (.list ChannelSeed.decoder) [] : RecordReader _).decoder

def json (s : Settings) : Json :=
  .record [
    .of "server" s.server.json,
    .of "logging" s.log.json,
    .of "relay" s.relay.json,
    .of "gemini" s.gemini.json,
    .of "prompt_cache" s.promptCache.json,
    .of "health" s.health.json,
    .of "pricing" s.pricing.json,
    .of "channels" (.arr (s.channels.map ChannelSeed.json))]

end Settings

end ModelGateway
