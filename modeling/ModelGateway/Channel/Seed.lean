import ModelGateway.Channel.Basic
import ModelGateway.Json.Printer
import ModelGateway.Settings.Basic

/-!
# Channels from their configuration

A configured channel starts enabled.  Its lists become the texts of a channel.
-/

namespace ModelGateway.Channel

def ofSeed (seed : ChannelSeed) : Channel where
  id := seed.id
  name := seed.name
  provider := seed.provider
  baseUrl := seed.baseUrl
  key := "\n".intercalate seed.keys
  models := ",".intercalate seed.models
  testModel := seed.testModel
  modelMapping := if seed.modelMapping.isEmpty then none else some seed.modelMapping.json.text
  group := seed.group
  status := .enabled
  responseTimeMs := 0
  autoBan := seed.autoBan
  testTime := none

end ModelGateway.Channel
