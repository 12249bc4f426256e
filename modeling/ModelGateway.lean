import ModelGateway.Alias
import ModelGateway.Balancer
import ModelGateway.Channel.Basic
import ModelGateway.Channel.Provider
import ModelGateway.Channel.Seed
import ModelGateway.Channel.Table
import ModelGateway.Credential
import ModelGateway.Digest.Sha256
import ModelGateway.Failure
import ModelGateway.Gateway.Basic
import ModelGateway.Gateway.Endpoint
import ModelGateway.Gateway.Serve
import ModelGateway.Health.Clock
import ModelGateway.Health.Monitor
import ModelGateway.Health.Notice
import ModelGateway.Health.Policy
import ModelGateway.Health.TestRequest
import ModelGateway.Health.Tester
import ModelGateway.Http.Admission
import ModelGateway.Http.MediaType
import ModelGateway.Http.Message
import ModelGateway.Http.Target
import ModelGateway.Instant
import ModelGateway.Json.Basic
import ModelGateway.Json.Document
import ModelGateway.Json.Numeral
import ModelGateway.Json.Printer
import ModelGateway.Json.Reader
import ModelGateway.Json.Record
import ModelGateway.Ledger
import ModelGateway.ModelName
import ModelGateway.Number.Binary64
import ModelGateway.Number.Fixed
import ModelGateway.Number.Rounding
import ModelGateway.Number.Shortest
import ModelGateway.Number.Word
import ModelGateway.Pricing
import ModelGateway.PromptCache.Memory
import ModelGateway.PromptCache.Preamble
import ModelGateway.PromptCache.Session
import ModelGateway.PromptCache.Store
import ModelGateway.Proofs.Aliases
import ModelGateway.Proofs.Channel.History
import ModelGateway.Proofs.Channel.Rows
import ModelGateway.Proofs.Channel.Seeds
import ModelGateway.Proofs.Chat.Client
import ModelGateway.Proofs.Chat.Merging
import ModelGateway.Proofs.Chat.Rewriting
import ModelGateway.Proofs.Compatible.Crashes
import ModelGateway.Proofs.Compatible.Passing
import ModelGateway.Proofs.Compatible.Stream
import ModelGateway.Proofs.Gateway.Charging
import ModelGateway.Proofs.Gateway.Choices
import ModelGateway.Proofs.Gateway.ProviderErrors
import ModelGateway.Proofs.Gateway.Requests
import ModelGateway.Proofs.Gateway.Rotation
import ModelGateway.Proofs.Gateway.Statuses
import ModelGateway.Proofs.Gateway.Turns
import ModelGateway.Proofs.Gateway.Upstream
import ModelGateway.Proofs.Gateway.Usability
import ModelGateway.Proofs.Gemini.Agreement
import ModelGateway.Proofs.Gemini.Candidates
import ModelGateway.Proofs.Gemini.Conversation
import ModelGateway.Proofs.Gemini.Crashes
import ModelGateway.Proofs.Gemini.Echo
import ModelGateway.Proofs.Gemini.Fingerprints
import ModelGateway.Proofs.Gemini.Prompts
import ModelGateway.Proofs.Gemini.Schemas
import ModelGateway.Proofs.Gemini.Stream
import ModelGateway.Proofs.Gemini.Thinking
import ModelGateway.Proofs.Gemini.ToolCalls
import ModelGateway.Proofs.Health.Batch
import ModelGateway.Proofs.Health.BatchEffect
import ModelGateway.Proofs.Health.Completion
import ModelGateway.Proofs.Health.DeadCredentials
import ModelGateway.Proofs.Health.Effects
import ModelGateway.Proofs.Health.Interleaving
import ModelGateway.Proofs.Health.Isolation
import ModelGateway.Proofs.Health.Lineage
import ModelGateway.Proofs.Health.ManualDisable
import ModelGateway.Proofs.Health.Runs
import ModelGateway.Proofs.Health.SingleFlight
import ModelGateway.Proofs.Health.StatusNotices
import ModelGateway.Proofs.Health.TestCharges
import ModelGateway.Proofs.Health.TestRequests
import ModelGateway.Proofs.Health.Thresholds
import ModelGateway.Proofs.Health.Verdict
import ModelGateway.Proofs.Json.Decimals
import ModelGateway.Proofs.Json.Fields
import ModelGateway.Proofs.Json.Figures
import ModelGateway.Proofs.Json.Finite
import ModelGateway.Proofs.Json.Kept
import ModelGateway.Proofs.Json.Members
import ModelGateway.Proofs.Json.Numerals
import ModelGateway.Proofs.Json.Quotes
import ModelGateway.Proofs.Json.Records
import ModelGateway.Proofs.Json.Rewriting
import ModelGateway.Proofs.Json.RoundTrip
import ModelGateway.Proofs.Json.Strings
import ModelGateway.Proofs.Json.Texts
import ModelGateway.Proofs.Number.Intervals
import ModelGateway.Proofs.Number.Shortest
import ModelGateway.Proofs.PromptCache.Calls
import ModelGateway.Proofs.PromptCache.Entries
import ModelGateway.Proofs.PromptCache.Envelope
import ModelGateway.Proofs.PromptCache.Keys
import ModelGateway.Proofs.PromptCache.Provenance
import ModelGateway.Proofs.PromptCache.Reuse
import ModelGateway.Proofs.PromptCache.Sections
import ModelGateway.Proofs.PromptCache.Traffic
import ModelGateway.Proofs.Relay.Addressees
import ModelGateway.Proofs.Relay.Counters
import ModelGateway.Proofs.Relay.Crashes
import ModelGateway.Proofs.Relay.Endings
import ModelGateway.Proofs.Relay.Faults
import ModelGateway.Proofs.Relay.Heads
import ModelGateway.Proofs.Relay.Overflow
import ModelGateway.Proofs.Relay.Rounds
import ModelGateway.Proofs.Relay.Settlement
import ModelGateway.Proofs.Relay.Sinks
import ModelGateway.Proofs.Relay.Worlds
import ModelGateway.Proofs.Sse.Forwarding
import ModelGateway.Proofs.Sse.Framing
import ModelGateway.Proofs.Text.Pieces
import ModelGateway.Proofs.Text.Search
import ModelGateway.Proofs.Text.Utf8
import ModelGateway.Proofs.ThinkingSuffixes
import ModelGateway.Proofs.Url.Hosts
import ModelGateway.Proofs.Usage
import ModelGateway.Relay.Call
import ModelGateway.Relay.Exchange
import ModelGateway.Relay.Pipeline
import ModelGateway.Relay.ProviderError
import ModelGateway.Relay.Routing
import ModelGateway.Relay.Settlement
import ModelGateway.Request.Capability
import ModelGateway.Request.Chat
import ModelGateway.Settings.Basic
import ModelGateway.Settings.Load
import ModelGateway.Sink
import ModelGateway.Sse.Event
import ModelGateway.Sse.Reader
import ModelGateway.Storage.Database
import ModelGateway.Storage.Location
import ModelGateway.Text.Blank
import ModelGateway.Text.CodePoints
import ModelGateway.Text.Composition
import ModelGateway.Text.Direction
import ModelGateway.Text.Joining
import ModelGateway.Text.Lines
import ModelGateway.Text.LowerCase
import ModelGateway.Text.Mark
import ModelGateway.Text.Search
import ModelGateway.Text.Utf8
import ModelGateway.Tokens
import ModelGateway.Toml.Reader
import ModelGateway.Toml.Scalar
import ModelGateway.Url.Address
import ModelGateway.Url.Domain
import ModelGateway.Url.Host
import ModelGateway.Url.Mapping
import ModelGateway.Url.Percent
import ModelGateway.Url.Punycode
import ModelGateway.Usage
import ModelGateway.Wire.Basic
import ModelGateway.Wire.Compatible
import ModelGateway.Wire.Gemini.Caching
import ModelGateway.Wire.Gemini.Content
import ModelGateway.Wire.Gemini.Conversion
import ModelGateway.Wire.Gemini.Endpoint
import ModelGateway.Wire.Gemini.Handlers
import ModelGateway.Wire.Gemini.Response
import ModelGateway.Wire.Zhipu
