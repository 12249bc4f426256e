import ModelGateway.Json.Printer
import ModelGateway.Pricing
import ModelGateway.Relay.Call

/-!
# The ledger

Every call that yields usage is settled: its quota is computed and one entry is written.  An entry
that cannot be written is lost, and the call is none the worse for it.
-/

namespace ModelGateway

structure LedgerEntry where
  channelId : Int
  model : String
  tokenName : String
  promptTokens : UInt32
  completionTokens : UInt32
  quota : Int
  isStream : Bool
  group : String
  content : String
  /-- The price, the tokens in caches and the provider's model, as JSON text. -/
  details : String
  deriving DecidableEq, Repr

/-- Entries in the order of their writing. -/
structure Ledger where
  entries : List LedgerEntry := []
  /-- Whether entries are refused. -/
  isClosed : Bool := false
  deriving DecidableEq, Repr

namespace Ledger

def refused : GatewayError := .database ""

def record (ledger : Ledger) (entry : LedgerEntry) : Except GatewayError Nat × Ledger :=
  if ledger.isClosed then (.error refused, ledger)
  else
    (.ok (ledger.entries.length + 1), { ledger with entries := ledger.entries ++ [entry] })

/-- The ledger with the entry, unless it refuses entries. -/
def add (ledger : Ledger) (entry : LedgerEntry) : Ledger :=
  (ledger.record entry).2

def details (call : Call) (price : Price) (usage : Usage) : Json :=
  .object [
    ("model_ratio", .float price.modelRatio),
    ("completion_ratio", .float price.completionRatio),
    ("model_price", .float price.modelPrice),
    ("use_price", .bool price.isFlat),
    ("cache_tokens", Usage.count usage.cachedTokens),
    ("cache_write_tokens", Usage.count call.cacheWriteTokens),
    ("upstream_model_name", .str call.providerModel)]

def entryOf (call : Call) (price : Price) (usage : Usage) (quotaPerUnit : Float)
    (tokenName content : String) : LedgerEntry where
  channelId := call.channelId
  model := call.requestedModel
  tokenName
  promptTokens := usage.prompt
  completionTokens := usage.completion
  quota := price.quota usage quotaPerUnit
  isStream := call.isStream
  group := call.group
  content
  details := (details call price usage).text

end Ledger

end ModelGateway
