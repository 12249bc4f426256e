import ModelGateway.Ledger
import ModelGateway.PromptCache.Memory
import ModelGateway.Relay.Pipeline

/-!
# Settling relays

What relays act on: the providers, the prompts kept in memory and the ledger.  A relay that brings
usage leaves one entry in the ledger, and any other none.
-/

namespace ModelGateway

/-- The state that relays act on; `σ` is the state of the providers. -/
structure RelayState (σ : Type) where
  providers : σ
  memory : PromptCache.Memory := {}
  ledger : Ledger := {}
  stamp : Stamp

namespace RelayState

def store : PromptCache.Store (RelayState σ) where
  get key := fun s =>
    let (value, memory) := s.memory.get s.stamp.now key
    (.ok value, { s with memory })
  set key value ttl := fun s =>
    (.ok (), { s with memory := s.memory.set s.stamp.now key value ttl })

def network (network : Network σ) : Network (RelayState σ) := fun request s =>
  let (result, providers) := network request s.providers
  (result, { s with providers })

def services (settings : Settings) (network : Network σ) : Services (RelayState σ) where
  gemini := settings.gemini
  cache := if settings.promptCache.enabled then some (settings.promptCache, store) else none
  network := RelayState.network network

def relay (settings : Settings) (network : Network σ) (call : Call) (request : Request) :
    StateM (RelayState σ) Relayed := fun s =>
  let (relayed, s, stamp) := Relay.once (services settings network) call request (s, s.stamp)
  (relayed, { s with stamp })

end RelayState

/-- A call with its price. -/
structure Order where
  call : Call
  request : Request
  price : Price
  /-- The name of the token that the call was made with. -/
  tokenName : String
  /-- The note of the ledger entry. -/
  content : String

namespace Order

def entry (order : Order) (settings : PricingSettings) (relayed : Relayed) (usage : Usage) :
    LedgerEntry :=
  Ledger.entryOf relayed.call order.price usage settings.quotaPerUnit order.tokenName order.content

def settle (order : Order) (settings : PricingSettings) (relayed : Relayed) (ledger : Ledger) :
    Ledger :=
  match relayed.outcome with
  | .ok usage => ledger.add (order.entry settings relayed usage)
  | .error _ => ledger

def run (order : Order) (settings : Settings) (network : Network σ) :
    StateM (RelayState σ) Relayed := do
  let relayed ← RelayState.relay settings network order.call order.request
  modify fun s => { s with ledger := order.settle settings.pricing relayed s.ledger }
  return relayed

end Order

end ModelGateway
