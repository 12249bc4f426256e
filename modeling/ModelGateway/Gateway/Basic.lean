import ModelGateway.Channel.Seed
import ModelGateway.Health.Clock
import ModelGateway.Health.Tester
import ModelGateway.Http.Message
import ModelGateway.Relay.Routing

/-!
# The gateway

Its settings, the channels with their monitor, and how far the rounds of the balancer have
come.  Its surroundings are what it cannot know by itself.
-/

namespace ModelGateway

/-- The network, the random choices, and the time that every test is measured to take. -/
structure Surroundings (σ : Type) where
  network : Network σ
  dice : Balancer.Dice
  testNanos : Nat

structure Gateway (σ : Type) where
  settings : Settings
  monitor : Monitor (RelayState σ)
  rotation : Rotation := {}

namespace Gateway

/-- A gateway that has just been started, with the channels of its settings. -/
def start (settings : Settings) (relays : RelayState σ) : Gateway σ :=
  let channels := settings.channels.map Channel.ofSeed
  { settings
    monitor := { store := { table := channels.foldl ChannelTable.upsert {} }, world := relays } }

def ledger (g : Gateway σ) : Ledger := g.monitor.world.ledger

def channels (g : Gateway σ) : ChannelTable := g.monitor.store.table

def probe (env : Surroundings σ) (settings : Settings) : Probe (RelayState σ) :=
  Tester.probe settings env.network env.testNanos

def settle (env : Surroundings σ) (g : Gateway σ) : Gateway σ :=
  { g with monitor := g.monitor.finishBatch g.settings.health (probe env g.settings) }

def setStatus (g : Gateway σ) (id : Int) (status : ChannelStatus) : Gateway σ :=
  { g with monitor := { g.monitor with
      store := (g.monitor.store.setStatus id status none).2 } }

def route (env : Surroundings σ) (model : String) (mode : RelayMode) :
    StateM (Gateway σ) (Except GatewayError Call) := fun g =>
  let (call, rotation) :=
    Routing.route g.settings.relay env.dice g.monitor.store.list model mode g.rotation
  (call, { g with rotation })

def relay (env : Surroundings σ) (order : Order) : StateM (Gateway σ) Relayed := fun g =>
  let (relayed, world) := order.run g.settings env.network g.monitor.world
  (relayed, { g with monitor := { g.monitor with world } })

end Gateway

def closedEarly : RelayFailure :=
  ⟨.badResponseBody, "upstream closed without a response", some 502, none, none⟩

/-- The response that was written, or the failure if there is none.  A failure after the head ends
the body. -/
def Relayed.response (r : Relayed) : ClientResponse :=
  let stream := Stream.fresh.writeAll r.writes
  match stream.head with
  | some (status, contentType) =>
    ⟨status, ClientResponse.headersFor contentType, stream.chunks.flatten⟩
  | none =>
    match r.outcome with
    | .error (.failed f) => .ofError (.relay f)
    | _ => .ofError (.relay closedEarly)

end ModelGateway
