import ModelGateway.Channel.Basic
import ModelGateway.Failure

/-!
# The table of channels

One row a channel, in the order of ids.  What an operator configures is overwritten when a channel
is put again; its status, its reason, and what tests have measured stay.  A row may hold texts that
mean nothing here: it cannot be read if its provider is unknown, and has no test time if that is no
date.
-/

namespace ModelGateway

structure ChannelRow where
  id : Int
  name : String
  providerName : String
  baseUrl : Option String
  key : String
  models : String
  testModel : Option String
  modelMapping : Option String
  group : String
  status : Int
  reason : Option String
  responseTimeMs : Int
  autoBan : Bool
  testTime : Option String
  deriving DecidableEq, Repr

namespace ChannelRow

/-- The row of a channel that was not there before; no test has measured it. -/
def ofChannel (c : Channel) : ChannelRow where
  id := c.id
  name := c.name
  providerName := c.provider.name
  baseUrl := c.baseUrl
  key := c.key
  models := c.models
  testModel := c.testModel
  modelMapping := c.modelMapping
  group := c.group
  status := c.status.number
  reason := none
  responseTimeMs := 0
  autoBan := c.autoBan
  testTime := none

def configured (row : ChannelRow) (c : Channel) : ChannelRow :=
  { ofChannel c with
    status := row.status
    reason := row.reason
    responseTimeMs := row.responseTimeMs
    testTime := row.testTime }

def channel? (row : ChannelRow) : Option Channel :=
  (Provider.ofName? row.providerName).map fun provider => {
    id := row.id
    name := row.name
    provider
    baseUrl := row.baseUrl
    key := row.key
    models := row.models
    testModel := row.testModel
    modelMapping := row.modelMapping
    group := row.group
    status := .ofNumber row.status
    responseTimeMs := row.responseTimeMs
    autoBan := row.autoBan
    testTime := row.testTime.bind Instant.parse? }

end ChannelRow

structure ChannelTable where
  rows : List ChannelRow := []
  deriving DecidableEq, Repr

namespace ChannelTable

def find? (t : ChannelTable) (id : Int) : Option ChannelRow :=
  t.rows.find? (·.id == id)

def modify (t : ChannelTable) (id : Int) (change : ChannelRow → ChannelRow) : ChannelTable :=
  ⟨t.rows.map fun row => if row.id = id then change row else row⟩

def insertRow (row : ChannelRow) : List ChannelRow → List ChannelRow
  | [] => [row]
  | r :: rest => if row.id < r.id then row :: r :: rest else r :: insertRow row rest

def upsert (t : ChannelTable) (c : Channel) : ChannelTable :=
  match t.find? c.id with
  | some _ => t.modify c.id (·.configured c)
  | none => ⟨insertRow (.ofChannel c) t.rows⟩

/-- Sets status and reason; the answer is whether there is a row with the id. -/
def setStatus (t : ChannelTable) (id : Int) (status : ChannelStatus) (reason : Option String) :
    Bool × ChannelTable :=
  ((t.find? id).isSome, t.modify id fun row => { row with status := status.number, reason })

def setResponseTime (t : ChannelTable) (id : Int) (ms : Int) (now : Instant) : ChannelTable :=
  t.modify id fun row => { row with responseTimeMs := ms, testTime := some now.text }

def unreadableRow : GatewayError := .database ""

def get (t : ChannelTable) (id : Int) : Except GatewayError (Option Channel) :=
  match t.find? id with
  | none => .ok none
  | some row =>
    match row.channel? with
    | some c => .ok (some c)
    | none => .error unreadableRow

def list (t : ChannelTable) : Except GatewayError (List Channel) :=
  match t.rows.mapM ChannelRow.channel? with
  | some cs => .ok cs
  | none => .error unreadableRow

end ChannelTable

end ModelGateway
