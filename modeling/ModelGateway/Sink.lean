import ModelGateway.Json.Printer
import ModelGateway.Sse.Event
import ModelGateway.Text.Utf8

/-!
# Writing to the client

What is written to a client is a list of `Write`s: a head and chunks.  A `Buffer` collects them; a
`Stream` hands them to a client that may leave at any time.  Neither refuses a write, so what is
written never depends on who reads it.
-/

namespace ModelGateway

inductive Write where
  | head (status : Nat) (contentType : String)
  | chunk (octets : Bytes)
  deriving DecidableEq, Repr

namespace Write

def jsonType : String := "application/json"

def eventStreamType : String := "text/event-stream"

def rawJson (status : Nat) (octets : Bytes) : List Write :=
  [.head status jsonType, .chunk octets]

def json (status : Nat) (value : Json) : List Write :=
  rawJson status value.bytes

def startEvents : Write := .head 200 eventStreamType

def event (e : Sse.Event) : Write := .chunk (Utf8.encode e.write)

def data (data : String) : Write := event (.ofData data)

def done : Write := event .done

end Write

/-- A response in memory: the first head, and all chunks. -/
structure Buffer where
  status : Option Nat := none
  contentType : Option String := none
  body : Bytes := []
  deriving DecidableEq, Repr

namespace Buffer

def empty : Buffer := {}

def write (b : Buffer) : Write → Buffer
  | .head status contentType =>
    if b.status.isNone then { b with status := some status, contentType := some contentType } else b
  | .chunk octets => { b with body := b.body ++ octets }

def writeAll (b : Buffer) (writes : List Write) : Buffer :=
  writes.foldl write b

def ofWrites (writes : List Write) : Buffer := empty.writeAll writes

end Buffer

structure Stream where
  /-- The head as the client received it. -/
  head : Option (Nat × String) := none
  /-- The chunks that the client received, in order. -/
  chunks : List Bytes := []
  headSent : Bool := false
  /-- Whether a write has failed since the client left. -/
  noticedGone : Bool := false
  /-- Whether someone still waits for the head. -/
  headWaiting : Bool := true
  /-- Whether someone still reads the body. -/
  bodyOpen : Bool := true
  deriving DecidableEq, Repr

namespace Stream

def fresh : Stream := {}

def writeHead (s : Stream) (status : Nat) (contentType : String) : Stream :=
  if s.headSent then s
  else
    { s with
      headSent := true
      head := if s.headWaiting then some (status, contentType) else none }

/-- The first chunk sends a head of its own if there was none.  Chunks for a client that is gone are
dropped. -/
def writeChunk (s : Stream) (octets : Bytes) : Stream :=
  let s := if s.headSent then s else s.writeHead 200 Write.jsonType
  if s.noticedGone then s
  else if s.bodyOpen then { s with chunks := s.chunks ++ [octets] }
  else { s with noticedGone := true }

def write (s : Stream) : Write → Stream
  | .head status contentType => s.writeHead status contentType
  | .chunk octets => s.writeChunk octets

def writeAll (s : Stream) (writes : List Write) : Stream :=
  writes.foldl write s

end Stream

end ModelGateway
