import ModelGateway.Text.Lines

/-!
# Server-sent events

An event as it is written: its type, one data line for every line of the data, and a blank line.
-/

namespace ModelGateway.Sse

structure Event where
  event : Option String
  data : String
  deriving DecidableEq, Repr

namespace Event

def ofData (data : String) : Event := ⟨none, data⟩

def done : Event := ofData "[DONE]"

def typeLine (event : Option String) : String :=
  match event with
  | some name => "event: " ++ name ++ "\n"
  | none => ""

def dataLine (line : String) : String :=
  "data: " ++ line ++ "\n"

def write (e : Event) : String :=
  typeLine e.event ++ String.join ((Text.lines e.data).map dataLine) ++ "\n"

end Event

end ModelGateway.Sse
