import ModelGateway.Failure
import ModelGateway.Sse.Event
import ModelGateway.Text.Utf8

/-!
# Reading server-sent events

Lines end at a line feed, a carriage return, or both in this order.  A blank line dispatches the
event gathered so far, if it has data; what is not followed by a blank line is no event.  Of octets
that are no text, what comes before the first fault is read.
-/

namespace ModelGateway.Sse

/-- The lines that are ended; `line` holds the characters of the current one, last first.  A
carriage return at the end of the input may be half an ending, so it ends no line. -/
def endedLines : (line : List Char) → List Char → List (List Char)
  | _, [] => []
  | line, '\n' :: rest => line.reverse :: endedLines [] rest
  | _, ['\r'] => []
  | line, '\r' :: '\n' :: rest => line.reverse :: endedLines [] rest
  | line, '\r' :: c :: rest => line.reverse :: endedLines [] (c :: rest)
  | line, c :: rest => endedLines (c :: line) rest

inductive Line where
  | blank
  | comment
  | field (name value : List Char)
  deriving DecidableEq, Repr

def dropSpace : List Char → List Char
  | ' ' :: rest => rest
  | cs => cs

def Line.of (cs : List Char) : Line :=
  match cs with
  | [] => .blank
  | ':' :: _ => .comment
  | _ => .field (cs.takeWhile (· ≠ ':')) (dropSpace ((cs.dropWhile (· ≠ ':')).drop 1))

/-- The event being gathered.  Every data line leaves a line feed after it. -/
structure Draft where
  event : List Char
  data : List Char
  deriving DecidableEq, Repr

def Draft.empty : Draft := ⟨[], []⟩

def Draft.add (draft : Draft) (name value : List Char) : Draft :=
  if name = ['d', 'a', 't', 'a'] then { draft with data := draft.data ++ value ++ ['\n'] }
  else if name = ['e', 'v', 'e', 'n', 't'] then { draft with event := value }
  else draft

def Draft.event? (draft : Draft) : Option Event :=
  if draft.data.isEmpty then none
  else
    some ⟨if draft.event.isEmpty then none else some (String.ofList draft.event),
      String.ofList draft.data.dropLast⟩

def eventsFrom (draft : Draft) : List Line → List Event
  | [] => []
  | .comment :: rest => eventsFrom draft rest
  | .field name value :: rest => eventsFrom (draft.add name value) rest
  | .blank :: rest =>
    match draft.event? with
    | some e => e :: eventsFrom .empty rest
    | none => eventsFrom .empty rest

def eventsOf (text : List Char) : List Event :=
  eventsFrom .empty ((endedLines [] text).map Line.of)

def byteOrderMark : Char := '\ufeff'

/-- The events of received octets.  A text that begins with a byte order mark cannot be read. -/
def read (octets : Bytes) : Except Halt (List Event) :=
  let text := Utf8.decodePrefix octets
  if text.head? = some byteOrderMark then .error .crashed else .ok (eventsOf text)

end ModelGateway.Sse
