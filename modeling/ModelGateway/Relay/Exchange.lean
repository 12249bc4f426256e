import ModelGateway.Json.Basic
import ModelGateway.Sink
import ModelGateway.Usage

/-!
# Exchanges with providers

What is sent, what comes back, and what a response handler makes of it.  A body is the octets that
arrived and whether the transport broke before its end; in how many pieces it came makes no
difference.  What a library says of a fault is part of what comes back.
-/

namespace ModelGateway

inductive Method where
  | get
  | post
  deriving DecidableEq, Repr

structure HttpRequest where
  method : Method
  url : String
  /-- Header fields, names in lower case. -/
  headers : List (String × String)
  body : Option Json
  timeoutMs : Nat
  deriving DecidableEq

def jsonHeader : String × String := ("content-type", "application/json")

/-- Whether the transport broke, and the error text for a body that broke off or cannot be read. -/
structure Arrival where
  broken : Bool
  detail : String := ""
  deriving DecidableEq, Repr

instance : Coe Bool Arrival := ⟨({ broken := · })⟩

structure Body where
  octets : Bytes
  arrival : Arrival
  deriving DecidableEq, Repr

def Body.whole? (b : Body) : Option Bytes :=
  if b.arrival.broken then none else some b.octets

def Body.detail (b : Body) : String :=
  b.arrival.detail

structure HttpResponse where
  status : Nat
  contentType : Option Bytes
  body : Body
  deriving DecidableEq, Repr

inductive HttpResult where
  | response (r : HttpResponse)
  | timedOut (detail : String)
  | notReached (detail : String)
  deriving DecidableEq, Repr

/-- A server that was not reached, without an error text. -/
def HttpResult.unreachable : HttpResult := .notReached ""

/-- A provider, or all of them: an answer to every request, depending on a state. -/
abbrev Network (σ : Type) := HttpRequest → StateM σ HttpResult

/-- The time, and the number of ids drawn before. -/
structure Stamp where
  now : Nat
  drawn : Nat
  deriving DecidableEq, Repr

def hexPadded (width n : Nat) : String :=
  let digits := Nat.toDigits 16 n
  String.ofList (List.replicate (width - digits.length) '0' ++ digits)

/-- The id with a number: 32 hexadecimal digits, different for different numbers. -/
def idOf (n : Nat) : String :=
  hexPadded 16 (n / UInt64.size * UInt16.size + 0x4000) ++ hexPadded 16 n

def Stamp.draw : StateM Stamp String := fun s =>
  (idOf s.drawn, { s with drawn := s.drawn + 1 })

/-- What a handler wrote to the client, and how it ended. -/
structure Handled where
  writes : List Write
  outcome : Except Halt Usage

namespace Handled

def fail (f : RelayFailure) : Handled := ⟨[], .error (.failed f)⟩

def crash (writes : List Write) : Handled := ⟨writes, .error .crashed⟩

/-- Writes everything once the usage is known; without it nothing is written. -/
def after (usage : Except Halt Usage) (writes : Usage → List Write) : Handled :=
  match usage with
  | .ok u => ⟨writes u, .ok u⟩
  | .error h => ⟨[], .error h⟩

end Handled

end ModelGateway
