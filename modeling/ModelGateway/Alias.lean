import ModelGateway.Failure
import ModelGateway.Text.Blank

/-!
# Model aliases

A channel may rename models, and an alias may lead to another alias.  `resolve` follows the chain to
its end, which takes at most `maxHops` lookups, and refuses one that comes back to itself.
-/

namespace ModelGateway.Alias

abbrev Table := List (String × String)

def maxHops : Nat := 8

/-- The name that an entry leads to; a blank entry and one to the name itself lead nowhere. -/
def next? (table : Table) (name : String) : Option String :=
  match table.lookup name with
  | some target => if Text.isBlankText target ∨ target = name then none else some target
  | none => none

inductive Fault where
  | cycle (name : String)
  | tooLong (source : String)
  deriving DecidableEq, Repr

def Fault.message : Fault → String
  | .cycle name => "model mapping contains a cycle at " ++ name
  | .tooLong source =>
    "model mapping for " ++ source ++ " exceeds " ++ Nat.repr maxHops ++ " hops"

def Fault.failure (f : Fault) : RelayFailure := ⟨.modelMappingFailed, f.message, none, none, none⟩

/-- Follows entries from `name`, where `seen` are the names already visited. -/
def follow (table : Table) (source : String) :
    (lookups : Nat) → (seen : List String) → (name : String) → Except Fault String
  | 0, _, _ => .error (.tooLong source)
  | lookups + 1, seen, name =>
    match next? table name with
    | none => .ok name
    | some target =>
      if target ∈ seen then .error (.cycle target)
      else follow table source lookups (target :: seen) target

def resolve (table : Table) (source : String) : Except Fault String :=
  follow table source maxHops [source] source

end ModelGateway.Alias
