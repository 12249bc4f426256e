import ModelGateway.Channel.Table
import ModelGateway.Ledger
import ModelGateway.Storage.Location

/-!
# The database

The channels and the ledger, kept in a file or in memory.  A file keeps them when it is opened
again; memory does not.
-/

namespace ModelGateway

structure Database where
  /-- The path of the file. -/
  path : Option String := none
  channels : ChannelTable := {}
  ledger : Ledger := {}
  deriving DecidableEq, Repr

namespace Database

def cannotOpen : GatewayError := .database ""

def createWithin (limits : Storage.Limits) (path obstacle : Option String) :
    Except GatewayError Database :=
  match path with
  | none => .ok {}
  | some p => if Storage.canOpen limits p obstacle then .ok { path } else .error cannotOpen

def create : Option String → Option String → Except GatewayError Database :=
  createWithin {}

def reopen (d : Database) : Database :=
  match d.path with
  | none => {}
  | some _ => d

end Database

end ModelGateway
