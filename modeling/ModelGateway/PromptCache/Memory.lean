import ModelGateway.Instant
import ModelGateway.PromptCache.Store

/-!
# A store in memory

Entries live until their time.  Reading an entry whose time is over takes two sections: one that
sees it, and one that removes what the key then holds.  Every write removes all entries whose time
is over.  A write crashes whose entry would outlive the clock.
-/

namespace ModelGateway.PromptCache

structure Entry where
  key : String
  value : String
  expires : Nat
  deriving DecidableEq, Repr

structure Memory where
  entries : List Entry := []
  deriving DecidableEq, Repr

inductive Holding where
  | nothing
  | live (value : String)
  | expired
  deriving DecidableEq, Repr

namespace Memory

def find? (m : Memory) (key : String) : Option Entry :=
  m.entries.find? (·.key == key)

def look (m : Memory) (now : Nat) (key : String) : Holding :=
  match m.find? key with
  | none => .nothing
  | some e => if now < e.expires then .live e.value else .expired

def remove (m : Memory) (key : String) : Memory :=
  ⟨m.entries.filter (·.key != key)⟩

def get (m : Memory) (now : Nat) (key : String) : Option String × Memory :=
  match m.look now key with
  | .live value => (some value, m)
  | .nothing => (none, m)
  | .expired => (none, m.remove key)

def isCountable (ttl : Nat) : Bool := ttl < Instant.countableSecs

def set (m : Memory) (now : Nat) (key value : String) (ttl : Nat) : Memory :=
  let live := m.entries.filter fun e => now < e.expires && e.key != key
  ⟨live ++ [⟨key, value, now + ttl⟩]⟩

end Memory

end ModelGateway.PromptCache
