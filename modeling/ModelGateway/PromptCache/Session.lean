import ModelGateway.PromptCache.Preamble
import ModelGateway.PromptCache.Store

/-!
# Getting a cached prompt

A session looks for a stored handle, has the provider confirm it, and failing that has one created,
which it stores.  It goes in steps, each of which touches the store or the provider once.  A fault
of the store costs no more than the use of the stored handle; only a failed creation is an error.
-/

namespace ModelGateway.PromptCache

structure Backend (σ : Type) where
  /-- Whether the provider still has the prompt of a handle. -/
  verify : (handle : String) → StateM σ (Except CacheError Bool)
  /-- Creates the prompt of the query. -/
  create : (model : String) → (ttlSecs : Nat) → (displayName : String) →
    StateM σ (Except CacheError String)

structure Query where
  channel : Int
  model : String
  preamble : Preamble
  deriving DecidableEq, Repr

structure Outcome where
  handle : String
  created : Bool
  tokens : Nat
  deriving DecidableEq, Repr

inductive Session where
  | reading
  | verifying (handle : String)
  | creating
  | storing (handle : String)
  | finished (result : Except CacheError Outcome)

namespace Query

def digest (q : Query) : String := PromptCache.digest q.model q.preamble

def key (s : PromptCacheSettings) (q : Query) : String := storeKey s q.channel q.digest

end Query

namespace Session

def afterReading (channel : Int) (answer : Except CacheError (Option String)) : Session :=
  match answer with
  | .ok (some raw) =>
    match Envelope.read? raw with
    | some e => if e.isFor channel then .verifying e.handle else .creating
    | none => .creating
  | _ => .creating

def afterVerifying (q : Query) (handle : String) (answer : Except CacheError Bool) : Session :=
  match answer with
  | .ok true => .finished (.ok ⟨handle, false, q.preamble.tokens⟩)
  | _ => .creating

def afterCreating (answer : Except CacheError String) : Session :=
  match answer with
  | .ok handle => .storing handle
  | .error e => .finished (.error e)

def step (s : PromptCacheSettings) (store : Store σ) (backend : Backend σ) (q : Query) :
    Session → StateM σ Session
  | .reading => return afterReading q.channel (← store.get (q.key s))
  | .verifying handle => return afterVerifying q handle (← backend.verify handle)
  | .creating => return afterCreating (← backend.create q.model (max s.ttlSecs 1) q.digest)
  | .storing handle => do
    let _ ← store.set (q.key s) (Envelope.write handle q.channel) (max s.mappingTtlSecs 1)
    return .finished (.ok ⟨handle, true, q.preamble.tokens⟩)
  | .finished result => return .finished result

def run (s : PromptCacheSettings) (store : Store σ) (backend : Backend σ) (q : Query) :
    (steps : Nat) → Session → StateM σ (Except CacheError Outcome)
  | _, .finished result => return result
  | 0, _ => return .error .timeout
  | steps + 1, session => do run s store backend q steps (← step s store backend q session)

def maxSteps : Nat := 4

end Session

def getOrCreate (s : PromptCacheSettings) (store : Store σ) (backend : Backend σ) (q : Query) :
    StateM σ (Except CacheError Outcome) :=
  Session.run s store backend q Session.maxSteps .reading

end ModelGateway.PromptCache
