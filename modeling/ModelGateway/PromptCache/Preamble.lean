import ModelGateway.Digest.Sha256
import ModelGateway.Settings.Basic
import ModelGateway.Text.Search
import ModelGateway.Tokens

/-!
# Preambles

The preamble of a request is what it shares with later requests.  It is known by its fingerprint,
and worth caching when it is long.  A digest of model and fingerprint is the key to what is stored.
-/

namespace ModelGateway.PromptCache

structure Preamble where
  fingerprint : String
  tokens : Nat
  deriving DecidableEq, Repr

def minTokens : Nat := 4096

def isWorthwhile (s : PromptCacheSettings) (p : Preamble) : Bool :=
  s.enabled && minTokens ≤ p.tokens

def digestInput (model : String) (p : Preamble) : Bytes :=
  Utf8.encode model ++ 0x7C :: Utf8.encode p.fingerprint

def digest (model : String) (p : Preamble) : String :=
  Digest.hex (Digest.sha256 (digestInput model p))

/-- The key under which a handle is stored, for one channel or for all. -/
def storeKey (s : PromptCacheSettings) (channel : Int) (digest : String) : String :=
  if s.perChannel then s.keySpace ++ ":" ++ Text.ofInt channel ++ ":" ++ digest
  else s.keySpace ++ ":" ++ digest

end ModelGateway.PromptCache
