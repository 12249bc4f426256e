import ModelGateway.Json.Printer
import ModelGateway.Json.Reader
import ModelGateway.Json.Record
import ModelGateway.Text.Blank

/-!
# Stored handles

A store keeps texts under keys for a time, and may fail.  A stored text names the handle and the
channel that it belongs to; a text that is no object is a handle without an owner.
-/

namespace ModelGateway.PromptCache

inductive CacheError where
  | store (detail : String)
  | timeout
  | provider (detail : String)
  deriving DecidableEq, Repr

def CacheError.message : CacheError → String
  | .store detail => "cache store error: " ++ detail
  | .timeout => "cache operation timed out"
  | .provider detail => "upstream cache error: " ++ detail

/-- The operations of a store.  An answer that comes too late is a timeout. -/
structure Store (σ : Type) where
  get : (key : String) → StateM σ (Except CacheError (Option String))
  set : (key value : String) → (ttlSecs : Nat) → StateM σ (Except CacheError Unit)

structure Envelope where
  handle : String
  owner : Option Int
  deriving DecidableEq, Repr

namespace Envelope

open Json (Decoder RecordReader)

def decoder : Decoder Envelope :=
  ((fun handle owner => ⟨handle, some owner⟩) <$> .required "cache_name" .string
    <*> .required "channel_id" .int64 : RecordReader Envelope).decoder

def write (handle : String) (owner : Int) : String :=
  (Json.record [.of "cache_name" (.str handle), .of "channel_id" (.int owner)]).text

def read? (raw : String) : Option Envelope :=
  match Text.nonBlank? raw with
  | none => none
  | some text =>
    if text.toList.head? = some '\x7b' then
      match (Json.readDocument? (Utf8.encode text)).bind fun d => (decoder .json d).toOption with
      | some e => if e.handle.isEmpty then none else some e
      | none => none
    else some ⟨text, none⟩

def isFor (e : Envelope) (channel : Int) : Bool :=
  e.owner.all (· == channel)

end Envelope

end ModelGateway.PromptCache
