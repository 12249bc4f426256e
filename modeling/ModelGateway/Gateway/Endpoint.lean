import ModelGateway.Failure
import ModelGateway.Http.Admission
import ModelGateway.Number.Word
import ModelGateway.Url.Percent

/-!
# Endpoints

What the gateway offers, and under which paths.  A piece of a path that stands for a value must not
be empty.
-/

namespace ModelGateway

inductive Endpoint where
  /-- Starts testing all channels. -/
  | testAll
  /-- Tests one channel, named by a piece of the path. -/
  | testOne (id : String)
  | chat
  | embeddings
  | images
  /-- Takes a native body; the piece of the path names model and action. -/
  | native (target : String)
  deriving DecidableEq, Repr

namespace Endpoint

def ofPath? (path : String) : Option Endpoint :=
  match Text.split '/' path with
  | ["", "api", "channel", "test"] => some .testAll
  | ["", "api", "channel", "test", id] => if id.isEmpty then none else some (.testOne id)
  | ["", "v1", "chat", "completions"] => some .chat
  | ["", "v1", "embeddings"] => some .embeddings
  | ["", "v1", "images", "generations"] => some .images
  | ["", "v1beta", "models", target] => if target.isEmpty then none else some (.native target)
  | _ => none

def methods : Endpoint → List String
  | .testAll | .testOne _ => ["GET", "HEAD"]
  | .chat | .embeddings | .images | .native _ => ["POST"]

def ofRequest (request : ClientRequest) : Except Refusal Endpoint :=
  match ofPath? request.target.path with
  | none => .error .noSuchPath
  | some e => if e.methods.contains request.method then .ok e else .error .methodNotAllowed

end Endpoint

/-- A signed number of 64 bits, without regard to blanks around it. -/
def channelId? (text : String) : Option Int := do
  let (sign, digits) : Int × List Char :=
    match Text.trimChars text.toList with
    | '-' :: digits => (-1, digits)
    | '+' :: digits => (1, digits)
    | digits => (1, digits)
  let n := sign * (← Text.digitsValue? digits)
  if Number.isInt64 n then some n else none

def readChannelId (text : String) : Except GatewayError Int :=
  match channelId? text with
  | some id => .ok id
  | none => .error (.badRequest ("invalid channel id: " ++ text))

/-- The model before the last colon, and whether the action after it asks for a stream. -/
def readAction (text : String) : Except GatewayError (String × Bool) :=
  match Text.splitAtLast? [':'] text.toList with
  | none => .error (.badRequest ("missing action in " ++ text))
  | some (model, action) =>
    if model.isEmpty then .error (.badRequest "model is required")
    else
      match String.ofList action with
      | "generateContent" => .ok (String.ofList model, false)
      | "streamGenerateContent" => .ok (String.ofList model, true)
      | other => .error (.badRequest ("unsupported action " ++ other))

structure TestQuery where
  model : Option String
  kind : Option String
  deriving DecidableEq, Repr

def single? (name : String) (pairs : List (String × String)) : Except Refusal (Option String) :=
  match pairs.filter (·.1 == name) with
  | [] => .ok none
  | [(_, value)] => .ok (some value)
  | _ => .error .undecodableQuery

def TestQuery.ofForm (form : String) : Except Refusal TestQuery :=
  let pairs := Url.formPairs form
  return ⟨← single? "model" pairs, ← single? "type" pairs⟩

end ModelGateway
