import ModelGateway.Failure
import ModelGateway.Json.Printer
import ModelGateway.Json.Reader
import ModelGateway.Text.Blank

/-!
# Errors of providers

A provider that answers with another status than 200 says why in its body, in one of several forms.
A body without an error member is quoted, cut to `maxExcerpt` characters.
-/

namespace ModelGateway.ProviderError

def maxExcerpt : Nat := 512

/-- The error member of an object, or of the first item of a list. -/
def errorMember? (body : Json) : Option Json :=
  match body with
  | .arr [] => none
  | .arr (first :: _) => first.get? "error"
  | other => other.get? "error"

def asText? : Json → Option String
  | .str s => some s
  | .num n => some n.text
  | _ => none

def textAt? (key : String) (j : Json) : Option String :=
  (j.get? key).bind asText?

def badStatus (status : Nat) : String :=
  "bad response status code " ++ Nat.repr status

def failure (status : Nat) (message : String) (type code : Option String) : RelayFailure :=
  ⟨.badResponseStatus, message, some status, type, code⟩

def ofBody (status : Nat) (octets : Bytes) : RelayFailure :=
  match (Json.read? octets).bind errorMember? with
  | some (.str s) => failure status s none none
  | some error =>
    failure status ((textAt? "message" error).getD (badStatus status))
      ((textAt? "type" error).or (textAt? "status" error)) (textAt? "code" error)
  | none =>
    let excerpt := Text.trimChars (Utf8.decodeLossy octets).toList
    if excerpt.isEmpty then failure status (badStatus status) none none
    else
      failure status
        (badStatus status ++ ", body: " ++ String.ofList (excerpt.take maxExcerpt)) none none

def ofBrokenBody (status : Nat) (detail : String) : RelayFailure :=
  failure status ("read response body failed: " ++ detail) none none

end ModelGateway.ProviderError
