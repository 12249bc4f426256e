import ModelGateway.Http.MediaType
import ModelGateway.Http.Message
import ModelGateway.Json.Reader
import ModelGateway.Json.Record

/-!
# Admission

What is settled before a request is acted upon: pages of other origins may use the gateway, a body
that is sent must be JSON, and a path, a query or a body that cannot be understood is refused.
-/

namespace ModelGateway

inductive Refusal where
  | noSuchPath
  | methodNotAllowed
  /-- The body is no JSON, whatever the path. -/
  | invalidJson
  | unexpectedMediaType
  | bodyTooLarge
  /-- The body holds nothing, or JSON that stands for no value. -/
  | unreadableBody
  /-- The body is JSON of another shape. -/
  | unfitBody
  /-- A piece of the path is no text. -/
  | undecodablePath (name : String)
  | undecodableQuery
  deriving DecidableEq, Repr

namespace Refusal

def response : Refusal → ClientResponse
  | .noSuchPath => { status := 404 }
  | .methodNotAllowed => { status := 405 }
  | .invalidJson => .json 400 (.object [("error", .str "Invalid JSON")])
  | .unexpectedMediaType => .text 415 "Expected request with `Content-Type: application/json`"
  | .bodyTooLarge => .text 413 "Failed to buffer the request body: length limit exceeded"
  | .unreadableBody => .text 400 "Failed to parse the request body as JSON: "
  | .unfitBody => .text 422 "Failed to deserialize the JSON body into the target type: "
  | .undecodablePath name => .text 400 ("Invalid URL: Invalid UTF-8 in `" ++ name ++ "`")
  | .undecodableQuery => .text 400 "Failed to deserialize query string: "

end Refusal

namespace CrossOrigin

def originField (request : ClientRequest) : Headers :=
  match request.header? Headers.originName with
  | some origin => [("access-control-allow-origin", origin)]
  | none => []

def preflight (request : ClientRequest) : ClientResponse :=
  { status := 200
    headers := originField request ++
      [Headers.field "access-control-allow-methods" "GET,POST,OPTIONS",
        Headers.field "access-control-allow-headers" "content-type,authorization,x-goog-api-key"] }

def isPreflight (request : ClientRequest) : Bool :=
  request.method == "OPTIONS"

def allow (request : ClientRequest) (response : ClientResponse) : ClientResponse :=
  { response with headers := originField request ++ response.headers }

end CrossOrigin

namespace RequestBody

def maxCheckedLength : Nat := 32 * 1024 * 1024

def maxLength : Nat := 2 * 1024 * 1024

def isSpace (b : UInt8) : Bool :=
  Json.isSpace b || b == 0x0C

def isJson (body : Bytes) : Bool :=
  body.length ≤ maxCheckedLength && (body.all isSpace || (Json.readDocument? body).isSome)

def carriesBody (method : String) : Bool :=
  ["POST", "PUT", "PATCH"].contains method

def isAcceptable (request : ClientRequest) : Bool :=
  !carriesBody request.method || isJson request.body

def isJsonType (request : ClientRequest) : Bool :=
  (((request.header? Headers.contentTypeName).bind Credential.headerText?).bind
    MediaType.parse?).any MediaType.isJson

def decode (decoder : Json.Decoder α) (request : ClientRequest) : Except Refusal α :=
  if !isJsonType request then .error .unexpectedMediaType
  else if maxLength < request.body.length then .error .bodyTooLarge
  else
    match Json.readDocument? request.body with
    | none => .error .unreadableBody
    | some document =>
      match decoder .json document with
      | .ok value => .ok value
      | .error .unreadable => .error .unreadableBody
      | .error .unfit => .error .unfitBody

end RequestBody

end ModelGateway
