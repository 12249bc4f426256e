import ModelGateway.Credential
import ModelGateway.Failure
import ModelGateway.Http.Target
import ModelGateway.Json.Printer
import ModelGateway.Sink

/-!
# Messages between clients and the gateway

Requests of clients and the responses to them.  Header names are in lower case.
-/

namespace ModelGateway

abbrev Headers := List (String × Bytes)

namespace Headers

def originName : String := "origin"

def contentTypeName : String := "content-type"

def cacheControlName : String := "cache-control"

def authorizationName : String := "authorization"

def field (name value : String) : String × Bytes := (name, Utf8.encode value)

/-- Whether a field can be sent: its name is a token, and its value has no control characters. -/
def isField (f : String × Bytes) : Bool :=
  !f.1.isEmpty && f.1.toList.all Text.isToken && Credential.isSendableValue f.2

end Headers

structure ClientRequest where
  method : String
  target : Target
  headers : Headers
  body : Bytes
  deriving DecidableEq, Repr

namespace ClientRequest

/-- A request with a valid method, target and headers. -/
def make? (method target : String) (headers : Headers) (body : Bytes) : Option ClientRequest :=
  if method.isEmpty || !method.toList.all Text.isToken || !headers.all Headers.isField then none
  else (Target.parse? target).map fun target => ⟨method, target, headers, body⟩

def header? (r : ClientRequest) (name : String) : Option Bytes :=
  r.headers.lookup name

end ClientRequest

structure ClientResponse where
  status : Nat
  headers : Headers := []
  body : Bytes := []
  deriving DecidableEq, Repr

namespace ClientResponse

def header? (r : ClientResponse) (name : String) : Option Bytes :=
  r.headers.lookup name

def typed (status : Nat) (contentType : String) (body : Bytes) : ClientResponse :=
  ⟨status, [Headers.field Headers.contentTypeName contentType], body⟩

def json (status : Nat) (value : Json) : ClientResponse :=
  typed status Write.jsonType value.bytes

def text (status : Nat) (message : String) : ClientResponse :=
  typed status "text/plain; charset=utf-8" (Utf8.encode message)

def ofError (e : GatewayError) : ClientResponse :=
  json e.httpStatus e.body

/-- The fields that go with a content type; a type that cannot be sent is left out, and event
streams are not to be kept. -/
def headersFor (contentType : String) : Headers :=
  (if Credential.isSendable contentType then
    [Headers.field Headers.contentTypeName contentType] else []) ++
  (if contentType = Write.eventStreamType then
    [Headers.field Headers.cacheControlName "no-cache"] else [])

end ClientResponse

end ModelGateway
