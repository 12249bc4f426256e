import ModelGateway.Text.Blank
import ModelGateway.Text.Search
import ModelGateway.Text.Utf8

/-!
# Credentials in headers and logs

The bearer token of an authorization header, and the form in which a key may be logged.
-/

namespace ModelGateway.Credential

def isVisible (b : UInt8) : Bool :=
  b == 0x09 || (0x20 ≤ b && b < 0x7F)

/-- A header value as text; other octets than visible ASCII make it none. -/
def headerText? (value : Bytes) : Option String :=
  if value.all isVisible then Utf8.decode? value else none

def bearerToken? (authorization : Option Bytes) : Option String := do
  let text ← headerText? (← authorization)
  Text.nonBlank? (← Text.after? "Bearer " text)

/-- The first and the last four characters; nothing of a key with at most eight. -/
def mask (key : String) : String :=
  let cs := key.toList
  if cs.length ≤ 8 then "****"
  else String.ofList (cs.take 4) ++ "****" ++ String.ofList (cs.drop (cs.length - 4))

def tokenName (authorization : Option Bytes) : String :=
  match bearerToken? authorization with
  | some token => mask token
  | none => "anonymous"

/-- Whether octets can be sent as a header value: no control characters but the tab. -/
def isSendableValue (value : Bytes) : Bool :=
  value.all fun b => b == 0x09 || (0x20 ≤ b && b != 0x7F)

def isSendable (value : String) : Bool :=
  isSendableValue (Utf8.encode value)

end ModelGateway.Credential
