import ModelGateway.Wire.Gemini.Endpoint
import ModelGateway.Wire.Zhipu

/-!
# Wire forms

What each form does with a call: where it goes, how it is authorized, what is sent, and what the
answer means.
-/

namespace ModelGateway.Wire

def label : Wire → String
  | .openai => "openai"
  | .zhipu => "zhipu"
  | .gemini => "google gemini"

def url (s : GeminiSettings) (call : Call) : Except RelayFailure String :=
  match call.wire with
  | .openai => Compatible.url Compatible.openaiRoot call
  | .zhipu => Compatible.url Zhipu.root call
  | .gemini => .ok (Gemini.url s call)

def authorization (call : Call) : Except RelayFailure (String × String) :=
  match call.wire with
  | .openai | .zhipu => Compatible.authorization call
  | .gemini => Gemini.authorization call

/-- The body for a request, and the call with its prompt tokens. -/
def convert (s : GeminiSettings) (call : Call) (request : Request) :
    Except RelayFailure (Json × Call) :=
  match call.wire with
  | .openai => Compatible.convert call request
  | .zhipu => Zhipu.convert call request
  | .gemini => Gemini.convert s call request

/-- Handles the answer to a call. -/
def handle (s : GeminiSettings) (call : Call) (response : HttpResponse) : StateM Stamp Handled :=
  match call.wire with
  | .openai | .zhipu => pure (Compatible.handle call response)
  | .gemini => Gemini.handle s call response.body

end ModelGateway.Wire
