import ModelGateway.Wire.Compatible

/-!
# The Zhipu wire

The compatible wire under another root.  Sampling probabilities of one and more are lowered, and
images given as data lose everything up to the comma.
-/

namespace ModelGateway.Wire.Zhipu

def root : String := "/api/paas/v4/"

def adaptProbability (p : Float) : Float :=
  if p ≥ 1.0 then 0.99 else p

def adaptUrl (url : String) : String :=
  if Text.startsWith "data:image/" url then
    match Text.splitAtFirst? [','] url.toList with
    | some (_, data) => String.ofList data
    | none => url
  else url

def adaptPart (p : ContentPart) : ContentPart :=
  { p with imageUrl := p.imageUrl.map fun i => { i with url := adaptUrl i.url } }

def adaptContent : Content → Content
  | .text s => .text s
  | .parts ps => .parts (ps.map adaptPart)

def adapt (r : ChatRequest) : ChatRequest :=
  { r with
    topP := r.topP.map adaptProbability
    messages := r.messages.map fun m => { m with content := m.content.map adaptContent } }

def convert (call : Call) (request : Request) : Except RelayFailure (Json × Call) :=
  match request with
  | .chat r => Compatible.convert call (.chat (adapt r))
  | other => Compatible.convert call other

end ModelGateway.Wire.Zhipu
