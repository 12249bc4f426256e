import ModelGateway.Json.Record

/-!
# Providers

The provider families that a channel can belong to.  Several families may speak one wire form; some
have none and can neither be relayed to nor tested.
-/

namespace ModelGateway

/-- The forms in which the gateway speaks to providers. -/
inductive Wire where
  | openai
  | gemini
  | zhipu
  deriving DecidableEq, Repr

inductive Provider where
  | openai
  | gemini
  | zhipu
  | mokaAi
  | midjourney
  | midjourneyPlus
  | sunoApi
  | kling
  | jimeng
  | vidu
  deriving DecidableEq, Repr

namespace Provider

def all : List Provider :=
  [.openai, .gemini, .zhipu, .mokaAi, .midjourney, .midjourneyPlus, .sunoApi, .kling, .jimeng,
    .vidu]

def name : Provider → String
  | .openai => "openai"
  | .gemini => "gemini"
  | .zhipu => "zhipu"
  | .mokaAi => "moka_ai"
  | .midjourney => "midjourney"
  | .midjourneyPlus => "midjourney_plus"
  | .sunoApi => "suno_api"
  | .kling => "kling"
  | .jimeng => "jimeng"
  | .vidu => "vidu"

def ofName? (name : String) : Option Provider :=
  all.find? (·.name = name)

theorem ofName?_name (p : Provider) : ofName? p.name = some p := by
  cases p <;> decide

def wire? : Provider → Option Wire
  | .openai | .mokaAi => some .openai
  | .gemini => some .gemini
  | .zhipu => some .zhipu
  | _ => none

/-- The display name of a family that makes media and cannot be tested with a chat request. -/
def untestableName? : Provider → Option String
  | .midjourney => some "Midjourney"
  | .midjourneyPlus => some "Midjourney Plus"
  | .sunoApi => some "Suno"
  | .kling => some "Kling"
  | .jimeng => some "Jimeng"
  | .vidu => some "Vidu"
  | _ => none

/-- A family has a display name of this kind exactly if it has no wire form. -/
theorem untestableName?_isSome (p : Provider) : p.untestableName?.isSome = p.wire?.isNone := by
  cases p <;> rfl

def embeddingOnly : Provider → Bool
  | .mokaAi => true
  | _ => false

def defaultBaseUrl : Provider → String
  | .gemini => "https://generativelanguage.googleapis.com"
  | .zhipu => "https://open.bigmodel.cn"
  | .mokaAi => "https://api.moka.ai"
  | _ => "https://api.openai.com"

def decoder : Json.Decoder Provider := .oneOf ofName?

end Provider

def Wire.name : Wire → String
  | .openai => "OpenAI"
  | .gemini => "Gemini"
  | .zhipu => "Zhipu"

end ModelGateway
