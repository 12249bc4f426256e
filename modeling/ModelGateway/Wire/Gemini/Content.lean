import ModelGateway.Json.Record

/-!
# Gemini content

Turns and their parts, tools and settings, in the form that the Gemini interface reads and writes.
-/

namespace ModelGateway.Wire.Gemini

open Json (Decoder RecordReader)

structure InlineData where
  mimeType : String
  data : String
  deriving DecidableEq, Repr

structure FileData where
  mimeType : String
  fileUri : String
  deriving DecidableEq, Repr

structure FunctionCall where
  name : String
  args : Json
  deriving DecidableEq

structure FunctionResponse where
  name : String
  response : Json
  deriving DecidableEq

structure Part where
  text : Option String := none
  thought : Option Bool := none
  inlineData : Option InlineData := none
  fileData : Option FileData := none
  functionCall : Option FunctionCall := none
  functionResponse : Option FunctionResponse := none
  deriving DecidableEq

namespace InlineData

def decoder : Decoder InlineData :=
  (InlineData.mk <$> .required "mimeType" .string <*> .required "data" .string
    : RecordReader _).decoder

def json (d : InlineData) : Json :=
  .record [.of "mimeType" (.str d.mimeType), .of "data" (.str d.data)]

end InlineData

namespace FileData

def decoder : Decoder FileData :=
  (FileData.mk <$> .required "mimeType" .string <*> .required "fileUri" .string
    : RecordReader _).decoder

def json (d : FileData) : Json :=
  .record [.of "mimeType" (.str d.mimeType), .of "fileUri" (.str d.fileUri)]

end FileData

namespace FunctionCall

def decoder : Decoder FunctionCall :=
  (FunctionCall.mk <$> .required "name" .string <*> .withDefault "args" .json .null
    : RecordReader _).decoder

def json (c : FunctionCall) : Json :=
  .record [.of "name" (.str c.name), .of "args" c.args]

end FunctionCall

namespace FunctionResponse

def decoder : Decoder FunctionResponse :=
  (FunctionResponse.mk <$> .required "name" .string <*> .required "response" .json
    : RecordReader _).decoder

def json (r : FunctionResponse) : Json :=
  .record [.of "name" (.str r.name), .of "response" r.response]

end FunctionResponse

namespace Part

def ofText (s : String) : Part := { text := some s }

def ofCall (c : FunctionCall) : Part := { functionCall := some c }

def decoder : Decoder Part :=
  (Part.mk <$> .nullable "text" .string <*> .nullable "thought" .bool
    <*> .nullable "inlineData" InlineData.decoder <*> .nullable "fileData" FileData.decoder
    <*> .nullable "functionCall" FunctionCall.decoder
    <*> .nullable "functionResponse" FunctionResponse.decoder : RecordReader _).decoder

def json (p : Part) : Json :=
  .record [
    .ifSome "text" .str p.text,
    .ifSome "thought" .bool p.thought,
    .ifSome "inlineData" InlineData.json p.inlineData,
    .ifSome "fileData" FileData.json p.fileData,
    .ifSome "functionCall" FunctionCall.json p.functionCall,
    .ifSome "functionResponse" FunctionResponse.json p.functionResponse]

def isThought (p : Part) : Bool :=
  p.thought.getD false

end Part

structure Content where
  role : Option String := none
  parts : List Part := []
  deriving DecidableEq

namespace Content

def decoder : Decoder Content :=
  (Content.mk <$> .nullable "role" .string <*> .withDefault "parts" (.list Part.decoder) []
    : RecordReader _).decoder

def json (c : Content) : Json :=
  .record [.ifSome "role" .str c.role, .of "parts" (.arr (c.parts.map Part.json))]

def texts (c : Content) : List String :=
  c.parts.filterMap (·.text)

end Content

structure FunctionDeclaration where
  name : String
  description : Option String := none
  parameters : Option Json := none
  deriving DecidableEq

structure Tool where
  functionDeclarations : List FunctionDeclaration
  deriving DecidableEq

structure FunctionCallingConfig where
  mode : String
  allowedFunctionNames : Option (List String) := none
  deriving DecidableEq, Repr

structure ToolConfig where
  functionCallingConfig : FunctionCallingConfig
  deriving DecidableEq, Repr

namespace FunctionDeclaration

def decoder : Decoder FunctionDeclaration :=
  (FunctionDeclaration.mk <$> .required "name" .string <*> .nullable "description" .string
    <*> .nullable "parameters" .json : RecordReader _).decoder

def json (d : FunctionDeclaration) : Json :=
  .record [
    .of "name" (.str d.name),
    .ifSome "description" .str d.description,
    .ifSome "parameters" id d.parameters]

end FunctionDeclaration

namespace Tool

def decoder : Decoder Tool :=
  (Tool.mk <$> .required "functionDeclarations" (.list FunctionDeclaration.decoder)
    : RecordReader _).decoder

def json (t : Tool) : Json :=
  .record [.of "functionDeclarations" (.arr (t.functionDeclarations.map FunctionDeclaration.json))]

end Tool

namespace FunctionCallingConfig

def decoder : Decoder FunctionCallingConfig :=
  (FunctionCallingConfig.mk <$> .required "mode" .string
    <*> .nullable "allowedFunctionNames" (.list .string) : RecordReader _).decoder

def json (c : FunctionCallingConfig) : Json :=
  .record [.of "mode" (.str c.mode), .ifSome "allowedFunctionNames" .strings c.allowedFunctionNames]

end FunctionCallingConfig

namespace ToolConfig

def decoder : Decoder ToolConfig :=
  (ToolConfig.mk <$> .required "functionCallingConfig" FunctionCallingConfig.decoder
    : RecordReader _).decoder

def json (c : ToolConfig) : Json :=
  .record [.of "functionCallingConfig" c.functionCallingConfig.json]

end ToolConfig

structure SafetySetting where
  category : String
  threshold : String
  deriving DecidableEq, Repr

structure ThinkingConfig where
  thinkingBudget : Option Nat := none
  includeThoughts : Option Bool := none
  deriving DecidableEq, Repr

structure GenerationConfig where
  temperature : Option Float := none
  topP : Option Float := none
  topK : Option Nat := none
  maxOutputTokens : Option Nat := none
  candidateCount : Option Nat := none
  stopSequences : Option (List String) := none
  responseMimeType : Option String := none
  responseSchema : Option Json := none
  thinkingConfig : Option ThinkingConfig := none
  deriving DecidableEq

namespace SafetySetting

def decoder : Decoder SafetySetting :=
  (SafetySetting.mk <$> .required "category" .string <*> .required "threshold" .string
    : RecordReader _).decoder

def json (s : SafetySetting) : Json :=
  .record [.of "category" (.str s.category), .of "threshold" (.str s.threshold)]

end SafetySetting

namespace ThinkingConfig

def decoder : Decoder ThinkingConfig :=
  (ThinkingConfig.mk <$> .nullable "thinkingBudget" .nat32 <*> .nullable "includeThoughts" .bool
    : RecordReader _).decoder

def json (c : ThinkingConfig) : Json :=
  .record [
    .ifSome "thinkingBudget" .nat c.thinkingBudget,
    .ifSome "includeThoughts" .bool c.includeThoughts]

end ThinkingConfig

namespace GenerationConfig

def decoder : Decoder GenerationConfig :=
  (GenerationConfig.mk <$> .nullable "temperature" .float <*> .nullable "topP" .float
    <*> .nullable "topK" .nat32 <*> .nullable "maxOutputTokens" .nat32
    <*> .nullable "candidateCount" .nat32 <*> .nullable "stopSequences" (.list .string)
    <*> .nullable "responseMimeType" .string <*> .nullable "responseSchema" .json
    <*> .nullable "thinkingConfig" ThinkingConfig.decoder : RecordReader _).decoder

def json (c : GenerationConfig) : Json :=
  .record [
    .ifSome "temperature" .float c.temperature,
    .ifSome "topP" .float c.topP,
    .ifSome "topK" .nat c.topK,
    .ifSome "maxOutputTokens" .nat c.maxOutputTokens,
    .ifSome "candidateCount" .nat c.candidateCount,
    .ifSome "stopSequences" .strings c.stopSequences,
    .ifSome "responseMimeType" .str c.responseMimeType,
    .ifSome "responseSchema" id c.responseSchema,
    .ifSome "thinkingConfig" ThinkingConfig.json c.thinkingConfig]

end GenerationConfig

structure ChatBody where
  contents : List Content := []
  systemInstruction : Option Content := none
  safetySettings : List SafetySetting := []
  generationConfig : Option GenerationConfig := none
  tools : Option (List Tool) := none
  toolConfig : Option ToolConfig := none
  cachedContent : Option String := none
  deriving DecidableEq

namespace ChatBody

def decoder : Decoder ChatBody :=
  (ChatBody.mk <$> .withDefault "contents" (.list Content.decoder) []
    <*> .nullable "systemInstruction" Content.decoder
    <*> .withDefault "safetySettings" (.list SafetySetting.decoder) []
    <*> .nullable "generationConfig" GenerationConfig.decoder
    <*> .nullable "tools" (.list Tool.decoder)
    <*> .nullable "toolConfig" ToolConfig.decoder
    <*> .nullable "cachedContent" .string : RecordReader _).decoder

def json (b : ChatBody) : Json :=
  .record [
    .of "contents" (.arr (b.contents.map Content.json)),
    .ifSome "systemInstruction" Content.json b.systemInstruction,
    if b.safetySettings.isEmpty then .absent
    else .of "safetySettings" (.arr (b.safetySettings.map SafetySetting.json)),
    .ifSome "generationConfig" GenerationConfig.json b.generationConfig,
    .ifSome "tools" (fun ts => .arr (ts.map Tool.json)) b.tools,
    .ifSome "toolConfig" ToolConfig.json b.toolConfig,
    .ifSome "cachedContent" .str b.cachedContent]

end ChatBody

end ModelGateway.Wire.Gemini
