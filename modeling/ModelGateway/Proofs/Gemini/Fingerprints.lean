import ModelGateway.Proofs.Json.Finite
import ModelGateway.Proofs.Json.Records
import ModelGateway.Wire.Gemini.Caching

/-!
# Fingerprints of prompts

Requests that share a prompt have one fingerprint, and the fingerprint determines the prompt: the
record keeps every field, and its text determines the record.
-/

namespace ModelGateway.Wire.Gemini

open Json (get? record)

section Records

theorem str_injective : Function.Injective Json.str := fun _ _ h => Json.str.inj h

theorem bool_injective : Function.Injective Json.bool := fun _ _ h => Json.bool.inj h

theorem list_injective {α : Type} {encode : α → Json} (h : Function.Injective encode) :
    Function.Injective fun items : List α => Json.arr (items.map encode) := fun _ _ heq =>
  List.map_injective_iff.mpr h (Json.arr.inj heq)

theorem strings_injective : Function.Injective Json.strings := list_injective str_injective

theorem orNull_injective {α : Type} {encode : α → Json} (h : Function.Injective encode)
    (hnull : ∀ v, encode v ≠ .null) : Function.Injective (Json.orNull encode) := by
  intro a b heq
  cases a with
  | none =>
      cases b with
      | none => rfl
      | some b => exact absurd heq.symm (hnull b)
  | some a =>
      cases b with
      | none => exact absurd heq (hnull a)
      | some b => rw [h heq]

end Records

theorem InlineData.json_injective : Function.Injective InlineData.json := by
  rintro ⟨mimeType, data⟩ ⟨mimeType', data'⟩ h
  have hfield key := congrArg (get? key) h
  have hmimeType : mimeType = mimeType' := by simpa [InlineData.json] using hfield "mimeType"
  have hdata : data = data' := by simpa [InlineData.json] using hfield "data"
  rw [hmimeType, hdata]

theorem FileData.json_injective : Function.Injective FileData.json := by
  rintro ⟨mimeType, fileUri⟩ ⟨mimeType', fileUri'⟩ h
  have hfield key := congrArg (get? key) h
  have hmimeType : mimeType = mimeType' := by simpa [FileData.json] using hfield "mimeType"
  have hfileUri : fileUri = fileUri' := by simpa [FileData.json] using hfield "fileUri"
  rw [hmimeType, hfileUri]

theorem FunctionCall.json_injective : Function.Injective FunctionCall.json := by
  rintro ⟨name, args⟩ ⟨name', args'⟩ h
  have hfield key := congrArg (get? key) h
  have hname : name = name' := by simpa [FunctionCall.json] using hfield "name"
  have hargs : args = args' := by simpa [FunctionCall.json] using hfield "args"
  rw [hname, hargs]

theorem FunctionResponse.json_injective : Function.Injective FunctionResponse.json := by
  rintro ⟨name, response⟩ ⟨name', response'⟩ h
  have hfield key := congrArg (get? key) h
  have hname : name = name' := by simpa [FunctionResponse.json] using hfield "name"
  have hresponse : response = response' := by simpa [FunctionResponse.json] using hfield "response"
  rw [hname, hresponse]

theorem Part.json_injective : Function.Injective Part.json := by
  intro a b h
  have hfield key := congrArg (get? key) h
  have htext : a.text = b.text :=
    Option.map_injective str_injective (by simpa [Part.json] using hfield "text")
  have hthought : a.thought = b.thought :=
    Option.map_injective bool_injective (by simpa [Part.json] using hfield "thought")
  have hinlineData : a.inlineData = b.inlineData :=
    Option.map_injective InlineData.json_injective
      (by simpa [Part.json] using hfield "inlineData")
  have hfileData : a.fileData = b.fileData :=
    Option.map_injective FileData.json_injective (by simpa [Part.json] using hfield "fileData")
  have hfunctionCall : a.functionCall = b.functionCall :=
    Option.map_injective FunctionCall.json_injective
      (by simpa [Part.json] using hfield "functionCall")
  have hfunctionResponse : a.functionResponse = b.functionResponse :=
    Option.map_injective FunctionResponse.json_injective
      (by simpa [Part.json] using hfield "functionResponse")
  cases a
  cases b
  simp_all only

theorem Content.json_injective : Function.Injective Content.json := by
  rintro ⟨role, parts⟩ ⟨role', parts'⟩ h
  have hfield key := congrArg (get? key) h
  have hrole : role = role' :=
    Option.map_injective str_injective (by simpa [Content.json] using hfield "role")
  have hparts : parts = parts' :=
    List.map_injective_iff.mpr Part.json_injective
      (by simpa [Content.json] using hfield "parts")
  rw [hrole, hparts]

theorem FunctionDeclaration.json_injective : Function.Injective FunctionDeclaration.json := by
  rintro ⟨name, description, parameters⟩ ⟨name', description', parameters'⟩ h
  have hfield key := congrArg (get? key) h
  have hname : name = name' := by simpa [FunctionDeclaration.json] using hfield "name"
  have hdescription : description = description' :=
    Option.map_injective str_injective
      (by simpa [FunctionDeclaration.json] using hfield "description")
  have hparameters : parameters = parameters' := by
    simpa [FunctionDeclaration.json] using hfield "parameters"
  rw [hname, hdescription, hparameters]

theorem Tool.json_injective : Function.Injective Tool.json := by
  rintro ⟨declarations⟩ ⟨declarations'⟩ h
  have hdeclarations : declarations = declarations' :=
    List.map_injective_iff.mpr FunctionDeclaration.json_injective
      (by simpa [Tool.json] using congrArg (get? "functionDeclarations") h)
  rw [hdeclarations]

theorem toolsJson_injective : Function.Injective toolsJson := list_injective Tool.json_injective

theorem FunctionCallingConfig.json_injective : Function.Injective FunctionCallingConfig.json := by
  rintro ⟨mode, allowed⟩ ⟨mode', allowed'⟩ h
  have hfield key := congrArg (get? key) h
  have hmode : mode = mode' := by simpa [FunctionCallingConfig.json] using hfield "mode"
  have hallowed : allowed = allowed' :=
    Option.map_injective strings_injective
      (by simpa [FunctionCallingConfig.json] using hfield "allowedFunctionNames")
  rw [hmode, hallowed]

theorem ToolConfig.json_injective : Function.Injective ToolConfig.json := by
  rintro ⟨config⟩ ⟨config'⟩ h
  have hconfig : config = config' :=
    FunctionCallingConfig.json_injective
      (by simpa [ToolConfig.json] using congrArg (get? "functionCallingConfig") h)
  rw [hconfig]

theorem Shared.fingerprint_injective : Function.Injective Shared.fingerprint := by
  rintro ⟨system, contents, tools, toolConfig⟩ ⟨system', contents', tools', toolConfig'⟩ h
  have hfield key := congrArg (get? key) h
  have hsystem : system = system' :=
    orNull_injective Content.json_injective nofun
      (by simpa [Shared.fingerprint] using hfield "system_instruction")
  have hcontents : contents = contents' :=
    List.map_injective_iff.mpr Content.json_injective
      (by simpa [Shared.fingerprint] using hfield "contents")
  have htools : tools = tools' :=
    orNull_injective toolsJson_injective nofun
      (by simpa [Shared.fingerprint] using hfield "tools")
  have htoolConfig : toolConfig = toolConfig' :=
    orNull_injective ToolConfig.json_injective nofun
      (by simpa [Shared.fingerprint] using hfield "tool_config")
  rw [hsystem, hcontents, htools, htoolConfig]

section Finite

open Json (RecordReader isFinite_record isFinite_list isFinite_orNull)

theorem FunctionCall.decoder_gives : FunctionCall.decoder.Gives fun c => c.json.IsFinite := by
  refine RecordReader.Gives.decoder
    (.seq (.map (.required (.trivially _)) ?_) (.withDefault .json trivial))
  intro name _ args hargs
  simp [FunctionCall.json, isFinite_record, hargs]

theorem FunctionResponse.decoder_gives :
    FunctionResponse.decoder.Gives fun r => r.json.IsFinite := by
  refine RecordReader.Gives.decoder (.seq (.map (.required (.trivially _)) ?_) (.required .json))
  intro name _ response hresponse
  simp [FunctionResponse.json, isFinite_record, hresponse]

theorem Part.decoder_gives : Part.decoder.Gives fun p => p.json.IsFinite := by
  refine RecordReader.Gives.decoder
    (.seq (.seq (.seq (.seq (.seq (.map (.nullable (.trivially _)) ?_) (.nullable (.trivially _)))
      (.nullable (.trivially _))) (.nullable (.trivially _)))
      (.nullable FunctionCall.decoder_gives)) (.nullable FunctionResponse.decoder_gives))
  intro text _ thought _ inlineData _ fileData _ functionCall hcall functionResponse hresponse
  simpa [Part.json, isFinite_record, InlineData.json, FileData.json] using ⟨hcall, hresponse⟩

theorem Content.decoder_gives : Content.decoder.Gives fun c => c.json.IsFinite := by
  refine RecordReader.Gives.decoder (.seq (.map (.nullable (.trivially _)) ?_)
    (.withDefault (.list Part.decoder_gives) (List.forall_mem_nil _)))
  intro role _ parts hparts
  simpa [Content.json, isFinite_record, isFinite_list] using hparts

theorem FunctionDeclaration.decoder_gives :
    FunctionDeclaration.decoder.Gives fun d => d.json.IsFinite := by
  refine RecordReader.Gives.decoder (.seq (.seq (.map (.required (.trivially _)) ?_)
    (.nullable (.trivially _))) (.nullable .json))
  intro name _ description _ parameters hparameters
  simpa [FunctionDeclaration.json, isFinite_record] using hparameters

theorem Tool.decoder_gives : Tool.decoder.Gives fun t => t.json.IsFinite := by
  refine RecordReader.Gives.decoder
    (.map (.required (.list FunctionDeclaration.decoder_gives)) ?_)
  intro declarations hdeclarations
  simpa [Tool.json, isFinite_record, isFinite_list] using hdeclarations

theorem ToolConfig.isFinite_json (c : ToolConfig) : c.json.IsFinite := by
  simp [ToolConfig.json, FunctionCallingConfig.json, isFinite_record, Json.strings, isFinite_list]

theorem ChatBody.decoder_gives :
    ChatBody.decoder.Gives fun b => b.shared.fingerprint.IsFinite := by
  refine RecordReader.Gives.decoder
    (.seq (.seq (.seq (.seq (.seq (.seq
      (.map (.withDefault (.list Content.decoder_gives) (List.forall_mem_nil _)) ?_)
      (.nullable Content.decoder_gives)) (.withDefault (.trivially _) trivial))
      (.nullable (.trivially _))) (.nullable (.list Tool.decoder_gives)))
      (.nullable (.trivially _))) (.nullable (.trivially _)))
  intro contents hcontents system hsystem safety _ generation _ tools htools config _ cached _
  have hkept : ∀ c ∈ contents.dropLast, c.json.IsFinite := fun c hc =>
    hcontents c (List.mem_of_mem_dropLast hc)
  simpa [ChatBody.shared, Shared.fingerprint, isFinite_record, isFinite_orNull, isFinite_list,
    toolsJson, ToolConfig.isFinite_json, ← List.map_dropLast] using ⟨hsystem, hkept, htools⟩

end Finite

/-- A prompt whose numbers can all be written is told by its fingerprint. -/
theorem Shared.eq_of_preamble {a b : Shared} (ha : a.fingerprint.IsFinite)
    (hb : b.fingerprint.IsFinite) (h : a.preamble.fingerprint = b.preamble.fingerprint) : a = b :=
  Shared.fingerprint_injective (Json.text_inj ha hb h)

end ModelGateway.Wire.Gemini
