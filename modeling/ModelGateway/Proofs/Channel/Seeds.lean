import ModelGateway.Channel.Seed
import ModelGateway.Proofs.Channel.History
import ModelGateway.Proofs.Json.Members
import ModelGateway.Proofs.Json.RoundTrip

/-!
# Channels of a configuration

The keys, the models and the aliases of a configured channel are stored as texts.  What is read from
these texts is what was configured, trimmed and without blanks, and it is the same after the channel
was put into a table.
-/

namespace ModelGateway

namespace Channel

open Json (Decoder Misfit sortMembers)

variable (seed : ChannelSeed)

theorem keys_ofSeed : (ofSeed seed).keys = seed.keys.flatMap Text.nonBlankLines := by
  have hlines : (ofSeed seed).keys = Text.nonBlankLines ("\n".intercalate seed.keys) := rfl
  rw [hlines, Text.nonBlankLines_eq, Text.nonBlankPieces_intercalate rfl]
  exact List.flatMap_congr fun s _ => (Text.nonBlankLines_eq s).symm

theorem modelList_ofSeed :
    (ofSeed seed).modelList = seed.models.flatMap (Text.nonBlankPieces ',') :=
  Text.nonBlankPieces_intercalate rfl seed.models

theorem supportsModel_iff {c : Channel} {model : String} (h : model ≠ "") :
    c.supportsModel model = true ↔ model ∈ c.modelList := by
  simp [supportsModel, modelList, Text.nonBlank?_eq_some_iff, h]

theorem mapFrom_string_memberDocuments (table : TextTable) :
    Decoder.mapFrom (Decoder.string .json)
        (Json.memberDocuments (table.map fun (k, v) => (k, .str v))) =
      (.ok table : Except Misfit TextTable) := by
  induction table with
  | nil => rfl
  | cons entry table ih =>
      obtain ⟨k, v⟩ := entry
      exact congrArg (Except.map ((k, v) :: ·)) ih

theorem readable_textTable (table : TextTable) :
    Json.Readable 0 table.json := by
  refine ⟨by decide, ?_⟩
  induction table with
  | nil => trivial
  | cons entry table ih => exact ⟨trivial, ih⟩

theorem textTable_text_ne {table : TextTable} (h : table ≠ []) :
    table.json.text ≠ "\x7b\x7d" := by
  obtain ⟨⟨k, v⟩, rest, rfl⟩ := List.exists_cons_of_ne_nil h
  intro heq
  have hchars := congrArg String.toList heq
  rw [Json.text, String.toList_ofList] at hchars
  cases rest <;> simp [TextTable.json, Json.write, Json.writeMembers, Json.quoted] at hchars

theorem aliases?_ofSeed : (ofSeed seed).aliases? = some (sortMembers seed.modelMapping) := by
  have hmapping : (ofSeed seed).modelMapping =
    if seed.modelMapping.isEmpty then none else some seed.modelMapping.json.text := rfl
  rw [aliases?, hmapping]
  by_cases hnil : seed.modelMapping = []
  · rw [hnil]
    rfl
  · have hkept : Text.nonBlank? seed.modelMapping.json.text = some seed.modelMapping.json.text :=
      Json.nonBlank?_text_obj _
    have hread : Decoder.map .string .json seed.modelMapping.json.document =
        .ok (sortMembers seed.modelMapping) :=
      congrArg (Except.map sortMembers) (mapFrom_string_memberDocuments seed.modelMapping)
    rw [if_neg (by simpa using hnil), Option.bind_some, hkept]
    dsimp only
    rw [if_neg (textTable_text_ne hnil), Json.readDocument?_text (readable_textTable _)]
    dsimp only
    rw [hread]
    rfl

end Channel

theorem ChannelTable.get_upsert (t : ChannelTable) (c : Channel) :
    ∃ status responseTimeMs testTime,
      (t.upsert c).get c.id = .ok (some { c with status, responseTimeMs, testTime }) := by
  rw [get, find?_upsert_self]
  cases t.find? c.id with
  | none => exact ⟨c.status, 0, none, by simp [ChannelRow.channel?_ofChannel]⟩
  | some row =>
      refine ⟨.ofNumber row.status, row.responseTimeMs, row.testTime.bind Instant.parse?, ?_⟩
      simp [ChannelRow.channel?, ChannelRow.configured, ChannelRow.ofChannel,
        Provider.ofName?_name]

/-- Keys without line feeds and models without commas, all of them trimmed. -/
structure ChannelSeed.Plain (seed : ChannelSeed) : Prop where
  keys : ∀ key ∈ seed.keys, Text.IsPiece '\n' key
  models : ∀ model ∈ seed.models, Text.IsPiece ',' model

namespace Channel

variable {seed : ChannelSeed}

/-- The channel has the configured keys, models and aliases. -/
structure Carries (c : Channel) (seed : ChannelSeed) : Prop where
  keys : c.keys = seed.keys.flatMap Text.nonBlankLines
  models : c.modelList = seed.models.flatMap (Text.nonBlankPieces ',')
  aliases : ∃ table, c.aliases? = some table ∧
    ((seed.modelMapping.map Prod.fst).Nodup →
      ∀ name, table.lookup name = seed.modelMapping.lookup name)

theorem carries_ofSeed (seed : ChannelSeed) : (ofSeed seed).Carries seed where
  keys := keys_ofSeed seed
  models := modelList_ofSeed seed
  aliases := ⟨_, aliases?_ofSeed seed, Json.lookup_sortMembers⟩

theorem Carries.of_plain {c : Channel} (h : c.Carries seed) (hplain : seed.Plain) :
    c.keys = seed.keys ∧ c.modelList = seed.models := by
  have hkeys : seed.keys.flatMap Text.nonBlankLines = seed.keys := by
    rw [List.flatMap_congr fun key _ => Text.nonBlankLines_eq key]
    exact Text.flatMap_nonBlankPieces hplain.keys
  exact ⟨h.keys.trans hkeys, h.models.trans (Text.flatMap_nonBlankPieces hplain.models)⟩

/-- The channel of a configuration carries it, before and after it was put into a table, and has
exactly the configured keys and models if these are plain.  A channel supports the models of its
list only. -/
theorem ofSeed_reads_back (seed : ChannelSeed) :
    (ofSeed seed).Carries seed ∧
    (∀ t : ChannelTable, ∃ c, (t.upsert (ofSeed seed)).get seed.id = .ok (some c) ∧
      c.Carries seed) ∧
    (seed.Plain → ∀ c : Channel, c.Carries seed →
      c.keys = seed.keys ∧ c.modelList = seed.models) ∧
    ∀ (c : Channel) (model : String), Text.isBlankText model = false →
      (c.supportsModel model = true ↔ model ∈ c.modelList) := by
  have hcarries := carries_ofSeed seed
  refine ⟨hcarries, fun t => ?_, fun hplain c hc => hc.of_plain hplain, fun c model hmodel => ?_⟩
  · obtain ⟨status, responseTimeMs, testTime, hget⟩ := t.get_upsert (ofSeed seed)
    exact ⟨_, hget, hcarries.keys, hcarries.models, hcarries.aliases⟩
  · exact supportsModel_iff (Text.ne_empty_of_nonblank hmodel)

def plainSeed : ChannelSeed where
  id := 1
  name := "first"
  provider := .gemini
  baseUrl := none
  keys := ["k 1", "k2"]
  models := ["gemini-2.5-pro", "b"]
  testModel := none
  modelMapping := [("fast", "b"), ("a", "\"\n")]
  group := "default"
  autoBan := true

theorem ofSeed_reads_back_plainSeed :
    (∃ c, (({} : ChannelTable).upsert (ofSeed plainSeed)).get 1 = .ok (some c) ∧
      c.keys = ["k 1", "k2"] ∧ c.modelList = ["gemini-2.5-pro", "b"] ∧
      c.supportsModel "b" = true) ∧
    ∃ table, (ofSeed plainSeed).aliases? = some table ∧ table.lookup "a" = some "\"\n" := by
  obtain ⟨hcarries, hgot, hplain, hsupports⟩ := ofSeed_reads_back plainSeed
  obtain ⟨c, hget, hc⟩ := hgot {}
  obtain ⟨hkeys, hmodels⟩ := hplain ⟨by decide, by decide⟩ c hc
  obtain ⟨table, hread, hlookup⟩ := hcarries.aliases
  refine ⟨⟨c, hget, hkeys, hmodels, (hsupports c "b" (by decide)).mpr ?_⟩, table, hread, ?_⟩
  · rw [hmodels]
    decide
  · rw [hlookup (by decide)]
    decide

end Channel

end ModelGateway
