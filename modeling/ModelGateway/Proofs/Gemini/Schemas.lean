import ModelGateway.Proofs.Gemini.Agreement
import ModelGateway.Proofs.Json.Members

/-!
# Schemas of tools and responses

The members of an object in a schema are keywords, names chosen by the author, or data, depending on
where the object stands.  `cleanSchema` removes every member that is spelled like a refused keyword,
names and data included.  If no name or datum is spelled like one, it removes exactly the refused
keywords.
-/

namespace ModelGateway.Wire.Gemini

namespace Schema

/-- What the members of an object in a schema are. -/
inductive Place where
  /-- Keywords: the object is a schema. -/
  | schema
  /-- Names that the author of the schema chose, each with a schema of its own. -/
  | table
  /-- Data, such as a default or an enumeration. -/
  | data
  deriving DecidableEq, Repr

def tableKeywords : List String :=
  ["properties", "patternProperties", "$defs", "definitions", "dependentSchemas", "dependencies",
    "dependentRequired"]

def dataKeywords : List String := ["const", "default", "enum", "example", "examples"]

def Place.under (key : String) : Place → Place
  | .schema =>
    if key ∈ tableKeywords then .table else if key ∈ dataKeywords then .data else .schema
  | .table => .schema
  | .data => .data

def Place.Refuses (place : Place) (key : String) : Prop :=
  place = .schema ∧ key ∈ refusedKeywords

instance (place : Place) (key : String) : Decidable (place.Refuses key) :=
  inferInstanceAs (Decidable (_ ∧ _))

structure Object where
  path : List String
  place : Place
  members : List (String × Json)

mutual

def objectsFrom (path : List String) (place : Place) : Json → List Object
  | .arr items => objectsOfItems path place 0 items
  | .obj members => ⟨path, place, members⟩ :: objectsOfMembers path place members
  | .null | .bool _ | .num _ | .str _ => []

def objectsOfItems (path : List String) (place : Place) : (index : Nat) → List Json → List Object
  | _, [] => []
  | index, x :: rest =>
    objectsFrom (path ++ [Nat.repr index]) place x ++ objectsOfItems path place (index + 1) rest

def objectsOfMembers (path : List String) (place : Place) : List (String × Json) → List Object
  | [] => []
  | (key, x) :: rest =>
    if place.Refuses key then objectsOfMembers path place rest
    else objectsFrom (path ++ [key]) (place.under key) x ++ objectsOfMembers path place rest

end

def objects (schema : Json) : List Object :=
  objectsFrom [] .schema schema

namespace Object

def keys (o : Object) : List String :=
  o.members.map Prod.fst

def declared (o : Object) : List (String × Json) :=
  match o.members.lookup "properties" with
  | some (.obj parameters) => parameters
  | _ => []

def required (o : Object) : List String :=
  match o.members.lookup "required" with
  | some (.arr names) => names.filterMap Json.str?
  | _ => []

end Object

/-- An object of the schema has a refused keyword. -/
def CarriesKeyword (schema : Json) : Prop :=
  ∃ o ∈ objects schema, o.place = .schema ∧ ∃ key ∈ o.keys, key ∈ refusedKeywords

/-- A name or a datum in the schema is spelled like a refused keyword. -/
def NamesKeyword (schema : Json) : Prop :=
  ∃ o ∈ objects schema, o.place ≠ .schema ∧ ∃ key ∈ o.keys, key ∈ refusedKeywords

instance (schema : Json) : Decidable (CarriesKeyword schema) :=
  inferInstanceAs (Decidable (∃ o ∈ objects schema, _ ∧ ∃ key ∈ o.keys, _))

instance (schema : Json) : Decidable (NamesKeyword schema) :=
  inferInstanceAs (Decidable (∃ o ∈ objects schema, _ ∧ ∃ key ∈ o.keys, _))

mutual

/-- The schema without refused keywords; names and data stay, however they are spelled. -/
def pruned (place : Place) : Json → Json
  | .null => .null
  | .bool b => .bool b
  | .num n => .num n
  | .str s => .str s
  | .arr items => .arr (prunedItems place items)
  | .obj members => .obj (prunedMembers place members)

def prunedItems (place : Place) : List Json → List Json
  | [] => []
  | x :: rest => pruned place x :: prunedItems place rest

def prunedMembers (place : Place) : List (String × Json) → List (String × Json)
  | [] => []
  | (key, x) :: rest =>
    if place.Refuses key then prunedMembers place rest
    else (key, pruned (place.under key) x) :: prunedMembers place rest

end

structure Object.KeptAs (before after : Object) : Prop where
  path_eq : after.path = before.path
  place_eq : after.place = before.place
  declared_eq : before.place = .schema →
    after.declared = before.declared.map fun (name, x) => (name, pruned .schema x)
  required_declared : before.place = .schema → ∀ name ∈ before.required,
    name ∈ before.declared.map Prod.fst → name ∈ after.declared.map Prod.fst

/-- Nothing but refused keywords is removed, and no schema loses a parameter. -/
structure Keeps (before after : Json) : Prop where
  only_keywords : after = pruned .schema before
  parameters : List.Forall₂ Object.KeptAs (objects before) (objects after)

/-! ## Pruning -/

def Object.pruned (o : Object) : Object :=
  { o with members := prunedMembers o.place o.members }

theorem Place.Refuses.not_of_not_mem {key : String} (h : key ∉ refusedKeywords) (place : Place) :
    ¬ place.Refuses key :=
  fun hrefuses => h hrefuses.2

mutual

theorem objectsFrom_pruned (path : List String) (place : Place) (x : Json) :
    objectsFrom path place (pruned place x) = (objectsFrom path place x).map Object.pruned := by
  cases x with
  | arr items => exact objectsOfItems_pruned path place 0 items
  | obj members => exact congrArg (_ :: ·) (objectsOfMembers_pruned path place members)
  | null | bool | num | str => rfl

theorem objectsOfItems_pruned (path : List String) (place : Place) (index : Nat)
    (items : List Json) :
    objectsOfItems path place index (prunedItems place items) =
      (objectsOfItems path place index items).map Object.pruned := by
  match items with
  | [] => rfl
  | x :: rest =>
      rw [prunedItems, objectsOfItems, objectsOfItems, List.map_append,
        objectsFrom_pruned (path ++ [Nat.repr index]) place x,
        objectsOfItems_pruned path place (index + 1) rest]

theorem objectsOfMembers_pruned (path : List String) (place : Place)
    (members : List (String × Json)) :
    objectsOfMembers path place (prunedMembers place members) =
      (objectsOfMembers path place members).map Object.pruned := by
  match members with
  | [] => rfl
  | (key, x) :: rest =>
      rw [prunedMembers, objectsOfMembers]
      split
      · exact objectsOfMembers_pruned path place rest
      · next h =>
        rw [objectsOfMembers, if_neg h, List.map_append,
          objectsFrom_pruned (path ++ [key]) (place.under key) x,
          objectsOfMembers_pruned path place rest]

end

theorem lookup_prunedMembers {place : Place} {key : String} (h : ¬ place.Refuses key)
    (members : List (String × Json)) :
    (prunedMembers place members).lookup key =
      (members.lookup key).map (pruned (place.under key)) := by
  induction members with
  | nil => rfl
  | cons member rest ih =>
      obtain ⟨k, x⟩ := member
      rw [prunedMembers, Json.lookup_cons_ite]
      by_cases hkey : key = k
      · subst hkey
        rw [if_neg h, Json.lookup_cons_ite, if_pos rfl, if_pos rfl, Option.map_some]
      · rw [if_neg hkey, ← ih]
        split
        · rfl
        · rw [Json.lookup_cons_ite, if_neg hkey]

theorem prunedMembers_table (members : List (String × Json)) :
    prunedMembers .table members = members.map fun (name, x) => (name, pruned .schema x) := by
  induction members with
  | nil => rfl
  | cons member rest ih =>
      rw [prunedMembers, if_neg (fun h => Place.noConfusion h.1), ih]
      rfl

theorem Object.declared_pruned {o : Object} (h : o.place = .schema) :
    o.pruned.declared = o.declared.map fun (name, x) => (name, Schema.pruned .schema x) := by
  have hproperties : ¬ o.place.Refuses "properties" :=
    Place.Refuses.not_of_not_mem (by decide) o.place
  have hunder : o.place.under "properties" = .table := by
    rw [h]
    decide
  unfold declared
  rw [pruned, lookup_prunedMembers hproperties, hunder]
  cases hlookup : o.members.lookup "properties" with
  | none => rfl
  | some x =>
      cases x with
      | obj parameters => exact prunedMembers_table parameters
      | null | bool | num | str | arr => rfl

theorem Object.keptAs_pruned (o : Object) : o.KeptAs o.pruned where
  path_eq := rfl
  place_eq := rfl
  declared_eq := declared_pruned
  required_declared hplace name _ hname := by
    rw [declared_pruned hplace, List.map_map]
    exact hname

theorem keeps_pruned (schema : Json) : Keeps schema (pruned .schema schema) where
  only_keywords := rfl
  parameters := by
    rw [objects, objects, objectsFrom_pruned, List.forall₂_map_right_iff]
    exact List.forall₂_same.mpr fun o _ => o.keptAs_pruned

/-! ## Cleaning -/

theorem map_fst_cleanMembers (members : List (String × Json)) :
    (cleanMembers members).map Prod.fst = (members.map Prod.fst).filter (· ∉ refusedKeywords) := by
  induction members with
  | nil => rfl
  | cons member rest ih =>
      obtain ⟨key, x⟩ := member
      rw [cleanMembers, List.map_cons, List.filter_cons]
      split
      · next h => simp [h, ih]
      · next h => simp [h, ih]

def Object.IsClean (o : Object) : Prop := ∀ key ∈ o.keys, key ∉ refusedKeywords

def Object.IsPlain (o : Object) : Prop := o.place ≠ .schema → o.IsClean

theorem not_namesKeyword_iff {schema : Json} :
    ¬ NamesKeyword schema ↔ ∀ o ∈ objects schema, o.IsPlain := by
  simp [NamesKeyword, Object.IsPlain, Object.IsClean]

mutual

theorem isClean_of_mem_cleanSchema (path : List String) (place : Place) (x : Json) :
    ∀ o ∈ objectsFrom path place (cleanSchema x), o.IsClean := by
  cases x with
  | arr items => exact isClean_of_mem_cleanItems path place 0 items
  | obj members =>
      refine List.forall_mem_cons.mpr
        ⟨fun key hkey => ?_, isClean_of_mem_cleanMembers path place members⟩
      rw [Object.keys, map_fst_cleanMembers] at hkey
      simpa using List.of_mem_filter hkey
  | null | bool | num | str => exact List.forall_mem_nil _

theorem isClean_of_mem_cleanItems (path : List String) (place : Place) (index : Nat)
    (items : List Json) : ∀ o ∈ objectsOfItems path place index (cleanItems items), o.IsClean := by
  match items with
  | [] => exact List.forall_mem_nil _
  | x :: rest =>
      rw [cleanItems, objectsOfItems]
      exact List.forall_mem_append.mpr ⟨isClean_of_mem_cleanSchema _ place x,
        isClean_of_mem_cleanItems path place (index + 1) rest⟩

theorem isClean_of_mem_cleanMembers (path : List String) (place : Place)
    (members : List (String × Json)) :
    ∀ o ∈ objectsOfMembers path place (cleanMembers members), o.IsClean := by
  match members with
  | [] => exact List.forall_mem_nil _
  | (key, x) :: rest =>
      have hrest := isClean_of_mem_cleanMembers path place rest
      rw [cleanMembers]
      split
      · exact hrest
      · next h =>
        rw [objectsOfMembers, if_neg (Place.Refuses.not_of_not_mem h place)]
        exact List.forall_mem_append.mpr ⟨isClean_of_mem_cleanSchema _ _ x, hrest⟩

end

mutual

theorem cleanSchema_eq_pruned {path : List String} {place : Place} {x : Json}
    (h : ∀ o ∈ objectsFrom path place x, o.IsPlain) : cleanSchema x = pruned place x := by
  cases x with
  | arr items => exact congrArg Json.arr (cleanItems_eq_prunedItems h)
  | obj members =>
      obtain ⟨hobject, hmembers⟩ := List.forall_mem_cons.mp h
      exact congrArg Json.obj (cleanMembers_eq_prunedMembers hobject hmembers)
  | null | bool | num | str => rfl

theorem cleanItems_eq_prunedItems {path : List String} {place : Place} {index : Nat}
    {items : List Json} (h : ∀ o ∈ objectsOfItems path place index items, o.IsPlain) :
    cleanItems items = prunedItems place items := by
  match items with
  | [] => rfl
  | x :: rest =>
      rw [objectsOfItems] at h
      obtain ⟨hfirst, hrest⟩ := List.forall_mem_append.mp h
      rw [cleanItems, prunedItems, cleanSchema_eq_pruned hfirst, cleanItems_eq_prunedItems hrest]

theorem cleanMembers_eq_prunedMembers {path : List String} {place : Place}
    {members : List (String × Json)}
    (hplain : place ≠ .schema → ∀ key ∈ members.map Prod.fst, key ∉ refusedKeywords)
    (h : ∀ o ∈ objectsOfMembers path place members, o.IsPlain) :
    cleanMembers members = prunedMembers place members := by
  match members with
  | [] => rfl
  | (key, x) :: rest =>
      -- What cleaning takes out is a keyword here, since no name is spelled like one.
      have hkey : key ∈ refusedKeywords → place.Refuses key := fun hmem =>
        ⟨by_contra fun hplace => hplain hplace key List.mem_cons_self hmem, hmem⟩
      have hplain' : place ≠ .schema → ∀ k ∈ rest.map Prod.fst, k ∉ refusedKeywords :=
        fun hplace k hk => hplain hplace k (List.mem_cons_of_mem key hk)
      rw [objectsOfMembers] at h
      rw [cleanMembers, prunedMembers]
      by_cases hrefuses : place.Refuses key
      · rw [if_pos hrefuses] at h
        rw [if_pos hrefuses.2, if_pos hrefuses, cleanMembers_eq_prunedMembers hplain' h]
      · rw [if_neg hrefuses] at h
        obtain ⟨hfirst, hrest⟩ := List.forall_mem_append.mp h
        rw [if_neg (mt hkey hrefuses), if_neg hrefuses, cleanSchema_eq_pruned hfirst,
          cleanMembers_eq_prunedMembers hplain' hrest]

end

theorem map_fst_prunedMembers {place : Place} (h : place ≠ .schema)
    (members : List (String × Json)) :
    (prunedMembers place members).map Prod.fst = members.map Prod.fst := by
  induction members with
  | nil => rfl
  | cons member rest ih =>
      rw [prunedMembers, if_neg fun hrefuses => h hrefuses.1, List.map_cons, ih]
      rfl

/-- Cleaning keeps a schema exactly if no name in it is spelled like a refused keyword. -/
theorem keeps_cleanSchema_iff (schema : Json) :
    Keeps schema (cleanSchema schema) ↔ ¬ NamesKeyword schema := by
  rw [not_namesKeyword_iff]
  constructor
  · intro hkeeps o ho hplace
    have hclean := isClean_of_mem_cleanSchema [] .schema schema
    rw [hkeeps.only_keywords, objectsFrom_pruned] at hclean
    have hpruned : o.pruned.IsClean := hclean _ (List.mem_map_of_mem ho)
    rwa [Object.IsClean, Object.keys, Object.pruned, map_fst_prunedMembers hplace] at hpruned
  · intro hplain
    rw [cleanSchema_eq_pruned hplain]
    exact keeps_pruned schema

theorem not_carriesKeyword_cleanSchema (schema : Json) : ¬ CarriesKeyword (cleanSchema schema) := by
  rintro ⟨o, ho, -, key, hkey, hrefused⟩
  exact isClean_of_mem_cleanSchema [] .schema schema o ho key hkey hrefused

end Schema

def ChatBody.declarations (body : ChatBody) : List FunctionDeclaration :=
  (body.tools.getD []).flatMap (·.functionDeclarations)

def ChatBody.schemas (body : ChatBody) : List Json :=
  body.declarations.filterMap (·.parameters) ++
    (body.generationConfig.bind (·.responseSchema)).toList

def answerSchema? (r : ChatRequest) : Option Json :=
  r.responseFormat.bind fun f =>
    if f.kind = "json_schema" then f.schema.bind (Json.get? "schema") else none

/-- The declaration of a tool, with a schema of the parameters that keeps the given one. -/
structure KeepsTool (t : ToolDefinition) (d : FunctionDeclaration) : Prop where
  name_eq : d.name = t.function.name
  description_eq : d.description = t.function.description
  parameters : Option.Rel Schema.Keeps t.function.parameters d.parameters

variable {s : GeminiSettings} {call : Call} {r : ChatRequest}

theorem responseSchema_withFormat {c : GenerationConfig} (h : c.responseSchema = none)
    (r : ChatRequest) : (withFormat c r.responseFormat).responseSchema = answerSchema? r := by
  unfold withFormat answerSchema?
  cases r.responseFormat with
  | none => exact h
  | some f =>
      dsimp only
      split
      · next hkind => simp [hkind, h]
      · next hkind => simp [hkind]
      · next hkind => rw [Option.bind_some, if_neg hkind, h]

theorem responseSchema_generationConfig (r : ChatRequest) (model : String) (s : GeminiSettings) :
    (generationConfig r model s).responseSchema = answerSchema? r := by
  unfold generationConfig
  dsimp only
  split <;> exact responseSchema_withFormat rfl r

theorem declarations_of_chatBody {model : String} {body : ChatBody}
    (h : chatBody r model s = .ok body) :
    body.declarations = (r.tools.getD []).map declaration := by
  obtain rfl := eq_of_chatBody_eq_ok h
  rw [ChatBody.declarations, tools?]
  rcases r.tools with _ | _ | ⟨t, ts⟩
  · rfl
  · rfl
  · exact List.append_nil _

/-- A body has the schemas of the parameters, cleaned, and that of the answer as it is. -/
theorem schemas_of_chatBody {model : String} {body : ChatBody} (h : chatBody r model s = .ok body) :
    body.schemas =
      (r.tools.getD []).filterMap (fun t => t.function.parameters.map cleanSchema) ++
        (answerSchema? r).toList := by
  rw [ChatBody.schemas, declarations_of_chatBody h, List.filterMap_map]
  obtain rfl := eq_of_chatBody_eq_ok h
  rw [Option.bind_some, responseSchema_generationConfig]
  rfl

theorem keepsTool_declaration_iff (t : ToolDefinition) :
    KeepsTool t (declaration t) ↔ ∀ p ∈ t.function.parameters, ¬ Schema.NamesKeyword p := by
  have hparameters : KeepsTool t (declaration t) ↔
      Option.Rel Schema.Keeps t.function.parameters (t.function.parameters.map cleanSchema) :=
    ⟨fun h => h.parameters, fun h => ⟨rfl, rfl, h⟩⟩
  rw [hparameters]
  cases t.function.parameters with
  | none => simp
  | some p => simp [Schema.keeps_cleanSchema_iff]

/-! ## What is sent -/

/-- For each tool, the schema that is sent keeps the given one exactly if no name in it is spelled
like a refused keyword. -/
theorem convert_keepsTool_iff {sent : Json × Call} (h : convert s call (.chat r) = .ok sent) :
    ∃ body, chatBody r call.providerModel s = .ok body ∧ sent = (body.json.sorted, call) ∧
      List.Forall₂
        (fun t d => KeepsTool t d ↔ ∀ p ∈ t.function.parameters, ¬ Schema.NamesKeyword p)
        (r.tools.getD []) body.declarations := by
  obtain ⟨body, hbody, hsent⟩ := exists_chatBody_of_convert h
  refine ⟨body, hbody, hsent, ?_⟩
  rw [declarations_of_chatBody hbody, List.forall₂_map_right_iff]
  exact List.forall₂_same.mpr fun t _ => keepsTool_declaration_iff t

def schemaWith (name : String) : Json :=
  .obj [
    ("$schema", .str "draft"),
    ("properties", .obj [
      ("file", .obj [("additionalProperties", .bool false), ("type", .str "object")]),
      (name, .obj [("type", .str "boolean")])]),
    ("required", .arr [.str name])]

def toolWith (name : String) : ToolDefinition where
  function := { name := "compile", parameters := some (schemaWith name) }

def chatWith (tools : List ToolDefinition) (answer : Option ResponseFormat) : ChatRequest where
  model := "gemini-2.5-flash"
  messages := [.ofText "user" "hi"]
  tools := some tools
  responseFormat := answer

def chatCall : Call where
  channelId := 1
  provider := .gemini
  wire := .gemini
  requestedModel := "gemini-2.5-flash"
  providerModel := "gemini-2.5-flash"
  isStream := false
  mode := .chat
  baseUrl := ""
  apiKey := "k"
  group := "default"
  promptTokens := 1
  includeUsage := false
  cacheWriteTokens := 0
  timeoutMs := 5000

theorem convert_keepsTool_iff_fast :
    ∃ body : ChatBody,
      convert {} chatCall (.chat (chatWith [toolWith "fast"] none)) =
        .ok (body.json.sorted, chatCall) ∧
      List.Forall₂ KeepsTool [toolWith "fast"] body.declarations := by
  obtain ⟨sent, h⟩ : ∃ sent, convert {} chatCall (.chat (chatWith [toolWith "fast"] none)) =
    .ok sent := ⟨_, rfl⟩
  obtain ⟨body, -, rfl, htools⟩ := convert_keepsTool_iff h
  have hplain : ¬ Schema.NamesKeyword (schemaWith "fast") := by decide
  obtain ⟨d, ds, hiff, hrest, hdeclarations⟩ := List.forall₂_cons_left_iff.mp htools
  cases hrest
  refine ⟨body, h, ?_⟩
  rw [hdeclarations]
  exact .cons (hiff.mpr fun p hp => Option.some.inj hp ▸ hplain) .nil

/-- A required parameter named `strict` is removed. -/
theorem strict_parameter_lost :
    ∃ (body : ChatBody) (d : FunctionDeclaration) (p : Json),
      convert {} chatCall (.chat (chatWith [toolWith "strict"] none)) =
        .ok (body.json.sorted, chatCall) ∧
      body.declarations = [d] ∧ d.parameters = some p ∧
      ((schemaWith "strict").at? ["properties", "strict"]).isSome = true ∧
      p.at? ["properties", "strict"] = none ∧ p.at? ["required", "0"] = some (.str "strict") ∧
      ¬ Schema.Keeps (schemaWith "strict") p := by
  have hnames : Schema.NamesKeyword (schemaWith "strict") := by decide
  refine ⟨_, _, _, rfl, rfl, rfl, by decide, by decide, by decide, fun hkeeps => ?_⟩
  exact (Schema.keeps_cleanSchema_iff _).mp hkeeps hnames

/-- The schemas that are sent have a refused keyword exactly if the response schema does. -/
theorem convert_carriesKeyword_iff {sent : Json × Call} (h : convert s call (.chat r) = .ok sent) :
    ∃ body, chatBody r call.providerModel s = .ok body ∧ sent = (body.json.sorted, call) ∧
      ((∃ x ∈ body.schemas, Schema.CarriesKeyword x) ↔
        ∃ x ∈ answerSchema? r, Schema.CarriesKeyword x) := by
  obtain ⟨body, hbody, hsent⟩ := exists_chatBody_of_convert h
  refine ⟨body, hbody, hsent, ?_⟩
  rw [schemas_of_chatBody hbody]
  constructor
  · rintro ⟨x, hx, hcarries⟩
    rcases List.mem_append.mp hx with hparameters | hanswer
    · obtain ⟨t, -, ht⟩ := List.mem_filterMap.mp hparameters
      obtain ⟨p, -, rfl⟩ := Option.map_eq_some_iff.mp ht
      exact absurd hcarries (Schema.not_carriesKeyword_cleanSchema p)
    · exact ⟨x, Option.mem_toList.mp hanswer, hcarries⟩
  · rintro ⟨x, hx, hcarries⟩
    exact ⟨x, List.mem_append_right _ (Option.mem_toList.mpr hx), hcarries⟩

theorem convert_carriesKeyword_iff_fast :
    ∃ body : ChatBody,
      convert {} chatCall (.chat (chatWith [toolWith "fast"] none)) =
        .ok (body.json.sorted, chatCall) ∧
      Schema.CarriesKeyword (schemaWith "fast") ∧ body.schemas ≠ [] ∧
      ∀ x ∈ body.schemas, ¬ Schema.CarriesKeyword x := by
  obtain ⟨sent, h⟩ : ∃ sent, convert {} chatCall (.chat (chatWith [toolWith "fast"] none)) =
    .ok sent := ⟨_, rfl⟩
  obtain ⟨body, hbody, rfl, hiff⟩ := convert_carriesKeyword_iff h
  have hcarries : Schema.CarriesKeyword (schemaWith "fast") := by decide
  refine ⟨body, h, hcarries, ?_, fun x hx hcarries => ?_⟩
  · rw [schemas_of_chatBody hbody]
    nofun
  · obtain ⟨answer, hanswer, -⟩ := hiff.mp ⟨x, hx, hcarries⟩
    cases hanswer

/-- The schema for the answer is sent with the keywords that are refused. -/
theorem answer_schema_not_cleaned :
    let answer : ResponseFormat :=
      ⟨"json_schema", some (.obj [("name", .str "n"), ("schema", schemaWith "fast")])⟩
    ∃ body : ChatBody,
      convert {} chatCall (.chat (chatWith [] (some answer))) =
        .ok (body.json.sorted, chatCall) ∧
      body.generationConfig.bind (·.responseSchema) = some (schemaWith "fast") ∧
      schemaWith "fast" ∈ body.schemas ∧ Schema.CarriesKeyword (schemaWith "fast") := by
  intro answer
  refine ⟨_, rfl, rfl, ?_, by decide⟩
  exact List.mem_singleton_self _

end ModelGateway.Wire.Gemini
