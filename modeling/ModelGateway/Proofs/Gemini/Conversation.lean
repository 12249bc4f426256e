import Mathlib.Data.List.Forall2
import Mathlib.Data.List.Induction
import Mathlib.Data.List.ReduceOption
import ModelGateway.Proofs.Gemini.Agreement

/-!
# Conversations

The turns of a Gemini request, message by message.  A message is an instruction, an answer to a
call, or speech, and its turn depends on the message alone and, for an answer, on the calls before
it.
-/

namespace ModelGateway.Wire.Gemini

/-- The text of a message; the texts of parts stand on lines of their own. -/
def wording (m : Message) : String :=
  match m.content with
  | none => ""
  | some (.text t) => t
  | some (.parts ps) => "\n".intercalate (ps.filterMap (·.text))

def pieces (m : Message) : List ContentPart :=
  match m.content with
  | none => []
  | some (.text t) => [{ kind := "text", text := some t }]
  | some (.parts ps) => ps

def imageTypes : List (String × String) := [
  (".png", "image/png"), (".webp", "image/webp"), (".gif", "image/gif"),
  (".pdf", "application/pdf")]

def linkedPath (url : String) : List Char :=
  (url.toList.takeWhile (· ≠ '?')).map Char.toLower

/-- The media type of a link, by the end of its path. -/
inductive LinkType (url : String) : String → Prop
  | known {ending type : String} (hentry : (ending, type) ∈ imageTypes)
      (hending : ending.toList <:+ linkedPath url) : LinkType url type
  | other (hother : ∀ entry ∈ imageTypes, ¬ entry.1.toList <:+ linkedPath url) :
      LinkType url "image/jpeg"

/-- An image with its data in the address is sent as that data, any other as a link. -/
inductive ImageAs (url : String) : Part → Prop
  | data {type data : String} (hurl : url = "data:" ++ type ++ ";base64," ++ data)
      (htype : ',' ∉ type.toList) : ImageAs url { inlineData := some ⟨type, data⟩ }
  | link {type : String}
      (hurl : ∀ type data : String, ',' ∉ type.toList →
        url ≠ "data:" ++ type ++ ";base64," ++ data)
      (htype : LinkType url type) : ImageAs url { fileData := some ⟨type, url⟩ }

/-- What is sent of a part of a message: text that is not empty, an image, or nothing. -/
inductive SentAs (p : ContentPart) : Option Part → Prop
  | text {t : String} (hkind : p.kind = "text") (htext : p.text = some t) (ht : t ≠ "") :
      SentAs p (some { text := some t })
  | image {i : ImageUrl} {part : Part} (hkind : p.kind = "image_url")
      (himage : p.imageUrl = some i) (hpart : ImageAs i.url part) : SentAs p (some part)
  | nothing (htext : p.kind = "text" → p.text.getD "" = "")
      (himage : p.kind = "image_url" → p.imageUrl = none) : SentAs p none

/-- The arguments that a text stands for: what it reads as, or none. -/
inductive Arguments (text : String) : Json → Prop
  | read {arguments : Json} (h : Json.readText? text = some arguments) : Arguments text arguments
  | unreadable (h : Json.readText? text = none) : Arguments text (.obj [])

def CalledAs (c : ToolCall) (p : Part) : Prop :=
  ∃ arguments, Arguments c.function.arguments arguments ∧
    p = { functionCall := some ⟨c.function.name, arguments⟩ }

def Says (m : Message) (parts : List Part) : Prop :=
  ∃ said called, List.Forall₂ SentAs (pieces m) said ∧
    List.Forall₂ CalledAs (m.toolCalls.getD []) called ∧ parts = said.reduceOption ++ called

def instructionRoles : List String := ["system", "developer"]

def answerRoles : List String := ["tool", "function"]

def IsSpeech (m : Message) : Prop :=
  m.role ∉ instructionRoles ∧ m.role ∉ answerRoles

instance (m : Message) : Decidable (IsSpeech m) :=
  inferInstanceAs (Decidable (_ ∧ _))

def callsIn (messages : List Message) : List ToolCall :=
  (messages.filter (IsSpeech ·)).flatMap (·.toolCalls.getD [])

/-- The latest of the calls with an id. -/
def Latest (calls : List ToolCall) (id : String) (c : ToolCall) : Prop :=
  c.id = id ∧ ∃ earlier later, calls = earlier ++ c :: later ∧ ∀ other ∈ later, other.id ≠ id

/-- The function that a message answers for: that of the latest call with its id, else the one it
names. -/
inductive AnswersFor (calls : List ToolCall) (m : Message) : String → Prop
  | called {id : String} {c : ToolCall} (hid : m.toolCallId = some id) (hc : Latest calls id c) :
      AnswersFor calls m c.function.name
  | named {name : String} (hid : ∀ id ∈ m.toolCallId, ∀ c ∈ calls, c.id ≠ id)
      (hname : m.name = some name) : AnswersFor calls m name
  | nameless (hid : ∀ id ∈ m.toolCallId, ∀ c ∈ calls, c.id ≠ id) (hname : m.name = none) :
      AnswersFor calls m ""

/-- The object that a text reads as, or an object with the text as its content. -/
inductive Response (text : String) : Json → Prop
  | object {members : List (String × Json)} (h : Json.readText? text = some (.obj members)) :
      Response text (.obj members)
  | content (h : ∀ members, Json.readText? text ≠ some (.obj members)) :
      Response text (.obj [("content", .str text)])

/-- The turn of a message, given the calls before it. -/
inductive TurnOf (before : List Message) (m : Message) : Option Content → Prop
  | instruction (hrole : m.role ∈ instructionRoles) : TurnOf before m none
  | answer {name : String} {response : Json} (hrole : m.role ∈ answerRoles)
      (hname : AnswersFor (callsIn before) m name) (hresponse : Response (wording m) response) :
      TurnOf before m (some {
        role := some "user", parts := [{ functionResponse := some ⟨name, response⟩ }] })
  | speech {parts : List Part} (hrole : IsSpeech m) (hparts : Says m parts) (hne : parts ≠ []) :
      TurnOf before m (some {
        role := some (if m.role = "assistant" then "model" else "user"), parts })
  | silence (hrole : IsSpeech m) (hparts : Says m []) : TurnOf before m none

/-- The turns of a conversation, in the order of its messages. -/
inductive Becomes : List Message → List Content → Prop
  | nothing : Becomes [] []
  | message {before : List Message} {m : Message} {contents : List Content}
      {turn : Option Content} (hbefore : Becomes before contents) (hturn : TurnOf before m turn) :
      Becomes (before ++ [m]) (contents ++ turn.toList)

def instructionTexts (messages : List Message) : List String :=
  ((messages.filter (·.role ∈ instructionRoles)).map wording).filter (· ≠ "")

structure Holds (body : ChatBody) (messages : List Message) : Prop where
  turns : Becomes messages body.contents
  instruction : body.systemInstruction =
    if instructionTexts messages = [] then none
    else some { parts := [{ text := some ("\n".intercalate (instructionTexts messages)) }] }

def CallNames.after : CallNames → List Message → CallNames
  | names, [] => names
  | names, m :: rest =>
    match Speaker.ofRole m.role with
    | .system | .tool => CallNames.after names rest
    | .model | .user => CallNames.after (names.add m) rest

def turn? (names : CallNames) (m : Message) : Option Content :=
  match Speaker.ofRole m.role with
  | .system => none
  | .tool => some (toolTurn names m)
  | speaker =>
    let parts := messageParts m
    if parts.isEmpty then none
    else some { role := some (if speaker = .model then "model" else "user"), parts }

/-! ## One message -/

theorem text_eq_wording (m : Message) : m.text = wording m := by
  rw [Message.text, wording]
  rcases m.content with _ | _ | _ <;> rfl

theorem parts_eq_pieces (m : Message) : m.parts = pieces m := by
  rw [Message.parts, pieces]
  rcases m.content with _ | _ | _ <;> rfl

theorem splitDataUrl?_eq_some_iff {url type data : String} :
    splitDataUrl? url = some (type, data) ↔
      url = "data:" ++ type ++ ";base64," ++ data ∧ ',' ∉ type.toList := by
  have hmark : ";base64,".toList = ";base64".toList ++ [','] := by simp
  constructor
  · intro h
    obtain ⟨rest, hrest, h⟩ := Option.bind_eq_some_iff.mp h
    obtain ⟨⟨form, octets⟩, hform, h⟩ := Option.bind_eq_some_iff.mp h
    obtain ⟨mime, hmime, h⟩ := Option.bind_eq_some_iff.mp h
    obtain ⟨rfl, rfl⟩ := Prod.mk.inj (Option.some.inj h)
    obtain ⟨rfl, hcomma⟩ := Text.splitAtFirst?_eq_some_iff.mp hform
    obtain rfl := Text.beforeChars?_eq_some_iff.mp hmime
    refine ⟨?_, ?_⟩
    · rw [← String.toList_inj, Text.afterChars?_eq_some_iff.mp hrest]
      simp [String.toList_append, hmark]
    · rw [String.toList_ofList]
      exact fun hmem => hcomma (List.mem_append_left _ hmem)
  · rintro ⟨rfl, htype⟩
    have hurl : Text.afterChars? "data:".toList
        ("data:" ++ type ++ ";base64," ++ data).toList =
          some ((type.toList ++ ";base64".toList) ++ ',' :: data.toList) := by
      rw [Text.afterChars?_eq_some_iff]
      simp [String.toList_append, hmark]
    have hcomma : ',' ∉ type.toList ++ ";base64".toList := by
      simp [htype]
    have hmime : Text.beforeChars? ";base64".toList (type.toList ++ ";base64".toList) =
        some type.toList := Text.beforeChars?_eq_some_iff.mpr rfl
    rw [splitDataUrl?, hurl, Option.bind_eq_bind, Option.bind_some,
      Text.splitAtFirst?_of_not_mem hcomma, Option.bind_eq_bind, Option.bind_some]
    dsimp only
    rw [hmime, Option.bind_some, String.ofList_toList, String.ofList_toList]

theorem mimeOfUrl_eq (url : String) :
    mimeOfUrl url =
      ((imageTypes.find? fun entry => entry.1.toList.isSuffixOf (linkedPath url)).map
        Prod.snd).getD "image/jpeg" := by
  have hpath : (Text.lowerAscii (String.ofList (url.toList.takeWhile (· ≠ '?')))).toList =
      linkedPath url := by
    rw [Text.lowerAscii, String.toList_map, String.toList_ofList, linkedPath]
  have hnext : ∀ (entry : String × String) (entries : List (String × String)),
      (((entry :: entries).find? fun entry => entry.1.toList.isSuffixOf (linkedPath url)).map
          Prod.snd).getD "image/jpeg" =
        if entry.1.toList.isSuffixOf (linkedPath url) then entry.2
        else ((entries.find? fun entry => entry.1.toList.isSuffixOf (linkedPath url)).map
          Prod.snd).getD "image/jpeg" := by
    intro entry entries
    rw [List.find?_cons]
    cases entry.1.toList.isSuffixOf (linkedPath url) <;> rfl
  unfold mimeOfUrl Text.endsWith
  dsimp only
  rw [hpath, imageTypes, hnext, hnext, hnext, hnext]
  rfl

theorem eq_of_suffix_linkedPath {url : String} {entry entry' : String × String}
    (h : entry ∈ imageTypes) (h' : entry' ∈ imageTypes)
    (hending : entry.1.toList <:+ linkedPath url) (hending' : entry'.1.toList <:+ linkedPath url) :
    entry = entry' := by
  have hapart : ∀ e ∈ imageTypes, ∀ e' ∈ imageTypes, e.1.toList <:+ e'.1.toList → e = e' := by
    decide
  rcases List.suffix_or_suffix_of_suffix hending hending' with hsuffix | hsuffix
  · exact hapart _ h _ h' hsuffix
  · exact (hapart _ h' _ h hsuffix).symm

theorem linkType_iff {url type : String} : LinkType url type ↔ type = mimeOfUrl url := by
  rw [mimeOfUrl_eq]
  cases hfound : imageTypes.find? fun entry => entry.1.toList.isSuffixOf (linkedPath url) with
  | none =>
      have hother : ∀ entry ∈ imageTypes, ¬ entry.1.toList <:+ linkedPath url := by
        simpa using List.find?_eq_none.mp hfound
      constructor
      · rintro (⟨hentry, hending⟩ | -)
        · exact absurd hending (hother (_, _) hentry)
        · rfl
      · rintro rfl
        exact .other hother
  | some found =>
      have hfoundEnding : found.1.toList <:+ linkedPath url := by
        simpa using List.find?_some hfound
      have hmem := List.mem_of_find?_eq_some hfound
      constructor
      · rintro (⟨hentry, hending⟩ | hother)
        · exact congrArg Prod.snd (eq_of_suffix_linkedPath hentry hmem hending hfoundEnding)
        · exact absurd hfoundEnding (hother _ hmem)
      · rintro rfl
        exact .known hmem hfoundEnding

theorem imageAs_iff {url : String} {part : Part} : ImageAs url part ↔ part = partOfImage url := by
  unfold partOfImage
  rcases hsplit : splitDataUrl? url with _ | ⟨type, data⟩
  · have hurl : ∀ type data : String, ',' ∉ type.toList →
        url ≠ "data:" ++ type ++ ";base64," ++ data := fun type data htype heq =>
      nomatch hsplit.symm.trans (splitDataUrl?_eq_some_iff.mpr ⟨heq, htype⟩)
    constructor
    · rintro (⟨heq, htype⟩ | ⟨-, htype⟩)
      · exact absurd heq (hurl _ _ htype)
      · rw [linkType_iff.mp htype]
    · rintro rfl
      exact .link hurl (linkType_iff.mpr rfl)
  · obtain ⟨heq, htype⟩ := splitDataUrl?_eq_some_iff.mp hsplit
    constructor
    · rintro (⟨heq', htype'⟩ | ⟨hurl, -⟩)
      · cases hsplit.symm.trans (splitDataUrl?_eq_some_iff.mpr ⟨heq', htype'⟩)
        rfl
      · exact absurd heq (hurl _ _ htype)
    · rintro rfl
      exact .data heq htype

theorem sentAs_partOf? (p : ContentPart) : SentAs p (partOf? p) := by
  unfold partOf?
  split
  case h_1 hkind =>
      have himage : p.kind ≠ "image_url" := by rw [hkind]; decide
      cases htext : p.text with
      | none => exact .nothing (fun _ => by rw [htext]; rfl) (absurd · himage)
      | some t =>
          by_cases ht : t = ""
          · subst ht
            exact .nothing (fun _ => by rw [htext]; rfl) (absurd · himage)
          · simpa [ht, Part.ofText] using SentAs.text hkind htext ht
  case h_2 hkind =>
      have htext : p.kind ≠ "text" := by rw [hkind]; decide
      cases himage : p.imageUrl with
      | none => exact .nothing (absurd · htext) fun _ => himage
      | some i => exact .image hkind himage (imageAs_iff.mpr rfl)
  case h_3 htext himage => exact .nothing (absurd · htext) (absurd · himage)

theorem sentAs_iff {p : ContentPart} {sent : Option Part} : SentAs p sent ↔ sent = partOf? p := by
  refine ⟨fun h => ?_, fun h => h ▸ sentAs_partOf? p⟩
  cases h with
  | text hkind htext ht => simp [partOf?, hkind, htext, ht, Part.ofText]
  | image hkind himage hpart => simp [partOf?, hkind, himage, imageAs_iff.mp hpart]
  | nothing htext himage =>
      unfold partOf?
      split
      case h_1 hkind =>
          have htext := htext hkind
          cases h : p.text <;> simp_all
      case h_2 hkind => rw [himage hkind, Option.map_none]
      case h_3 => rfl

theorem arguments_iff {text : String} {arguments : Json} :
    Arguments text arguments ↔ arguments = (Json.readText? text).getD (.obj []) := by
  constructor
  · rintro (h | h) <;> simp [h]
  · rintro rfl
    cases hread : Json.readText? text with
    | none => exact .unreadable hread
    | some arguments => exact .read hread

theorem calledAs_iff {c : ToolCall} {p : Part} : CalledAs c p ↔ p = callPart c := by
  simp only [CalledAs, arguments_iff, exists_eq_left, callPart, Part.ofCall]

theorem forall₂_iff_map {α β : Type} {R : α → β → Prop} {f : α → β} (h : ∀ a b, R a b ↔ b = f a)
    (as : List α) (bs : List β) : List.Forall₂ R as bs ↔ bs = as.map f := by
  have hR : R = fun a b => f a = b := funext₂ fun a b => propext ((h a b).trans eq_comm)
  rw [hR, ← List.forall₂_map_left_iff (R := Eq), List.forall₂_eq_eq_eq, eq_comm]

theorem says_iff {m : Message} {parts : List Part} : Says m parts ↔ parts = messageParts m := by
  have hparts : ((pieces m).map partOf?).reduceOption = m.parts.filterMap partOf? := by
    rw [List.reduceOption, List.filterMap_map, parts_eq_pieces]
    rfl
  simp only [Says, forall₂_iff_map (@sentAs_iff), forall₂_iff_map (@calledAs_iff), messageParts]
  constructor
  · rintro ⟨said, called, rfl, rfl, rfl⟩
    rw [hparts]
  · rintro rfl
    exact ⟨_, _, rfl, rfl, by rw [hparts]⟩

theorem response_iff {text : String} {response : Json} :
    Response text response ↔ response = toolResponse text := by
  constructor
  · rintro (h | h)
    · rw [toolResponse, h]
    · rw [toolResponse]
      split
      case h_1 members hread => exact absurd hread (h members)
      case h_2 => rfl
  · rintro rfl
    unfold toolResponse
    split
    case h_1 members hread => exact .object hread
    case h_2 hread => exact .content hread

theorem ofRole_eq_system {role : String} :
    Speaker.ofRole role = .system ↔ role ∈ instructionRoles := by
  unfold Speaker.ofRole
  split <;> simp_all [instructionRoles]

theorem ofRole_eq_tool {role : String} : Speaker.ofRole role = .tool ↔ role ∈ answerRoles := by
  unfold Speaker.ofRole
  split <;> simp_all [answerRoles]

theorem ofRole_eq_model {role : String} : Speaker.ofRole role = .model ↔ role = "assistant" := by
  unfold Speaker.ofRole
  split <;> simp_all

theorem isSpeech_iff {m : Message} :
    IsSpeech m ↔ Speaker.ofRole m.role ≠ .system ∧ Speaker.ofRole m.role ≠ .tool := by
  rw [IsSpeech, ← ofRole_eq_system, ← ofRole_eq_tool]

theorem turns_append (names : CallNames) (before after : List Message) :
    turns names (before ++ after) = turns names before ++ turns (names.after before) after := by
  induction before generalizing names with
  | nil => rfl
  | cons m before ih =>
      rw [List.cons_append, turns, turns, CallNames.after]
      cases Speaker.ofRole m.role with
      | system => exact ih names
      | tool => exact congrArg (_ :: ·) (ih names)
      | model | user =>
          dsimp only
          rw [ih (names.add m)]
          split <;> rfl

theorem CallNames.after_eq (names : CallNames) (messages : List Message) :
    names.after messages = CallNames.after [] messages ++ names := by
  induction messages generalizing names with
  | nil => rfl
  | cons m messages ih =>
      rw [CallNames.after, CallNames.after]
      cases Speaker.ofRole m.role with
      | system | tool => exact ih names
      | model | user =>
          dsimp only
          rw [ih (names.add m), ih (CallNames.add [] m), List.append_assoc]
          simp [CallNames.add]

theorem after_eq_callsIn (names : CallNames) (before : List Message) :
    names.after before =
      (callsIn before).reverse.map (fun c => (c.id, c.function.name)) ++ names := by
  induction before generalizing names with
  | nil => rfl
  | cons m before ih =>
      rw [CallNames.after]
      cases hrole : Speaker.ofRole m.role with
      | system | tool =>
          have hspeech : ¬ IsSpeech m := by simp [isSpeech_iff, hrole]
          have hcalls : callsIn (m :: before) = callsIn before := by simp [callsIn, hspeech]
          rw [hcalls]
          exact ih names
      | model | user =>
          have hspeech : IsSpeech m := by simp [isSpeech_iff, hrole]
          have hcalls : callsIn (m :: before) = m.toolCalls.getD [] ++ callsIn before := by
            simp [callsIn, hspeech]
          dsimp only
          rw [ih, hcalls, List.reverse_append, List.map_append, List.append_assoc, CallNames.add]

theorem lookup_map_calls (calls : List ToolCall) (id : String) :
    (calls.map fun c => (c.id, c.function.name)).lookup id =
      (calls.find? (·.id = id)).map (·.function.name) := by
  induction calls with
  | nil => rfl
  | cons c calls ih =>
      rw [List.map_cons, List.lookup_cons, List.find?_cons, ih]
      by_cases h : c.id = id
      · simp [h]
      · have hne : (id == c.id) = false := beq_false_of_ne (Ne.symm h)
        simp [h, hne]

theorem lookup_after (before : List Message) (id : String) :
    (CallNames.after [] before).lookup id =
      ((callsIn before).reverse.find? (·.id = id)).map (·.function.name) := by
  rw [after_eq_callsIn, List.append_nil, lookup_map_calls]

theorem latest_iff {calls : List ToolCall} {id : String} {c : ToolCall} :
    Latest calls id c ↔ calls.reverse.find? (·.id = id) = some c := by
  rw [List.find?_eq_some_iff_append]
  constructor
  · rintro ⟨hid, earlier, later, rfl, hlater⟩
    exact ⟨by simpa using hid, later.reverse, earlier.reverse, by simp, by simpa using hlater⟩
  · rintro ⟨hid, later, earlier, hcalls, hlater⟩
    have hsplit : calls = earlier.reverse ++ c :: later.reverse := by
      simpa using congrArg List.reverse hcalls
    exact ⟨by simpa using hid, earlier.reverse, later.reverse, hsplit, by simpa using hlater⟩

theorem calledName_eq_none {before : List Message} {m : Message} :
    (m.toolCallId.bind fun id => (CallNames.after [] before).lookup id) = none ↔
      ∀ id ∈ m.toolCallId, ∀ c ∈ callsIn before, c.id ≠ id := by
  simp [Option.bind_eq_none_iff, lookup_after]

theorem answersFor_iff {before : List Message} {m : Message} {name : String} :
    AnswersFor (callsIn before) m name ↔
      name = ((m.toolCallId.bind fun id => (CallNames.after [] before).lookup id).or
        m.name).getD "" := by
  constructor
  · rintro (⟨hid, hc⟩ | ⟨hid, hname⟩ | ⟨hid, hname⟩)
    · simp [hid, lookup_after, latest_iff.mp hc]
    · simp [calledName_eq_none.mpr hid, hname]
    · simp [calledName_eq_none.mpr hid, hname]
  · rintro rfl
    cases hcalled : m.toolCallId.bind fun id => (CallNames.after [] before).lookup id with
    | none =>
        have hid := calledName_eq_none.mp hcalled
        cases hname : m.name with
        | none => exact .nameless hid hname
        | some name => exact .named hid hname
    | some called =>
        obtain ⟨id, hid, hlookup⟩ := Option.bind_eq_some_iff.mp hcalled
        rw [lookup_after] at hlookup
        obtain ⟨c, hc, rfl⟩ := Option.map_eq_some_iff.mp hlookup
        exact .called hid (latest_iff.mpr hc)

/-! ## Message after message -/

theorem turns_singleton (names : CallNames) (m : Message) :
    turns names [m] = (turn? names m).toList := by
  rw [turns, turn?]
  cases Speaker.ofRole m.role with
  | system | tool => rfl
  | model | user =>
      dsimp only [turns]
      split <;> rfl

theorem turn?_of_isSpeech {m : Message} (h : IsSpeech m) (names : CallNames) :
    turn? names m =
      if (messageParts m).isEmpty then none
      else some {
        role := some (if m.role = "assistant" then "model" else "user")
        parts := messageParts m } := by
  obtain ⟨hsystem, htool⟩ := isSpeech_iff.mp h
  have hmodel := @ofRole_eq_model m.role
  rw [turn?]
  cases hrole : Speaker.ofRole m.role with
  | system => exact absurd hrole hsystem
  | tool => exact absurd hrole htool
  | model => simp only [← hmodel, hrole, if_true]
  | user => simp [← hmodel, hrole]

theorem turnOf_iff {before : List Message} {m : Message} {turn : Option Content} :
    TurnOf before m turn ↔ turn = turn? (CallNames.after [] before) m := by
  constructor
  · rintro (hrole | ⟨hrole, hname, hresponse⟩ | ⟨hrole, hparts, hne⟩ | ⟨hrole, hparts⟩)
    · rw [turn?, ofRole_eq_system.mpr hrole]
    · rw [turn?, ofRole_eq_tool.mpr hrole, answersFor_iff.mp hname, response_iff.mp hresponse,
        ← text_eq_wording]
      rfl
    · obtain rfl := says_iff.mp hparts
      rw [turn?_of_isSpeech hrole]
      exact (if_neg (by simpa using hne)).symm
    · rw [turn?_of_isSpeech hrole, ← says_iff.mp hparts]
      rfl
  · rintro rfl
    cases hrole : Speaker.ofRole m.role with
    | system =>
        rw [turn?, hrole]
        exact .instruction (ofRole_eq_system.mp hrole)
    | tool =>
        rw [turn?, hrole]
        exact .answer (ofRole_eq_tool.mp hrole) (answersFor_iff.mpr rfl)
          (response_iff.mpr (text_eq_wording m ▸ rfl))
    | model | user =>
        have hspeech : IsSpeech m := by simp [isSpeech_iff, hrole]
        rw [turn?_of_isSpeech hspeech]
        by_cases hparts : messageParts m = []
        · rw [if_pos (by simp [hparts])]
          exact .silence hspeech (says_iff.mpr hparts.symm)
        · rw [if_neg (by simpa using hparts)]
          exact .speech hspeech (says_iff.mpr rfl) hparts

/-- The turns of a conversation are those that it becomes. -/
theorem becomes_iff {messages : List Message} {contents : List Content} :
    Becomes messages contents ↔ contents = turns [] messages := by
  constructor
  · intro h
    induction h with
    | nothing => rfl
    | message _ hturn ih => rw [turns_append, turns_singleton, ih, turnOf_iff.mp hturn]
  · rintro rfl
    induction messages using List.reverseRecOn with
    | nil => exact .nothing
    | append_singleton before m ih =>
        rw [turns_append, turns_singleton]
        exact .message ih (turnOf_iff.mpr rfl)

theorem systemTexts_eq (messages : List Message) :
    systemTexts messages = instructionTexts messages := by
  have hsystem : ∀ m : Message, (Speaker.ofRole m.role = .system) = (m.role ∈ instructionRoles) :=
    fun m => propext ofRole_eq_system
  simp only [systemTexts, instructionTexts, hsystem, text_eq_wording]
  induction messages.filter (·.role ∈ instructionRoles) with
  | nil => rfl
  | cons m rest ih =>
      rw [List.filterMap_cons, List.map_cons, List.filter_cons, ← ih]
      by_cases htext : wording m = "" <;> simp [htext]

theorem systemInstruction?_eq (messages : List Message) :
    systemInstruction? messages =
      if instructionTexts messages = [] then none
      else some { parts := [{ text := some ("\n".intercalate (instructionTexts messages)) }] } := by
  rw [systemInstruction?, systemTexts_eq]
  cases instructionTexts messages <;> rfl

theorem chatBody_error_iff {r : ChatRequest} {model : String} {s : GeminiSettings} :
    (∃ e, chatBody r model s = .error e) ↔ r.messages = [] ∨ turns [] r.messages = [] := by
  unfold chatBody
  by_cases hmessages : r.messages = []
  · simp [hmessages]
  · by_cases hturns : turns [] r.messages = [] <;> simp [hmessages, hturns]

theorem kind_of_chatBody {r : ChatRequest} {model : String} {s : GeminiSettings}
    {e : RelayFailure} (h : chatBody r model s = .error e) : e.kind = .invalidInput := by
  unfold chatBody at h
  split at h
  · cases h
    rfl
  · dsimp only at h
    split at h
    · cases h
      rfl
    · cases h

theorem chatBody_holds {r : ChatRequest} {model : String} {s : GeminiSettings} {body : ChatBody}
    (h : chatBody r model s = .ok body) : Holds body r.messages := by
  obtain rfl := eq_of_chatBody_eq_ok h
  exact ⟨becomes_iff.mpr rfl, systemInstruction?_eq r.messages⟩

/-- The body for a conversation has the texts of its instructions and one turn for every other
message with something to say, in their order.  A conversation without a turn is refused. -/
theorem convert_holds (s : GeminiSettings) (call : Call) (r : ChatRequest) :
    ((∃ e, convert s call (.chat r) = .error e) ↔ r.messages = [] ∨ Becomes r.messages []) ∧
    (∀ e, convert s call (.chat r) = .error e → e.kind = .invalidInput) ∧
    ∀ sent, convert s call (.chat r) = .ok sent →
      ∃ body : ChatBody, chatBody r call.providerModel s = .ok body ∧
        sent = (body.json.sorted, call) ∧ Holds body r.messages := by
  rw [becomes_iff, eq_comm (a := []), ← @chatBody_error_iff r call.providerModel s]
  simp only [convert]
  cases hbody : chatBody r call.providerModel s with
  | error e =>
      refine ⟨by simp [Except.map], ?_, by simp [Except.map]⟩
      rintro _ ⟨⟩
      exact kind_of_chatBody hbody
  | ok body =>
      refine ⟨by simp [Except.map], by simp [Except.map], ?_⟩
      rintro _ ⟨⟩
      exact ⟨body, rfl, rfl, chatBody_holds hbody⟩

theorem convert_holds_pictures :
    let brief : Message := { role := "system", content := some (.text "Be brief.") }
    let french : Message := { role := "developer", content := some (.parts [
      { kind := "text", text := some "Speak" }, { kind := "text", text := some "French" }]) }
    let asked : Message := { role := "user", content := some (.parts [
      { kind := "text", text := some "What is this?" },
      { kind := "image_url", imageUrl := some { url := "data:image/gif;base64,R0lG" } },
      { kind := "image_url", imageUrl := some { url := "https://pictures.test/A.WEBP?v=2" } }]) }
    let called : Message := { role := "assistant", toolCalls := some [
      { id := "c1", function := ⟨"look", "\x7b\"at\":\"sky\"\x7d"⟩ }] }
    let answered : Message :=
      { role := "tool", content := some (.text "blue"), toolCallId := some "c1" }
    let silent : Message := { role := "user", content := some (.text "") }
    let call : Call := {
      channelId := 1, provider := .gemini, wire := .gemini, requestedModel := "gemini-2.5-flash"
      providerModel := "gemini-2.5-flash", isStream := false, mode := .chat, baseUrl := ""
      apiKey := "k", group := "default", promptTokens := 2, includeUsage := false
      cacheWriteTokens := 0, timeoutMs := 5000 }
    let chat (messages : List Message) : ChatRequest := { model := "gemini-2.5-flash", messages }
    let messages := [brief, asked, called, answered, silent, french]
    let turn (role : String) (parts : List Json) : Json :=
      .obj [("parts", .arr parts), ("role", .str role)]
    (∃ body : ChatBody, convert {} call (.chat (chat messages)) = .ok (body.json.sorted, call) ∧
      Holds body messages ∧
      body.systemInstruction = some { parts := [{ text := some "Be brief.\nSpeak\nFrench" }] } ∧
      body.contents = [
        { role := some "user", parts := [{ text := some "What is this?" },
          { inlineData := some ⟨"image/gif", "R0lG"⟩ },
          { fileData := some ⟨"image/webp", "https://pictures.test/A.WEBP?v=2"⟩ }] },
        { role := some "model", parts := [
          { functionCall := some ⟨"look", .obj [("at", .str "sky")]⟩ }] },
        { role := some "user", parts := [
          { functionResponse := some ⟨"look", .obj [("content", .str "blue")]⟩ }] }] ∧
      body.json.sorted = .obj [
        ("contents", .arr [
          turn "user" [.obj [("text", .str "What is this?")],
            .obj [("inlineData", .obj [("data", .str "R0lG"), ("mimeType", .str "image/gif")])],
            .obj [("fileData", .obj [("fileUri", .str "https://pictures.test/A.WEBP?v=2"),
              ("mimeType", .str "image/webp")])]],
          turn "model" [.obj [("functionCall", .obj [
            ("args", .obj [("at", .str "sky")]), ("name", .str "look")])]],
          turn "user" [.obj [("functionResponse", .obj [
            ("name", .str "look"), ("response", .obj [("content", .str "blue")])])]]]),
        ("generationConfig", .obj []),
        ("systemInstruction", .obj [
          ("parts", .arr [.obj [("text", .str "Be brief.\nSpeak\nFrench")]])])]) ∧
      ∃ e, convert {} call (.chat (chat [brief, french])) = .error e ∧ e.kind = .invalidInput := by
  intro brief french asked called answered silent call chat messages turn
  refine ⟨?_, ?_⟩
  · obtain ⟨sent, hsent⟩ : ∃ sent, convert {} call (.chat (chat messages)) = .ok sent := ⟨_, rfl⟩
    obtain ⟨body, hbody, rfl, hholds⟩ := (convert_holds {} call (chat messages)).2.2 sent hsent
    refine ⟨body, hsent, hholds, ?_, ?_, ?_⟩
    · rw [eq_of_chatBody_eq_ok hbody]
      decide +kernel
    · rw [eq_of_chatBody_eq_ok hbody]
      decide +kernel
    · rw [eq_of_chatBody_eq_ok hbody]
      decide +kernel
  · obtain ⟨hfails, hinvalid, -⟩ := convert_holds {} call (chat [brief, french])
    obtain ⟨e, he⟩ := hfails.mpr (.inr (becomes_iff.mpr (by decide +kernel)))
    exact ⟨e, he, hinvalid e he⟩

end ModelGateway.Wire.Gemini
