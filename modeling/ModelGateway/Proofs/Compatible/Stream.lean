import ModelGateway.Proofs.Json.RoundTrip
import ModelGateway.Proofs.Sse.Framing
import ModelGateway.Proofs.Usage
import ModelGateway.Wire.Compatible

/-!
# Streams of the compatible wire

The client is sent the trimmed data of the provider's events up to the end of the stream, without
chunks that only report usage unless the client asked for them.  The usage is the last one reported,
or else an estimate from the text of all chunks together.
-/

namespace ModelGateway

/-- The sum of the counts that a response reports; it is taken even beside a reported total. -/
def Usage.reportedSum (response : Json) : Nat :=
  match response.get? "usage" with
  | none => 0
  | some u =>
    ((Usage.count? "prompt_tokens" u).getD 0).toNat +
      ((Usage.count? "completion_tokens" u).getD 0).toNat

theorem Usage.exists_ofResponse? {response : Json}
    (h : Usage.reportedSum response < UInt32.size) :
    ∃ usage?, Usage.ofResponse? response = .ok usage? := by
  unfold Usage.reportedSum at h
  unfold Usage.ofResponse?
  split
  · exact ⟨none, rfl⟩
  · next u hu =>
    rw [hu] at h
    dsimp only
    split
    · exact ⟨none, rfl⟩
    · rw [Usage.add?_of_lt h]
      exact ⟨_, rfl⟩

namespace Wire.Compatible

/-- The trimmed data of the events up to the end of the stream, without blank ones. -/
def dataOf (events : List Sse.Event) : List String :=
  ((events.map fun e => Text.trim e.data).filter fun data => !data.isEmpty).takeWhile
    (· ≠ "[DONE]")

def reported? (data : String) : Option Usage :=
  (Json.readText? data).bind fun chunk =>
    match Usage.ofResponse? chunk with
    | .ok usage? => usage?
    | .error _ => none

def hasChoices (chunk : Json) : Bool :=
  match chunk.get? "choices" with
  | some (.arr (_ :: _)) => true
  | _ => false

/-- Data with usage and without choices. -/
def isUsageOnly (data : String) : Bool :=
  (reported? data).isSome && !(Json.readText? data).any hasChoices

/-- The first item of an array of choices, or the member `0` of an object. -/
def firstChoice? (chunk : Json) : Option Json :=
  match chunk.get? "choices" with
  | some (.arr (first :: _)) => some first
  | some (.obj choices) => choices.lookup "0"
  | _ => none

def addedText (chunk : Json) : String :=
  match ((firstChoice? chunk).bind (·.get? "delta")).bind (·.get? "content") with
  | some (.str text) => text
  | _ => ""

def deltaText (data : String) : String :=
  (Json.readText? data).elim "" addedText

def CountsFit (data : String) : Prop :=
  ∀ chunk ∈ Json.readText? data, Usage.reportedSum chunk < UInt32.size

instance : DecidablePred CountsFit := fun data =>
  inferInstanceAs (Decidable (∀ chunk ∈ Json.readText? data, _ < UInt32.size))

def lastReported? (events : List Sse.Event) : Option Usage :=
  ((dataOf events).filterMap reported?).getLast?

def textOf (events : List Sse.Event) : String :=
  String.join ((dataOf events).map deltaText)

theorem dataOf_cons (e : Sse.Event) (events : List Sse.Event) :
    dataOf (e :: events) =
      if (Text.trim e.data).isEmpty then dataOf events
      else if Text.trim e.data = "[DONE]" then []
      else Text.trim e.data :: dataOf events := by
  unfold dataOf
  rw [List.map_cons, List.filter_cons]
  split
  · next h =>
    rw [if_neg (by simpa using h), List.takeWhile_cons]
    split
    · next hne => rw [if_neg (by simpa using hne)]
    · next heq => rw [if_pos (by simpa using heq)]
  · next h => rw [if_pos (by simpa using h)]

theorem dataOf_obj (members : List (String × Json)) (events : List Sse.Event) :
    dataOf (.ofData (Json.obj members).text :: events) =
      (Json.obj members).text :: dataOf events := by
  obtain ⟨htrim, hne⟩ := Text.nonBlank?_eq_some_iff.mp (Json.nonBlank?_text_obj members)
  rw [dataOf_cons, Sse.Event.ofData, htrim, if_neg (mt String.isEmpty_iff.mp hne),
    if_neg (Sse.text_obj_ne_done members)]

theorem child?_eq_get? {segment : String} (h : Json.indexOf? segment = none) (j : Json) :
    j.child? segment = j.get? segment := by
  cases j with
  | arr items => rw [Json.child?, h]; rfl
  | null | bool _ | num _ | str _ | obj _ => rfl

theorem getD_firstChoiceText? (chunk : Json) :
    (firstChoiceText? "delta" chunk).getD "" = addedText chunk := by
  have hfirst : (chunk.get? "choices").bind (Json.child? "0") = firstChoice? chunk := by
    unfold firstChoice?
    rcases chunk.get? "choices" with _ | (_ | _ | _ | _ | (_ | ⟨first, rest⟩) | _) <;> rfl
  have hpath : chunk.at? ["choices", "0", "delta", "content"] =
      ((firstChoice? chunk).bind (·.get? "delta")).bind (·.get? "content") := by
    have hchoices : Json.indexOf? "choices" = none := by decide
    have hdelta : Json.indexOf? "delta" = none := by decide
    have hcontent : Json.indexOf? "content" = none := by decide
    simp only [Json.at?, List.foldlM_cons, List.foldlM_nil, Option.bind_eq_bind, Option.pure_def,
      Option.bind_fun_some, child?_eq_get? hchoices, child?_eq_get? hdelta,
      child?_eq_get? hcontent, ← hfirst, Option.bind_assoc]
  rw [firstChoiceText?, hpath, addedText]
  rcases ((firstChoice? chunk).bind (·.get? "delta")).bind (·.get? "content") with
    _ | (_ | _ | _ | _ | _ | _) <;> rfl

theorem hasNoChoices_eq (chunk : Json) : hasNoChoices chunk = !hasChoices chunk := by
  unfold hasNoChoices hasChoices
  rcases chunk.get? "choices" with _ | (_ | _ | _ | _ | (_ | ⟨first, rest⟩) | _) <;> rfl

theorem observe_of_countsFit (call : Call) (s : StreamState) {data : String} (h : CountsFit data) :
    observe call s data =
      .ok (⟨(reported? data).or s.usage, s.text ++ deltaText data⟩,
        call.includeUsage || !isUsageOnly data) := by
  unfold observe reported? isUsageOnly deltaText
  cases hread : Json.readText? data with
  | none => simp [reported?, hread]
  | some chunk =>
      obtain ⟨usage?, husage⟩ := Usage.exists_ofResponse? (h chunk hread)
      cases usage? with
      | none => simp [reported?, hread, husage, bind, Except.bind, getD_firstChoiceText?]
      | some usage =>
          simp [reported?, hread, husage, bind, Except.bind, getD_firstChoiceText?,
            hasNoChoices_eq, Bool.or_comm]

/-! ## Streams -/

theorem forward_of_countsFit (call : Call) (s : StreamState) (events : List Sse.Event)
    (h : ∀ data ∈ dataOf events, CountsFit data) :
    forward call s events =
      (((dataOf events).filter fun data => call.includeUsage || !isUsageOnly data).map Write.data,
        .ok ⟨(lastReported? events).or s.usage, s.text ++ textOf events⟩) := by
  induction events generalizing s with
  | nil =>
      rw [forward]
      simp [dataOf, lastReported?, textOf]
  | cons e events ih =>
      have hcons := dataOf_cons e events
      rw [forward]
      dsimp only
      by_cases hblank : (Text.trim e.data).isEmpty
      · rw [if_pos hblank] at hcons ⊢
        rw [hcons] at h
        rw [ih s h, lastReported?, textOf, lastReported?, textOf, hcons]
      rw [if_neg hblank] at hcons ⊢
      by_cases hdone : Text.trim e.data = "[DONE]"
      · rw [if_pos hdone] at hcons ⊢
        simp [hcons, lastReported?, textOf]
      rw [if_neg hdone] at hcons ⊢
      rw [hcons] at h
      rw [observe_of_countsFit call s (h _ List.mem_cons_self)]
      dsimp only
      rw [ih _ fun data hdata => h data (List.mem_cons_of_mem _ hdata)]
      have hlast : lastReported? (e :: events) =
          (lastReported? events).or (reported? (Text.trim e.data)) := by
        rw [lastReported?, hcons, List.filterMap_cons]
        cases reported? (Text.trim e.data) with
        | none => rw [Option.or_none]; rfl
        | some usage =>
            rw [List.getLast?_cons, lastReported?]
            cases ((dataOf events).filterMap reported?).getLast? <;> rfl
      have htext : textOf (e :: events) = deltaText (Text.trim e.data) ++ textOf events := by
        rw [textOf, hcons, List.map_cons, String.join_cons]
        rfl
      rw [hlast, htext, hcons, List.filter_cons, Option.or_assoc, String.append_assoc]
      split <;> rfl

theorem done_not_mem_dataOf (events : List Sse.Event) : "[DONE]" ∉ dataOf events := by
  intro h
  simpa using List.all_eq_true.mp List.all_takeWhile _ h

theorem framed_of_mem_dataOf {octets : Bytes} {events : List Sse.Event}
    (hread : Sse.read octets = .ok events) {data : String} (h : data ∈ dataOf events) :
    Sse.Framed data := by
  obtain ⟨hmem, hne⟩ := List.mem_filter.mp ((List.takeWhile_prefix _).subset h)
  obtain ⟨e, he, rfl⟩ := List.mem_map.mp hmem
  exact Sse.framed_trim (Sse.not_return_of_read hread he) (by simpa using hne)

/-- The usage of a stream is the last one reported, else an estimate from all its text. -/
theorem outcome_handleStream (call : Call) (body : Body) {events : List Sse.Event}
    (hread : Sse.read body.octets = .ok events)
    (hcounts : ∀ data ∈ dataOf events, CountsFit data) :
    (handleStream call body).outcome =
      (lastReported? events).elim
        (Usage.ofCounts call.promptTokens (Tokens.count [textOf events])) .ok := by
  rw [handleStream, hread]
  dsimp only
  rw [forward_of_countsFit call {} events hcounts]
  dsimp only
  rw [Option.or_none, String.empty_append]
  cases lastReported? events <;> rfl

theorem writes_handleStream (call : Call) (body : Body) {events : List Sse.Event}
    (hread : Sse.read body.octets = .ok events)
    (hcounts : ∀ data ∈ dataOf events, CountsFit data) :
    (handleStream call body).writes =
      Write.startEvents ::
        (((dataOf events).filter fun data => call.includeUsage || !isUsageOnly data) ++
          ["[DONE]"]).map Write.data := by
  rw [handleStream, hread]
  dsimp only
  rw [forward_of_countsFit call {} events hcounts, List.map_append]
  rfl

/-- The writes and the outcome of a stream. -/
structure PassesThrough (call : Call) (events : List Sse.Event) (handled : Handled) : Prop where
  read_back : Sse.read (Buffer.ofWrites handled.writes).body =
    .ok (((dataOf events).filter fun data => call.includeUsage || !isUsageOnly data).map .ofData ++
      [.done])
  done_once : "[DONE]" ∉ dataOf events
  usage : ∃ usage, handled.outcome = .ok usage ∧
    (∀ last, lastReported? events = some last → usage = last) ∧
    (lastReported? events = none → Usage.IsEstimate call.promptTokens (textOf events) usage)
  same_usage : ∀ (other : Call) (body : Body) (events' : List Sse.Event),
    Sse.read body.octets = .ok events' → (∀ data ∈ dataOf events', CountsFit data) →
    other.promptTokens = call.promptTokens → lastReported? events' = lastReported? events →
    textOf events' = textOf events → (handleStream other body).outcome = handled.outcome

/-- Whatever the events of a stream are and wherever it breaks off, the client is sent their data,
and the usage is the last one reported or an estimate. -/
theorem handleStream_passesThrough (call : Call) (body : Body) {events : List Sse.Event}
    (hread : Sse.read body.octets = .ok events)
    (hcounts : ∀ data ∈ dataOf events, CountsFit data)
    (hestimate : lastReported? events = none →
      call.promptTokens.toNat + (Text.words (textOf events)).length < UInt32.size) :
    PassesThrough call events (handleStream call body) where
  read_back := by
    have hframed : ∀ data ∈ ((dataOf events).filter fun data =>
        call.includeUsage || !isUsageOnly data) ++ ["[DONE]"], Sse.Framed data := by
      intro data hdata
      rcases List.mem_append.mp hdata with hheard | hdone
      · exact framed_of_mem_dataOf hread (List.mem_filter.mp hheard).1
      · exact List.mem_singleton.mp hdone ▸ Sse.framed_done
    rw [writes_handleStream call body hread hcounts, Buffer.body_ofWrites_stream,
      Sse.read_framing hframed, List.map_append]
    rfl
  done_once := done_not_mem_dataOf events
  usage := by
    rw [outcome_handleStream call body hread hcounts]
    cases hlast : lastReported? events with
    | some last => exact ⟨last, rfl, fun _ h => Option.some.inj h, nofun⟩
    | none =>
        obtain ⟨usage, hcounted, hwords⟩ := Usage.exists_ofCounts (hestimate hlast)
        exact ⟨usage, hcounted, nofun, fun _ => hwords⟩
  same_usage := by
    intro other body' events' hread' hcounts' hprompt hlast htext
    rw [outcome_handleStream other body' hread' hcounts',
      outcome_handleStream call body hread hcounts, hprompt, hlast, htext]

/-- A chunk whose first choice adds a text. -/
def saying (text : String) : Json :=
  .obj [("choices", .arr [.obj [("delta", .obj [("content", .str text)])]])]

def reporting : Json :=
  .obj [("choices", .arr []),
    ("usage", .obj [("prompt_tokens", .nat 3), ("completion_tokens", .nat 1),
      ("prompt_tokens_details", .obj [("cached_tokens", .nat 2)]),
      ("completion_tokens_details", .obj [("reasoning_tokens", .nat 1)])])]

theorem readText?_saying (text : String) : Json.readText? (saying text).text = some (saying text) :=
  Json.readText?_text (by
    simp [saying, Json.Readable, Json.ReadableItems, Json.ReadableMembers, Json.maxLevel])

theorem readText?_reporting : Json.readText? reporting.text = reporting.document.value? :=
  Json.readText?_text (by
    simp [reporting, Json.Readable, Json.ReadableItems, Json.ReadableMembers, Json.maxLevel,
      Json.nat, Json.IsWhole, Number.minInt64, UInt64.size])

theorem handleStream_passesThrough_broken :
    let datas := ["two\nlines", " ", (saying "Hi the").text, (saying "re").text]
    let events := (datas ++ [reporting.text]).map Sse.Event.ofData
    let body : Body := ⟨Sse.framing (datas ++ [reporting.text]) ++ Utf8.encode "data: cut", true⟩
    let unreported := datas.map Sse.Event.ofData
    let unreportedBody : Body := ⟨Sse.framing datas ++ Utf8.encode "data: cut", true⟩
    let call : Call := {
      channelId := 1, provider := .openai, wire := .openai, requestedModel := "gpt-4o"
      providerModel := "gpt-4o", isStream := true, mode := .chat, baseUrl := "", apiKey := "k"
      group := "default", promptTokens := 2, includeUsage := false, cacheWriteTokens := 0
      timeoutMs := 5000 }
    (PassesThrough call events (handleStream call body) ∧
      (handleStream call body).outcome = .ok ⟨3, 1, 4, some 2, some 1⟩ ∧
      Sse.read (Buffer.ofWrites (handleStream call body).writes).body =
        .ok ([.ofData "two\nlines", .ofData (saying "Hi the").text, .ofData (saying "re").text] ++
          [.done])) ∧
      PassesThrough call unreported (handleStream call unreportedBody) ∧
      textOf unreported = "Hi there" ∧
      (handleStream call unreportedBody).outcome = .ok ⟨2, 2, 4, none, none⟩ := by
  intro datas events body unreported unreportedBody call
  have hframed : ∀ data ∈ datas, Sse.Framed data :=
    List.forall_mem_cons.mpr ⟨by decide, List.forall_mem_cons.mpr ⟨by decide,
      List.forall_mem_cons.mpr ⟨Sse.framed_obj _,
        List.forall_mem_singleton.mpr (Sse.framed_obj _)⟩⟩⟩
  have hread : Sse.read body.octets = .ok events :=
    Sse.read_framing_append (List.forall_mem_append.mpr
      ⟨hframed, List.forall_mem_singleton.mpr (Sse.framed_obj _)⟩) (by decide)
  have hreadUnreported : Sse.read unreportedBody.octets = .ok unreported :=
    Sse.read_framing_append hframed (by decide)
  have hline : Json.readText? "two\nlines" = none := by decide +kernel
  have hlines (events : List Sse.Event) : dataOf (.ofData "two\nlines" :: .ofData " " :: events) =
      "two\nlines" :: dataOf events := by
    rw [dataOf_cons, dataOf_cons]
    rfl
  have hdata : dataOf unreported = ["two\nlines", (saying "Hi the").text, (saying "re").text] :=
    (hlines _).trans (congrArg _ ((dataOf_obj _ _).trans (congrArg _ (dataOf_obj _ _))))
  have hdataTail : dataOf events =
      ["two\nlines", (saying "Hi the").text, (saying "re").text, reporting.text] :=
    (hlines _).trans (congrArg _ ((dataOf_obj _ _).trans (congrArg _
      ((dataOf_obj _ _).trans (congrArg _ (dataOf_obj _ _))))))
  have hlast : lastReported? events = some ⟨3, 1, 4, some 2, some 1⟩ := by
    simp only [lastReported?, hdataTail, List.filterMap_cons, List.filterMap_nil, reported?, hline,
      readText?_saying, readText?_reporting]
    rfl
  have hnone : lastReported? unreported = none := by
    simp only [lastReported?, hdata, List.filterMap_cons, List.filterMap_nil, reported?, hline,
      readText?_saying]
    rfl
  have htext : textOf unreported = "Hi there" := by
    simp only [textOf, hdata, List.map_cons, List.map_nil, deltaText, hline, readText?_saying]
    rfl
  have hheard : (dataOf events).filter (fun data => call.includeUsage || !isUsageOnly data) =
      ["two\nlines", (saying "Hi the").text, (saying "re").text] := by
    simp only [hdataTail, List.filter_cons, List.filter_nil, isUsageOnly, reported?, hline,
      readText?_saying, readText?_reporting]
    rfl
  have hcounts : ∀ data ∈ dataOf events, CountsFit data := by
    simp only [hdataTail, List.forall_mem_cons, CountsFit, hline, readText?_saying,
      readText?_reporting]
    decide +kernel
  have hcountsUnreported : ∀ data ∈ dataOf unreported, CountsFit data := by
    simp only [hdata, List.forall_mem_cons, CountsFit, hline, readText?_saying]
    decide +kernel
  have hpasses := handleStream_passesThrough call body hread hcounts
    fun hnone => absurd (hlast.symm.trans hnone) nofun
  have hpassesUnreported := handleStream_passesThrough call unreportedBody hreadUnreported
    hcountsUnreported fun _ => by rw [htext]; decide
  refine ⟨⟨hpasses, ?_, ?_⟩, hpassesUnreported, htext, ?_⟩
  · obtain ⟨usage, houtcome, hreported, -⟩ := hpasses.usage
    rw [houtcome, hreported _ hlast]
  · rw [hpasses.read_back, hheard]
    rfl
  · obtain ⟨usage, houtcome, -, hestimated⟩ := hpassesUnreported.usage
    have hestimate : Usage.IsEstimate 2 "Hi there" ⟨2, 2, 4, none, none⟩ :=
      ⟨rfl, by decide, by decide, rfl, rfl⟩
    have hsaid := hestimated hnone
    rw [htext] at hsaid
    rw [houtcome, hsaid.unique hestimate]

end Wire.Compatible

end ModelGateway
