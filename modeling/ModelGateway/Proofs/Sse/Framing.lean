import ModelGateway.Proofs.Json.Figures
import ModelGateway.Proofs.Text.Pieces
import ModelGateway.Proofs.Text.Utf8
import ModelGateway.Sink
import ModelGateway.Sse.Reader
import ModelGateway.Text.Blank

/-!
# Events that are read back

Events that were written are read back with the same data, line by line, if the data is not empty,
has no carriage return and does not end with a line feed.  Data that was read from events and
trimmed is such data, unless it is empty.
-/

namespace ModelGateway

namespace Utf8

theorem prefixFrom_of_decodeFrom? {pending : Option Pending} {bs : Bytes} {cs : List Char}
    (h : decodeFrom? pending bs = some cs) : prefixFrom pending bs = cs := by
  induction bs generalizing pending cs with
  | nil =>
      cases pending with
      | none => exact Option.some.inj h
      | some p => cases h
  | cons b bs ih =>
      cases pending with
      | none =>
          rw [decodeFrom?] at h
          rw [prefixFrom]
          split at h
          · obtain ⟨rest, hrest, rfl⟩ := Option.map_eq_some_iff.mp h
            rw [ih hrest]
          · exact ih h
          · cases h
      | some p =>
          rw [decodeFrom?] at h
          rw [prefixFrom]
          split at h
          · obtain ⟨rest, hrest, rfl⟩ := Option.map_eq_some_iff.mp h
            rw [ih hrest]
          · exact ih h
          · cases h

theorem decodePrefix_octets (cs : List Char) : decodePrefix (octets cs) = cs :=
  prefixFrom_of_decodeFrom? (decodeFrom?_octets cs)

end Utf8

namespace Sse

structure Framed (data : String) : Prop where
  ne_nil : data.toList ≠ []
  no_return : '\r' ∉ data.toList
  no_feed_last : data.toList.getLast? ≠ some '\n'

instance : DecidablePred Framed := fun data =>
  decidable_of_iff
    (data.toList ≠ [] ∧ '\r' ∉ data.toList ∧ data.toList.getLast? ≠ some '\n')
    ⟨fun h => ⟨h.1, h.2.1, h.2.2⟩, fun h => ⟨h.ne_nil, h.no_return, h.no_feed_last⟩⟩

variable {data : String}

theorem framed_done : Framed "[DONE]" := by decide

theorem framed_obj (members : List (String × Json)) : Framed (Json.obj members).text := by
  have htext : (Json.obj members).text.toList = (Json.obj members).write := String.toList_ofList
  have hprinted : ∀ c ∈ (Json.obj members).text.toList, Json.IsPrinted c :=
    htext ▸ Json.isPrinted_write _
  refine ⟨?_, fun h => absurd (hprinted _ h) (by decide), fun h => ?_⟩
  · rw [htext, Json.write]
    exact List.cons_ne_nil _ _
  · exact absurd (hprinted _ (List.mem_of_getLast? h)) (by decide)

theorem text_obj_ne_done (members : List (String × Json)) : (Json.obj members).text ≠ "[DONE]" := by
  intro h
  have htext : (Json.obj members).text.toList = (Json.obj members).write := String.toList_ofList
  rw [h, Json.write] at htext
  exact absurd (List.cons.inj htext).1 (by decide)

theorem Framed.lines (h : Framed data) :
    Text.linesChars data.toList = Text.splitChars '\n' data.toList := by
  refine Text.linesOfPieces_eq ?_ ?_
  · intro piece hpiece hreturn
    exact h.no_return (Text.mem_of_mem_splitChars hpiece hreturn).1
  · intro hlast
    rcases Text.getLast?_splitChars hlast with hnil | hfeed
    · exact h.ne_nil hnil
    · exact h.no_feed_last hfeed

def written (line : List Char) : List Char := 'd' :: 'a' :: 't' :: 'a' :: ':' :: ' ' :: line

theorem toList_write (data : String) :
    (Event.ofData data).write.toList =
      (Text.linesChars data.toList).flatMap (written · ++ ['\n']) ++ ['\n'] := by
  have hline : ∀ line : List Char,
      (Event.dataLine (String.ofList line)).toList = written line ++ ['\n'] := by
    intro line
    simp only [Event.dataLine, String.toList_append, String.toList_ofList]
    rfl
  simp only [Event.write, Event.ofData, Event.typeLine, String.toList_append, String.toList_join,
    Text.lines, List.map_map, List.flatMap_map, Function.comp_apply, hline]
  rfl

theorem endedLines_cons {c : Char} (hfeed : c ≠ '\n') (hreturn : c ≠ '\r') (line rest : List Char) :
    endedLines line (c :: rest) = endedLines (c :: line) rest := by
  rw [endedLines]
  · exact fun h => hfeed h
  · exact fun h _ => hreturn h
  · exact fun _ h _ => hreturn h
  · exact fun _ _ h _ => hreturn h

theorem endedLines_line {cs : List Char} (hfeed : '\n' ∉ cs) (hreturn : '\r' ∉ cs)
    (line rest : List Char) :
    endedLines line (cs ++ '\n' :: rest) = (line.reverse ++ cs) :: endedLines [] rest := by
  induction cs generalizing line with
  | nil => rw [List.nil_append, endedLines, List.append_nil]
  | cons c cs ih =>
      rw [List.mem_cons, not_or] at hfeed hreturn
      rw [List.cons_append, endedLines_cons (Ne.symm hfeed.1) (Ne.symm hreturn.1),
        ih hfeed.2 hreturn.2, List.reverse_cons, List.append_assoc, List.singleton_append]

theorem endedLines_lines {lines : List (List Char)} (hfeed : ∀ line ∈ lines, '\n' ∉ line)
    (hreturn : ∀ line ∈ lines, '\r' ∉ line) (rest : List Char) :
    endedLines [] (lines.flatMap (· ++ ['\n']) ++ rest) = lines ++ endedLines [] rest := by
  induction lines with
  | nil => rfl
  | cons line lines ih =>
      rw [List.flatMap_cons, List.append_assoc, List.append_assoc, List.singleton_append,
        endedLines_line (hfeed line List.mem_cons_self) (hreturn line List.mem_cons_self),
        ih (fun l hl => hfeed l (List.mem_cons_of_mem _ hl))
          (fun l hl => hreturn l (List.mem_cons_of_mem _ hl))]
      rfl

theorem eventsFrom_data (event : List Char) (acc : List Char) (values : List (List Char))
    (more : List Line) :
    eventsFrom ⟨event, acc⟩ (values.map (.field ['d', 'a', 't', 'a']) ++ more) =
      eventsFrom ⟨event, acc ++ values.flatMap (· ++ ['\n'])⟩ more := by
  induction values generalizing acc with
  | nil => rw [List.map_nil, List.nil_append, List.flatMap_nil, List.append_nil]
  | cons value values ih =>
      rw [List.map_cons, List.cons_append, eventsFrom, List.flatMap_cons, ← List.append_assoc,
        ← List.append_assoc]
      exact ih _

/-- What is written of the data has the lines of `kept`. -/
structure ReadAs (data kept : String) : Prop where
  lines : Text.linesChars data.toList = Text.splitChars '\n' kept.toList
  no_return : '\r' ∉ kept.toList

theorem Framed.readAs (h : Framed data) : ReadAs data data := ⟨h.lines, h.no_return⟩

theorem eventsOf_write {kept : String} (h : ReadAs data kept) (rest : List Char) :
    eventsOf ((Event.ofData data).write.toList ++ rest) = .ofData kept :: eventsOf rest := by
  have hmem : ∀ {line c}, line ∈ Text.splitChars '\n' kept.toList → c ∈ written line →
      c ∉ ['\n', '\r'] := by
    intro line c hline hc
    have hwritten : ∀ c ∈ ['d', 'a', 't', 'a', ':', ' '], c ∉ ['\n', '\r'] :=
      Json.forall_mem_of_all rfl
    rw [show written line = ['d', 'a', 't', 'a', ':', ' '] ++ line from rfl] at hc
    rcases List.mem_append.mp hc with hname | hrest
    · exact hwritten c hname
    · obtain ⟨hkept, hfeed⟩ := Text.mem_of_mem_splitChars hline hrest
      rintro hbreak
      simp only [List.mem_cons, List.not_mem_nil, or_false] at hbreak
      rcases hbreak with rfl | rfl
      · exact hfeed rfl
      · exact h.no_return hkept
  have hlines : endedLines [] ((Event.ofData data).write.toList ++ rest) =
      (Text.splitChars '\n' kept.toList).map written ++ [] :: endedLines [] rest := by
    rw [toList_write, h.lines, List.append_assoc, ← List.flatMap_map written (· ++ ['\n']),
      endedLines_lines]
    · rfl
    · intro line hline hbreak
      obtain ⟨piece, hpiece, rfl⟩ := List.mem_map.mp hline
      exact hmem hpiece hbreak (by decide)
    · intro line hline hbreak
      obtain ⟨piece, hpiece, rfl⟩ := List.mem_map.mp hline
      exact hmem hpiece hbreak (by decide)
  have hfields : ((Text.splitChars '\n' kept.toList).map written).map Line.of =
      (Text.splitChars '\n' kept.toList).map (.field ['d', 'a', 't', 'a']) := by
    rw [List.map_map]
    rfl
  rw [eventsOf, hlines, List.map_append, hfields, Draft.empty, eventsFrom_data, List.nil_append,
    Text.flatMap_splitChars, List.map_cons]
  have hevent : Draft.event? ⟨[], kept.toList ++ ['\n']⟩ = some (.ofData kept) := by
    simp [Draft.event?, Event.ofData]
  rw [show Line.of [] = .blank from rfl, eventsFrom, hevent]
  rfl

def framing (datas : List String) : Bytes :=
  datas.flatMap fun data => Utf8.encode (Event.ofData data).write

theorem eventsOf_framing {datas : List String} {kept : String → String}
    (h : ∀ data ∈ datas, ReadAs data (kept data)) (rest : List Char) :
    eventsOf ((datas.flatMap fun data => (Event.ofData data).write.toList) ++ rest) =
      datas.map (fun data => .ofData (kept data)) ++ eventsOf rest := by
  induction datas with
  | nil => rfl
  | cons data datas ih =>
      rw [List.flatMap_cons, List.append_assoc, eventsOf_write (h data List.mem_cons_self),
        ih fun d hd => h d (List.mem_cons_of_mem _ hd), List.map_cons, List.cons_append]

theorem framing_eq (datas : List String) :
    framing datas = Utf8.octets (datas.flatMap fun data => (Event.ofData data).write.toList) := by
  induction datas with
  | nil => rfl
  | cons data datas ih =>
      rw [List.flatMap_cons, Utf8.octets_append, ← ih, ← Utf8.encode_eq_octets]
      rfl

theorem read_eq_ok {octets : Bytes} {events : List Event}
    (hmark : (Utf8.decodePrefix octets).head? ≠ some byteOrderMark)
    (hevents : eventsOf (Utf8.decodePrefix octets) = events) : read octets = .ok events := by
  rw [read, if_neg hmark, hevents]

/-- Events that were written are read before those of a text that follows. -/
theorem read_framing_as {datas : List String} {kept : String → String}
    (h : ∀ data ∈ datas, ReadAs data (kept data)) {rest : String}
    (hrest : rest.toList.head? ≠ some byteOrderMark) :
    read (framing datas ++ Utf8.encode rest) =
      .ok (datas.map (fun data => .ofData (kept data)) ++ eventsOf rest.toList) := by
  have hmark : ((datas.flatMap fun data => (Event.ofData data).write.toList) ++
      rest.toList).head? ≠ some byteOrderMark := by
    cases datas with
    | nil => exact hrest
    | cons data datas =>
        have hdata := h data List.mem_cons_self
        obtain ⟨line, lines, hlines⟩ := Text.exists_splitChars_eq_cons '\n' (kept data).toList
        rw [List.flatMap_cons, toList_write, hdata.lines, hlines, List.flatMap_cons, written]
        simp [byteOrderMark]
  rw [framing_eq, Utf8.encode_eq_octets, ← Utf8.octets_append]
  refine read_eq_ok ?_ ?_
  · rwa [Utf8.decodePrefix_octets]
  · rw [Utf8.decodePrefix_octets, eventsOf_framing h]

theorem read_framing_append {datas : List String} (h : ∀ data ∈ datas, Framed data) {rest : String}
    (hrest : rest.toList.head? ≠ some byteOrderMark) :
    read (framing datas ++ Utf8.encode rest) =
      .ok (datas.map .ofData ++ eventsOf rest.toList) :=
  read_framing_as (fun data hdata => (h data hdata).readAs) hrest

theorem read_framing_exactly {datas : List String} {kept : String → String}
    (h : ∀ data ∈ datas, ReadAs data (kept data)) :
    read (framing datas) = .ok (datas.map fun data => .ofData (kept data)) := by
  have hread := read_framing_as h (show "".toList.head? ≠ some byteOrderMark by decide)
  rwa [Utf8.encode_eq_octets, show Utf8.octets "".toList = [] from rfl, List.append_nil,
    show eventsOf "".toList = [] from rfl, List.append_nil] at hread

theorem read_framing {datas : List String} (h : ∀ data ∈ datas, Framed data) :
    read (framing datas) = .ok (datas.map .ofData) :=
  read_framing_exactly fun data hdata => (h data hdata).readAs

/-! ## What is read can be framed -/

theorem not_return_of_mem_endedLines {line cs found : List Char} (hline : '\r' ∉ line)
    (h : found ∈ endedLines line cs) : '\r' ∉ found := by
  induction line, cs using endedLines.induct with
  | case1 line => cases h
  | case2 line rest ih =>
      rw [endedLines] at h
      rcases List.mem_cons.mp h with rfl | hrest
      · simpa using hline
      · exact ih (List.not_mem_nil) hrest
  | case3 line => cases h
  | case4 line rest ih =>
      rw [endedLines] at h
      rcases List.mem_cons.mp h with rfl | hrest
      · simpa using hline
      · exact ih (List.not_mem_nil) hrest
  | case5 line c rest hc ih =>
      rw [endedLines] at h
      · rcases List.mem_cons.mp h with rfl | hrest
        · simpa using hline
        · exact ih (List.not_mem_nil) hrest
      · exact hc
  | case6 line c rest hfeed hlast hboth hreturn ih =>
      rw [endedLines] at h
      · refine ih ?_ h
        rw [List.mem_cons, not_or]
        refine ⟨?_, hline⟩
        rintro rfl
        cases rest with
        | nil => exact hlast rfl rfl
        | cons d rest => exact hreturn d rest rfl rfl
      all_goals assumption

theorem not_return_of_mem_eventsFrom {draft : Draft} {lines : List Line} {e : Event}
    (hdraft : '\r' ∉ draft.data)
    (hlines : ∀ name value, Line.field name value ∈ lines → '\r' ∉ value)
    (h : e ∈ eventsFrom draft lines) : '\r' ∉ e.data.toList := by
  induction lines generalizing draft with
  | nil => cases h
  | cons line lines ih =>
      have hlater : ∀ name value, Line.field name value ∈ lines → '\r' ∉ value :=
        fun name value hmem => hlines name value (List.mem_cons_of_mem _ hmem)
      cases line with
      | comment => exact ih hdraft hlater h
      | field name value =>
          have hvalue := hlines name value List.mem_cons_self
          refine ih ?_ hlater h
          unfold Draft.add
          split
          · simp [hdraft, hvalue]
          · split <;> exact hdraft
      | blank =>
          rw [eventsFrom] at h
          split at h
          · next found hfound =>
            rcases List.mem_cons.mp h with rfl | hrest
            · unfold Draft.event? at hfound
              split at hfound
              · cases hfound
              · cases hfound
                rw [String.toList_ofList]
                exact fun hmem => hdraft ((List.dropLast_sublist _).subset hmem)
            · exact ih List.not_mem_nil hlater hrest
          · exact ih List.not_mem_nil hlater h

theorem not_return_of_read {octets : Bytes} {events : List Event} (h : read octets = .ok events)
    {e : Event} (he : e ∈ events) : '\r' ∉ e.data.toList := by
  unfold read at h
  dsimp only at h
  split at h
  · cases h
  · cases h
    refine not_return_of_mem_eventsFrom List.not_mem_nil ?_ he
    intro name value hmem
    obtain ⟨cs, hcs, hof⟩ := List.mem_map.mp hmem
    have hreturn := not_return_of_mem_endedLines List.not_mem_nil hcs
    unfold Line.of at hof
    split at hof
    · cases hof
    · cases hof
    · cases hof
      intro hvalue
      have hdrop : '\r' ∈ (cs.dropWhile (· ≠ ':')).drop 1 := by
        revert hvalue
        unfold dropSpace
        split
        · next heq => rw [heq]; exact List.mem_cons_of_mem _
        · exact id
      exact hreturn ((List.dropWhile_sublist _).subset (List.mem_of_mem_drop hdrop))

end Sse

namespace Text

theorem mem_of_mem_trim {c : Char} {s : String} (h : c ∈ (trim s).toList) : c ∈ s.toList := by
  rw [trim, String.toList_ofList, trimChars, dropEnd, List.mem_reverse] at h
  have hleft := List.mem_reverse.mp ((List.dropWhile_sublist _).subset h)
  exact (List.dropWhile_sublist _).subset hleft

theorem not_blank_of_getLast?_trim {c : Char} {s : String} (h : (trim s).toList.getLast? = some c) :
    isBlank c = false := by
  rw [trim, String.toList_ofList, trimChars, dropEnd, List.getLast?_reverse] at h
  have hnot := List.head?_dropWhile_not isBlank (trimLeft s.toList).reverse
  rw [h] at hnot
  simpa using hnot

end Text

theorem Buffer.body_writeAll_data (b : Buffer) (datas : List String) :
    (b.writeAll (datas.map Write.data)).body = b.body ++ Sse.framing datas := by
  induction datas generalizing b with
  | nil => exact (List.append_nil _).symm
  | cons data datas ih =>
      have hcons : Sse.framing (data :: datas) =
          Utf8.encode (Sse.Event.ofData data).write ++ Sse.framing datas := rfl
      rw [hcons, ← List.append_assoc]
      exact ih (b.write (Write.data data))

theorem Buffer.body_ofWrites_stream (datas : List String) :
    (Buffer.ofWrites (Write.startEvents :: datas.map Write.data)).body = Sse.framing datas :=
  Buffer.body_writeAll_data (Buffer.empty.write Write.startEvents) datas

theorem Sse.framed_trim {data : String} (hreturn : '\r' ∉ data.toList)
    (hne : (Text.trim data).isEmpty = false) : Framed (Text.trim data) where
  ne_nil := by simpa using hne
  no_return h := hreturn (Text.mem_of_mem_trim h)
  no_feed_last h := absurd (Text.not_blank_of_getLast?_trim h) (by decide)

end ModelGateway
