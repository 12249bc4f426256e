import ModelGateway.Proofs.Sse.Framing
import ModelGateway.Wire.Gemini.Handlers

/-!
# Events that are passed on

An event that is passed on is written with one data line for every line of its data.  A line feed at
the end of the data begins no line, so it is lost, and nothing else is.
-/

namespace ModelGateway

namespace Text

theorem linesOfPieces_append_nil {pieces : List (List Char)}
    (hreturn : ∀ piece ∈ pieces, '\r' ∉ piece) : linesOfPieces (pieces ++ [[]]) = pieces := by
  induction pieces with
  | nil => rfl
  | cons piece pieces ih =>
      have hrest := ih fun p hp => hreturn p (List.mem_cons_of_mem _ hp)
      have hmore : pieces ++ [[]] ≠ [] := by simp
      rw [List.cons_append, linesOfPieces, hrest,
        dropReturn_of_not_mem (hreturn piece List.mem_cons_self)]
      exact hmore

theorem linesChars_append_feed {cs : List Char} (hreturn : '\r' ∉ cs) :
    linesChars (cs ++ ['\n']) = splitChars '\n' cs := by
  rw [linesChars, splitChars_append, splitChars, linesOfPieces_append_nil]
  intro piece hpiece hmem
  exact hreturn (mem_of_mem_splitChars hpiece hmem).1

end Text

namespace Sse

/-- The data of an event that a native stream passes on. -/
structure Forwardable (data : String) : Prop where
  no_return : '\r' ∉ data.toList
  not_blank : Text.isBlankText data = false

instance : DecidablePred Forwardable := fun data =>
  decidable_of_iff ('\r' ∉ data.toList ∧ Text.isBlankText data = false)
    ⟨fun h => ⟨h.1, h.2⟩, fun h => ⟨h.no_return, h.not_blank⟩⟩

def EndsInFeed (data : String) : Prop := data.toList.getLast? = some '\n'

instance : DecidablePred EndsInFeed := fun data =>
  inferInstanceAs (Decidable (data.toList.getLast? = some '\n'))

/-- The data without a line feed that ends it. -/
def shorn (data : String) : String :=
  if EndsInFeed data then String.ofList data.toList.dropLast else data

variable {data : String} {datas : List String}

theorem eq_append_of_endsInFeed (h : EndsInFeed data) :
    data.toList = data.toList.dropLast ++ ['\n'] := by
  obtain ⟨cs, hcs⟩ := List.getLast?_eq_some_iff.mp h
  simp [hcs]

theorem toList_shorn (h : EndsInFeed data) : (shorn data).toList = data.toList.dropLast := by
  simp [shorn, h]

theorem shorn_eq_self_iff : shorn data = data ↔ ¬ EndsInFeed data := by
  constructor
  · intro hself hfeed
    have hlength := congrArg List.length (eq_append_of_endsInFeed hfeed)
    rw [← toList_shorn hfeed, hself] at hlength
    simp at hlength
  · intro hfeed
    simp [shorn, hfeed]

theorem endsInFeed_append (data : String) : EndsInFeed (data ++ "\n") := by
  simp [EndsInFeed]

theorem shorn_append (data : String) : shorn (data ++ "\n") = data := by
  rw [← String.toList_inj, toList_shorn (endsInFeed_append data)]
  simp

theorem Forwardable.append (h : Forwardable data) : Forwardable (data ++ "\n") where
  no_return := by simpa using h.no_return
  not_blank := by
    have hdata := h.not_blank
    simp only [Text.isBlankText, String.toList_append, List.all_append] at hdata ⊢
    simp [hdata]

theorem Forwardable.readAs (h : Forwardable data) : ReadAs data (shorn data) := by
  by_cases hfeed : EndsInFeed data
  · have hreturn : '\r' ∉ (shorn data).toList := by
      rw [toList_shorn hfeed]
      exact fun hmem => h.no_return ((List.dropLast_sublist _).subset hmem)
    refine ⟨?_, hreturn⟩
    rw [eq_append_of_endsInFeed hfeed, ← toList_shorn hfeed, Text.linesChars_append_feed hreturn]
  · have hne : data.toList ≠ [] := by
      intro hnil
      have hblank := h.not_blank
      simp [Text.isBlankText, hnil] at hblank
    rw [shorn_eq_self_iff.mpr hfeed]
    exact Framed.readAs ⟨hne, h.no_return, hfeed⟩

/-- Events whose data have no carriage return are read back after they are written anew, each
without a line feed at its end; so they are unchanged exactly if no data ends with a line feed. -/
theorem read_forwarded_iff (h : ∀ data ∈ datas, Forwardable data) :
    (∃ octets, read octets = .ok (datas.map .ofData)) ∧
    read (framing datas) = .ok (datas.map fun data => .ofData (shorn data)) ∧
    (read (framing datas) = .ok (datas.map .ofData) ↔ ∀ data ∈ datas, ¬ EndsInFeed data) := by
  have hread := read_framing_exactly fun data hdata => (h data hdata).readAs
  refine ⟨⟨framing (datas.map (· ++ "\n")), ?_⟩, hread, ?_⟩
  · have hfed : ∀ data ∈ datas.map (· ++ "\n"), ReadAs data (shorn data) := by
      intro _ hmem
      obtain ⟨data, hdata, rfl⟩ := List.mem_map.mp hmem
      exact (h data hdata).append.readAs
    rw [read_framing_exactly hfed, List.map_map]
    simp [Function.comp_def, shorn_append]
  · rw [hread, Except.ok.injEq, List.map_inj_left]
    refine forall₂_congr fun data _ => ?_
    rw [← shorn_eq_self_iff]
    simp [Event.ofData]

theorem read_forwarded_iff_three :
    let datas := ["\x7b\x7d", " one\n\ntwo\n\n", "\nthree"]
    (∀ data ∈ datas, Forwardable data) ∧
      read (framing datas) = .ok (["\x7b\x7d", " one\n\ntwo\n", "\nthree"].map .ofData) ∧
      read (framing datas) ≠ .ok (datas.map .ofData) := by
  intro datas
  have hdatas : ∀ data ∈ datas, Forwardable data := by decide +kernel
  obtain ⟨-, hread, hsame⟩ := read_forwarded_iff hdatas
  have hshorn : datas.map shorn = ["\x7b\x7d", " one\n\ntwo\n", "\nthree"] := by decide +kernel
  refine ⟨hdatas, ?_, fun h => ?_⟩
  · rw [hread, ← hshorn, List.map_map]
    rfl
  · exact hsame.mp h " one\n\ntwo\n\n" (by decide) (by decide +kernel)

/-- An empty data line at the end of an event is lost in a native stream. -/
theorem last_feed_lost :
    Forwardable "a\n" ∧ read (Utf8.encode "data: a\ndata:\n\n") = .ok [.ofData "a\n"] ∧
      (Wire.Gemini.forwardNative none [.ofData "a\n"]).1 = [Write.data "a\n"] ∧
      read (framing ["a\n"]) = .ok [.ofData "a"] := by
  decide +kernel

end Sse

end ModelGateway
