import ModelGateway.PromptCache.Store
import ModelGateway.Proofs.Json.RoundTrip

/-!
# Envelopes that are read back

What is stored for a channel's handle is read back as that handle with that owner, unless the handle
is empty.
-/

namespace ModelGateway

namespace PromptCache.Envelope

open Json (readDocument?_text)

def IsChannelId (channel : Int) : Prop :=
  Number.minInt64 ≤ channel ∧ channel ≤ Number.maxInt64

variable {handle : String} {channel : Int}

def members (handle : String) (channel : Int) : List (String × Json) :=
  [("cache_name", .str handle), ("channel_id", .int channel)]

theorem write_eq (handle : String) (channel : Int) :
    write handle channel = (Json.obj (members handle channel)).text := rfl

theorem readDocument?_write (h : IsChannelId channel) :
    Json.readDocument? (Utf8.encode (write handle channel)) =
      some (.obj [(some "cache_name", .str handle), (some "channel_id", .num (.int channel))]) := by
  have hwhole : Json.IsWhole channel := by
    obtain ⟨hlow, hhigh⟩ := h
    refine ⟨hlow, ?_⟩
    simp only [Number.maxInt64, UInt64.size] at hhigh ⊢
    omega
  have hreadable : Json.Readable 0 (.obj (members handle channel)) :=
    ⟨by decide, trivial, hwhole, trivial⟩
  rw [write_eq, readDocument?_text hreadable]
  rfl

theorem decoder_members (h : IsChannelId channel) :
    decoder .json
        (.obj [(some "cache_name", .str handle), (some "channel_id", .num (.int channel))]) =
      .ok ⟨handle, some channel⟩ := by
  have hname : Json.RecordReader.membersAt "cache_name"
      [(some "cache_name", .str handle), (some "channel_id", .num (.int channel))] =
        [(0, .str handle)] := by
    simp [Json.RecordReader.membersAt]
  have hchannel : Json.RecordReader.membersAt "channel_id"
      [(some "cache_name", .str handle), (some "channel_id", .num (.int channel))] =
        [(1, .num (.int channel))] := by
    simp [Json.RecordReader.membersAt]
  have hint : Json.Decoder.int64 .json (.num (.int channel)) = .ok channel := if_pos h
  simp only [decoder, Json.RecordReader.decoder, Functor.map, Seq.seq, Json.RecordReader.required,
    Json.RecordReader.fieldWith, hname, hchannel, hint, Json.Decoder.string]
  rfl

theorem nonBlank?_write (handle : String) (channel : Int) :
    Text.nonBlank? (write handle channel) = some (write handle channel) :=
  Json.nonBlank?_text_obj (members handle channel)

theorem read?_write_eq (h : IsChannelId channel) :
    read? (write handle channel) = if handle.isEmpty then none else some ⟨handle, some channel⟩ := by
  have hbrace : (write handle channel).toList.head? = some '\x7b' := by
    rw [write_eq, Json.text, String.toList_ofList]
    rfl
  rw [read?, nonBlank?_write]
  simp only [hbrace, if_true, readDocument?_write h, Option.bind_some, decoder_members h]
  rfl

theorem read?_write (h : IsChannelId channel) (hhandle : handle ≠ "") :
    read? (write handle channel) = some ⟨handle, some channel⟩ := by
  rw [read?_write_eq h, if_neg (by simpa using hhandle)]

theorem eq_of_read?_write (h : IsChannelId channel) {e : Envelope}
    (hread : read? (write handle channel) = some e) : e = ⟨handle, some channel⟩ := by
  rw [read?_write_eq h] at hread
  split at hread
  · cases hread
  · exact (Option.some.inj hread).symm

end PromptCache.Envelope

end ModelGateway
