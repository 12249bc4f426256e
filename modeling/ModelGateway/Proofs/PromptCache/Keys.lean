import ModelGateway.PromptCache.Session
import ModelGateway.Proofs.Json.Quotes
import ModelGateway.Proofs.Json.Texts
import ModelGateway.Proofs.Text.Search
import ModelGateway.Proofs.Text.Utf8
import ModelGateway.Wire.Gemini.Caching

/-!
# Keys of prompts

A key determines the digest and, with keys for each channel, the channel; the digested text
determines the model and the prompt.  Only the digest itself may collide.
-/

namespace ModelGateway

namespace Digest

theorem hex_inj {bs bs' : Bytes} (h : hex bs = hex bs') : bs = bs' := by
  have hdigit : ∀ m < 16, ∀ n < 16, Json.hexDigit m = Json.hexDigit n → m = n := by decide
  replace h := congrArg String.toList h
  simp only [hex, String.toList_ofList] at h
  induction bs generalizing bs' with
  | nil =>
      cases bs' with
      | nil => rfl
      | cons b bs' => cases h
  | cons b bs ih =>
      cases bs' with
      | nil => cases h
      | cons b' bs' =>
          rw [List.flatMap_cons, List.flatMap_cons] at h
          obtain ⟨hfirst, hrest⟩ := List.cons.inj h
          obtain ⟨hsecond, hrest⟩ := List.cons.inj hrest
          have hb := b.toNat_lt
          have hb' := b'.toNat_lt
          have hhigh := hdigit _ (by omega) _ (by omega) hfirst
          have hlow := hdigit _ (by omega) _ (by omega) hsecond
          have heq : b = b' := UInt8.toNat_inj.mp (by omega)
          rw [heq, ih hrest]

end Digest

namespace PromptCache

def IsFingerprint (text : String) : Prop := ∃ j : Json, text = j.text

theorem scan?_fingerprint {text : String} (h : IsFingerprint text) :
    Json.scan? .outside text.toList = some .outside := by
  obtain ⟨j, rfl⟩ := h
  rw [Json.text, String.toList_ofList]
  exact Json.scan?_write j

theorem digestInput_eq (model : String) (p : Preamble) :
    digestInput model p = Utf8.octets (model.toList ++ '|' :: p.fingerprint.toList) := by
  rw [digestInput, Utf8.encode_eq_octets, Utf8.encode_eq_octets, Utf8.octets_append,
    Utf8.octets_cons]
  rfl

theorem isFingerprint_preamble (shared : Wire.Gemini.Shared) :
    IsFingerprint shared.preamble.fingerprint :=
  ⟨shared.fingerprint, rfl⟩

theorem digestInput_inj {model model' : String} {p p' : Preamble}
    (hp : IsFingerprint p.fingerprint) (hp' : IsFingerprint p'.fingerprint)
    (h : digestInput model p = digestInput model' p') :
    model = model' ∧ p.fingerprint = p'.fingerprint := by
  rw [digestInput_eq, digestInput_eq, ← Utf8.encode_ofList, ← Utf8.encode_ofList] at h
  have hlist := congrArg String.toList (Utf8.encode_inj h)
  rw [String.toList_ofList, String.toList_ofList] at hlist
  obtain ⟨hmodel, hfingerprint⟩ :=
    Json.append_bar_inj (scan?_fingerprint hp) (scan?_fingerprint hp') hlist
  exact ⟨String.toList_inj.mp hmodel, String.toList_inj.mp hfingerprint⟩

theorem ofInt_colon_inj {n n' : Int} {rest rest' : List Char}
    (h : (Text.ofInt n).toList ++ ':' :: rest = (Text.ofInt n').toList ++ ':' :: rest') :
    n = n' ∧ rest = rest' := by
  have hcolon (m : Int) : ':' ∉ (Text.ofInt m).toList :=
    Json.not_mem_ofInt (by decide) (by decide) m
  have hsplit := congrArg (Text.splitAtFirst? [':']) h
  rw [Text.splitAtFirst?_of_not_mem (hcolon n), Text.splitAtFirst?_of_not_mem (hcolon n')] at hsplit
  obtain ⟨hnumber, hrest⟩ := Prod.mk.inj (Option.some.inj hsplit)
  exact ⟨Json.ofInt_inj hnumber, hrest⟩

theorem storeKey_eq_iff {s : PromptCacheSettings} {channel channel' : Int} {d d' : String} :
    storeKey s channel d = storeKey s channel' d' ↔
      d = d' ∧ (s.perChannel = true → channel = channel') := by
  rw [← String.toList_inj, storeKey, storeKey]
  cases s.perChannel with
  | false => simp [String.toList_inj]
  | true =>
      have hkey (n : Int) (text : String) :
          (s.keySpace ++ ":" ++ Text.ofInt n ++ ":" ++ text).toList =
            (s.keySpace ++ ":").toList ++ ((Text.ofInt n).toList ++ ':' :: text.toList) := by
        simp
      rw [if_pos rfl, if_pos rfl, hkey, hkey, List.append_cancel_left_eq]
      constructor
      · intro h
        obtain ⟨hchannel, hdigest⟩ := ofInt_colon_inj h
        exact ⟨String.toList_inj.mp hdigest, fun _ => hchannel⟩
      · rintro ⟨rfl, hchannel⟩
        rw [hchannel rfl]

/-- The digests of the two queries do not collide. -/
def Query.Apart (q q' : Query) : Prop :=
  Digest.sha256 (digestInput q.model q.preamble) =
      Digest.sha256 (digestInput q'.model q'.preamble) →
    digestInput q.model q.preamble = digestInput q'.model q'.preamble

/-- Where digests do not collide, queries under one key are about the same prompt of a model. -/
theorem Query.same_of_key {s : PromptCacheSettings} {q q' : Query}
    (hq : IsFingerprint q.preamble.fingerprint) (hq' : IsFingerprint q'.preamble.fingerprint)
    (hapart : q.Apart q') (h : q.key s = q'.key s) :
    q.model = q'.model ∧ q.preamble.fingerprint = q'.preamble.fingerprint :=
  digestInput_inj hq hq' (hapart (Digest.hex_inj (storeKey_eq_iff.mp h).1))

/-- The digested text determines the model and the fingerprint, and a key the digest and, with keys
for each channel, the channel. -/
theorem keys_tell :
    (∀ (model model' : String) (p p' : Preamble), IsFingerprint p.fingerprint →
      IsFingerprint p'.fingerprint →
      (digestInput model p = digestInput model' p' ↔
        model = model' ∧ p.fingerprint = p'.fingerprint)) ∧
    (∀ (s : PromptCacheSettings) (channel channel' : Int) (d d' : String),
      storeKey s channel d = storeKey s channel' d' ↔
        d = d' ∧ (s.perChannel = true → channel = channel')) ∧
    ∀ (s : PromptCacheSettings) (q q' : Query), IsFingerprint q.preamble.fingerprint →
      IsFingerprint q'.preamble.fingerprint → q.Apart q' →
      (q.key s = q'.key s ↔
        q.model = q'.model ∧ q.preamble.fingerprint = q'.preamble.fingerprint ∧
          (s.perChannel = true → q.channel = q'.channel)) := by
  refine ⟨fun model model' p p' hp hp' => ⟨digestInput_inj hp hp', ?_⟩,
    fun s channel channel' d d' => storeKey_eq_iff, fun s q q' hq hq' hapart => ⟨fun h => ?_, ?_⟩⟩
  · rintro ⟨rfl, hfingerprint⟩
    rw [digestInput, digestInput, hfingerprint]
  · obtain ⟨hmodel, hfingerprint⟩ := Query.same_of_key hq hq' hapart h
    exact ⟨hmodel, hfingerprint, (storeKey_eq_iff.mp h).2⟩
  · rintro ⟨hmodel, hfingerprint, hchannel⟩
    refine storeKey_eq_iff.mpr ⟨?_, hchannel⟩
    rw [Query.digest, Query.digest, PromptCache.digest, PromptCache.digest, digestInput,
      digestInput, hmodel, hfingerprint]

theorem keys_tell_two_channels :
    digestInput "a|b" ⟨"[]", 0⟩ ≠ digestInput "a" ⟨"\"b|[]\"", 0⟩ ∧
    storeKey { keySpace := "k:1" } 1 "2" ≠ storeKey { keySpace := "k:1" } 1 "1:2" ∧
    Query.key { perChannel := true } ⟨1, "a|b", ⟨"[]", 0⟩⟩ ≠
      Query.key { perChannel := true } ⟨2, "a|b", ⟨"[]", 0⟩⟩ := by
  obtain ⟨hinput, hstored, hkey⟩ := keys_tell
  have hlist : IsFingerprint "[]" := ⟨.arr [], by decide⟩
  have htext : IsFingerprint "\"b|[]\"" := ⟨.str "b|[]", by decide⟩
  refine ⟨fun h => ?_, fun h => ?_, fun h => ?_⟩
  · exact absurd ((hinput "a|b" "a" ⟨"[]", 0⟩ ⟨"\"b|[]\"", 0⟩ hlist htext).mp h).1 (by decide)
  · exact absurd ((hstored _ _ _ _ _).mp h).1 (by decide)
  · have hchannel := ((hkey _ ⟨1, "a|b", ⟨"[]", 0⟩⟩ ⟨2, "a|b", ⟨"[]", 0⟩⟩ hlist hlist
      fun _ => rfl).mp h).2.2
    exact absurd (hchannel rfl) (by decide)

end PromptCache

end ModelGateway
