import Mathlib.Data.List.Nodup
import Mathlib.Data.Option.Basic
import ModelGateway.Proofs.Chat.Client

/-!
# Merging calls

Calls that are numbered from zero stay so when more of them are merged in, so merging `m` calls with
`n` more leaves `max m n` of them: all calls are kept only if there were none before.
-/

namespace ModelGateway.Client

def indices (calls : List HeardCall) : List (Option Nat) :=
  calls.map HeardCall.index

theorem mergeCall_of_new {calls : List HeardCall} {delta : HeardCall}
    (h : delta.index ∉ indices calls) : mergeCall calls delta = calls ++ [delta] := by
  induction calls with
  | nil => rfl
  | cons call calls ih =>
      rw [indices, List.map_cons, List.mem_cons, not_or] at h
      rw [mergeCall, if_neg (Ne.symm h.1), ih h.2, List.cons_append]

theorem indices_mergeCall_of_mem {calls : List HeardCall} {delta : HeardCall}
    (h : delta.index ∈ indices calls) : indices (mergeCall calls delta) = indices calls := by
  induction calls with
  | nil => cases h
  | cons call calls ih =>
      rw [mergeCall]
      split
      · rfl
      · next hne =>
        refine congrArg (call.index :: ·) (ih ?_)
        exact (List.mem_cons.mp h).resolve_left (Ne.symm hne)

theorem anonymous_mergeCall (calls : List HeardCall) (delta : HeardCall) :
    (mergeCall calls delta).map HeardCall.anonymous =
      mergeCall (calls.map HeardCall.anonymous) delta.anonymous := by
  induction calls with
  | nil => rfl
  | cons call calls ih =>
      rw [mergeCall, List.map_cons, mergeCall]
      by_cases h : call.index = delta.index
      · rw [if_pos h, if_pos (show call.anonymous.index = delta.anonymous.index from h)]
        rfl
      · rw [if_neg h, if_neg (show call.anonymous.index ≠ delta.anonymous.index from h), ← ih]
        rfl

theorem foldl_mergeCall_of_nodup {calls deltas : List HeardCall}
    (h : (indices (calls ++ deltas)).Nodup) : deltas.foldl mergeCall calls = calls ++ deltas := by
  induction deltas generalizing calls with
  | nil => exact (List.append_nil calls).symm
  | cons delta deltas ih =>
      have hnew : delta.index ∉ indices calls := by
        rw [indices, List.map_append] at h
        exact fun hmem => List.disjoint_of_nodup_append h hmem List.mem_cons_self
      rw [List.append_cons] at h
      rw [List.foldl_cons, mergeCall_of_new hnew, ih h, ← List.append_cons]

def NumberedFrom (first : Nat) (calls : List HeardCall) : Prop :=
  indices calls = (List.range' first calls.length).map some

theorem NumberedFrom.nodup {first : Nat} {calls : List HeardCall} (h : NumberedFrom first calls) :
    (indices calls).Nodup := by
  rw [h]
  exact (List.nodup_range' 1).map (Option.some_injective Nat)

theorem NumberedFrom.mem_indices {calls : List HeardCall} (h : NumberedFrom 0 calls) {i : Nat} :
    some i ∈ indices calls ↔ i < calls.length := by
  rw [h]
  simp

theorem NumberedFrom.mergeCall {calls : List HeardCall} (h : NumberedFrom 0 calls)
    {delta : HeardCall} {i : Nat} (hindex : delta.index = some i) (hi : i ≤ calls.length) :
    NumberedFrom 0 (mergeCall calls delta) ∧
      (mergeCall calls delta).length = max calls.length (i + 1) := by
  rcases Nat.lt_or_eq_of_le hi with hold | hnew
  · have hsame := indices_mergeCall_of_mem (hindex ▸ h.mem_indices.mpr hold)
    have hlength : (Client.mergeCall calls delta).length = calls.length := by
      simpa [indices] using congrArg List.length hsame
    refine ⟨?_, by omega⟩
    rw [NumberedFrom, hsame, hlength]
    exact h
  · have hnot : delta.index ∉ indices calls := by
      rw [hindex, h.mem_indices]
      omega
    rw [mergeCall_of_new hnot]
    refine ⟨?_, by simp [hnew]⟩
    rw [NumberedFrom, indices, List.map_append, List.length_append, List.length_singleton,
      List.range'_1_concat, List.map_append]
    exact congrArg₂ _ h (by simp [hindex, hnew])

theorem NumberedFrom.foldl_mergeCall {first : Nat} {calls deltas : List HeardCall}
    (hcalls : NumberedFrom 0 calls) (hdeltas : NumberedFrom first deltas)
    (hfirst : first ≤ calls.length) :
    NumberedFrom 0 (deltas.foldl Client.mergeCall calls) ∧
      (deltas.foldl Client.mergeCall calls).length = max calls.length (first + deltas.length) := by
  induction deltas generalizing calls first with
  | nil => exact ⟨hcalls, by simp [hfirst]⟩
  | cons delta deltas ih =>
      rw [NumberedFrom, List.length_cons, List.range'_succ] at hdeltas
      obtain ⟨hindex, hlater⟩ := List.cons.inj hdeltas
      obtain ⟨hmerged, hlength⟩ := hcalls.mergeCall hindex hfirst
      obtain ⟨hnumbered, hmax⟩ := ih hmerged hlater (by omega)
      refine ⟨hnumbered, ?_⟩
      rw [List.foldl_cons, hmax, hlength, List.length_cons]
      omega

def Answer.anonymous (a : Answer) : Answer :=
  { a with calls := a.calls.map HeardCall.anonymous }

theorem Answer.anonymous_add (a : Answer) (h : Heard) :
    (a.add h).anonymous = a.anonymous.add h.anonymous := by
  have hfold : ∀ deltas calls : List HeardCall,
      (deltas.foldl mergeCall calls).map HeardCall.anonymous =
        (deltas.map HeardCall.anonymous).foldl mergeCall (calls.map HeardCall.anonymous) := by
    intro deltas
    induction deltas with
    | nil => exact fun _ => rfl
    | cons delta deltas ih =>
        intro calls
        rw [List.foldl_cons, ih, anonymous_mergeCall]
        rfl
  exact congrArg (Answer.mk · _) (hfold h.calls a.calls)

theorem anonymous_foldl_add (a : Answer) (hs : List Heard) :
    (hs.foldl Answer.add a).anonymous = (hs.map Heard.anonymous).foldl Answer.add a.anonymous := by
  induction hs generalizing a with
  | nil => rfl
  | cons h hs ih => rw [List.foldl_cons, ih, Answer.anonymous_add]; rfl

theorem functions_answer (h : Heard) : functions h.answer.calls = functions h.calls := by
  rw [functions, functions, Heard.answer, List.map_map]
  rfl

theorem functions_anonymous (calls : List HeardCall) :
    functions (calls.map HeardCall.anonymous) = functions calls := by
  rw [functions, functions, List.map_map]
  rfl

end ModelGateway.Client
