import Mathlib.Data.List.Nodup
import Mathlib.Data.String.Basic
import ModelGateway.Json.Document

/-!
# Members of objects

What a key has after members were set or sorted, and where the members of a value come from in the
document that it was read from.
-/

namespace ModelGateway.Json

variable {α : Type} {key : String} {value : α} {members : List (String × α)}

theorem lookup_cons_ite (key : String) (value : α) (members : List (String × α)) (k : String) :
    ((key, value) :: members).lookup k = if k = key then some value else members.lookup k := by
  rw [List.lookup_cons]
  by_cases h : k = key
  · rw [if_pos h, h, beq_self_eq_true]
  · rw [if_neg h, beq_false_of_ne h]

theorem lookup_of_mem_nodup (hnodup : (members.map Prod.fst).Nodup) (h : (key, value) ∈ members) :
    members.lookup key = some value := by
  induction members with
  | nil => cases h
  | cons member members ih =>
      obtain ⟨k, v⟩ := member
      obtain ⟨hfresh, hrest⟩ := List.nodup_cons.mp hnodup
      rw [lookup_cons_ite]
      rcases List.mem_cons.mp h with heq | hmem
      · obtain ⟨rfl, rfl⟩ := Prod.mk.inj heq
        exact if_pos rfl
      · have hne : key ≠ k := by
          rintro rfl
          exact hfresh (List.mem_map.mpr ⟨_, hmem, rfl⟩)
        rw [if_neg hne, ih hrest hmem]

theorem mem_of_lookup (h : members.lookup key = some value) : (key, value) ∈ members := by
  obtain ⟨before, after, rfl, -⟩ := List.lookup_eq_some_iff.mp h
  exact List.mem_append_right before List.mem_cons_self

theorem lookup_reverse (hnodup : (members.map Prod.fst).Nodup) (key : String) :
    members.reverse.lookup key = members.lookup key := by
  have hreverse : (members.reverse.map Prod.fst).Nodup := by
    rwa [List.map_reverse, List.nodup_reverse]
  refine Option.ext fun value => ⟨fun h => ?_, fun h => ?_⟩
  · exact lookup_of_mem_nodup hnodup (List.mem_reverse.mp (mem_of_lookup h))
  · exact lookup_of_mem_nodup hreverse (List.mem_reverse.mpr (mem_of_lookup h))

theorem lookup_insertMember (k : String) :
    (insertMember key value members).lookup k =
      if k = key then some value else members.lookup k := by
  induction members with
  | nil => exact lookup_cons_ite ..
  | cons member members ih =>
      obtain ⟨k', v⟩ := member
      rw [insertMember, lookup_cons_ite]
      split
      · next heq =>
        subst heq
        rw [lookup_cons_ite]
        split <;> rfl
      · next hne =>
        split
        · rw [lookup_cons_ite, lookup_cons_ite]
        · rw [lookup_cons_ite, ih]
          by_cases hk : k = k'
          · rw [if_pos hk, if_pos hk, if_neg fun h => hne (h.symm.trans hk)]
          · rw [if_neg hk, if_neg hk]

theorem mem_of_mem_insertMember {m : String × α} (h : m ∈ insertMember key value members) :
    m = (key, value) ∨ m ∈ members := by
  induction members with
  | nil => exact .inl (List.mem_singleton.mp h)
  | cons member members ih =>
      obtain ⟨k, v⟩ := member
      rw [insertMember] at h
      split at h
      · exact (List.mem_cons.mp h).imp_right (List.mem_cons_of_mem _)
      split at h
      · exact List.mem_cons.mp h
      · rcases List.mem_cons.mp h with rfl | hm
        · exact .inr List.mem_cons_self
        · exact (ih hm).imp_right (List.mem_cons_of_mem _)

theorem pairwise_insertMember (h : members.Pairwise (·.1 < ·.1)) (key : String) (value : α) :
    (insertMember key value members).Pairwise (·.1 < ·.1) := by
  induction members with
  | nil => exact List.pairwise_singleton ..
  | cons member members ih =>
      obtain ⟨k, v⟩ := member
      obtain ⟨hfirst, hrest⟩ := List.pairwise_cons.mp h
      rw [insertMember]
      split
      · next heq => exact List.pairwise_cons.mpr ⟨heq ▸ hfirst, hrest⟩
      · next hne =>
        split
        · next hlt =>
          refine List.pairwise_cons.mpr ⟨fun m hm => ?_, h⟩
          rcases List.mem_cons.mp hm with rfl | hm
          · exact hlt
          · exact lt_trans hlt (hfirst m hm)
        · next hnot =>
          refine List.pairwise_cons.mpr ⟨fun m hm => ?_, ih hrest⟩
          rcases mem_of_mem_insertMember hm with rfl | hm
          · exact lt_of_le_of_ne (not_lt.mp hnot) (Ne.symm hne)
          · exact hfirst m hm

theorem mem_of_mem_sortMembers {m : String × α} (h : m ∈ sortMembers members) : m ∈ members := by
  suffices hfold : ∀ sorted : List (String × α),
      m ∈ members.foldl (fun sorted n => insertMember n.1 n.2 sorted) sorted →
        m ∈ members ∨ m ∈ sorted from
    (hfold [] h).resolve_right (List.not_mem_nil)
  clear h
  induction members with
  | nil => exact fun sorted h => .inr h
  | cons n members ih =>
      intro sorted h
      rcases ih _ h with hm | hm
      · exact .inl (List.mem_cons_of_mem n hm)
      · rcases mem_of_mem_insertMember hm with rfl | hm
        · exact .inl List.mem_cons_self
        · exact .inr hm

theorem pairwise_sortMembers (members : List (String × α)) :
    (sortMembers members).Pairwise (·.1 < ·.1) := by
  suffices hfold : ∀ sorted : List (String × α), sorted.Pairwise (·.1 < ·.1) →
      (members.foldl (fun sorted n => insertMember n.1 n.2 sorted) sorted).Pairwise
        (·.1 < ·.1) from hfold [] .nil
  induction members with
  | nil => exact fun _ h => h
  | cons n members ih => exact fun sorted h => ih _ (pairwise_insertMember h n.1 n.2)

theorem nodup_sortMembers (members : List (String × α)) :
    ((sortMembers members).map Prod.fst).Nodup :=
  List.pairwise_map.mpr ((pairwise_sortMembers members).imp ne_of_lt)

theorem lookup_sortMembers (hnodup : (members.map Prod.fst).Nodup) (key : String) :
    (sortMembers members).lookup key = members.lookup key := by
  suffices hfold : ∀ sorted : List (String × α),
      (members.foldl (fun sorted n => insertMember n.1 n.2 sorted) sorted).lookup key =
        (members.reverse.lookup key).or (sorted.lookup key) by
    rw [← lookup_reverse hnodup]
    exact (hfold []).trans (Option.or_none)
  clear hnodup
  induction members with
  | nil => exact fun _ => rfl
  | cons n members ih =>
      intro sorted
      rw [List.foldl_cons, ih, lookup_insertMember, List.reverse_cons, List.lookup_append,
        Option.or_assoc]
      rw [lookup_cons_ite, List.lookup_nil]
      split <;> rfl

theorem map_fst_sortedValues (members : List (String × Json)) :
    (sortedValues members).map Prod.fst = members.map Prod.fst := by
  induction members with
  | nil => rfl
  | cons member members ih => exact congrArg (_ :: ·) ih

theorem lookup_sortedValues (members : List (String × Json)) (key : String) :
    (sortedValues members).lookup key = (members.lookup key).map sorted := by
  induction members with
  | nil => rfl
  | cons member members ih =>
      obtain ⟨k, x⟩ := member
      rw [sortedValues, List.lookup_cons, List.lookup_cons, ih]
      cases key == k <;> rfl

theorem lookup_sorted {members : List (String × Json)} (hnodup : (members.map Prod.fst).Nodup)
    (key : String) :
    (sortMembers (sortedValues members)).lookup key = (members.lookup key).map sorted := by
  rw [lookup_sortMembers (map_fst_sortedValues members ▸ hnodup), lookup_sortedValues]

theorem exists_document {documents : List (Option String × Document)}
    {values : List (String × Json)} (h : Document.memberValues? documents = some values)
    {x : Json} (hx : (key, x) ∈ values) :
    ∃ d, (some key, d) ∈ documents ∧ d.value? = some x := by
  induction documents generalizing values with
  | nil =>
      obtain rfl := Option.some.inj h
      cases hx
  | cons member documents ih =>
      obtain ⟨_ | k, d⟩ := member
      · cases h
      rw [Document.memberValues?] at h
      split at h
      · cases h
      · next v hv =>
        obtain ⟨rest, hrest, rfl⟩ := Option.map_eq_some_iff.mp h
        rcases List.mem_cons.mp hx with heq | hmem
        · obtain ⟨rfl, rfl⟩ := Prod.mk.inj heq
          exact ⟨d, List.mem_cons_self, hv⟩
        · obtain ⟨d', hd', hvalue⟩ := ih hrest hmem
          exact ⟨d', List.mem_cons_of_mem _ hd', hvalue⟩

end ModelGateway.Json
