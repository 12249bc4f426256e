import ModelGateway.Proofs.Json.Members
import ModelGateway.Proofs.Number.Intervals

/-!
# Values that keep others

A value keeps another one if it has every member of the other's objects, at any depth.  Numbers are
compared by their values, members that are null may be missing, and others may have been added.
-/

namespace ModelGateway

def Number.Parts.value (p : Number.Parts) : ℚ :=
  (if p.negative then -1 else 1) * p.significand * 2 ^ p.exponent

namespace Json

def Number.worth? : Json.Number → Option ℚ
  | .int n => some n
  | .float x => (Number.parts? x).map Number.Parts.value

/-- Numbers that are written alike or have the same value. -/
def Number.Same (n m : Json.Number) : Prop :=
  n = m ∨ ∃ q, n.worth? = some q ∧ m.worth? = some q

theorem Number.Same.refl (n : Json.Number) : n.Same n := .inl rfl

mutual

/-- Every member of the first value is in the second, at any depth. -/
def Kept : Json → Json → Prop
  | .null, y => y = .null
  | .bool b, y => y = .bool b
  | .num n, y => ∃ m, y = .num m ∧ n.Same m
  | .str s, y => y = .str s
  | .arr items, y => ∃ items', y = .arr items' ∧ ItemsKept items items'
  | .obj members, y => ∃ members', y = .obj members' ∧ MembersKept members members'

def ItemsKept : List Json → List Json → Prop
  | [], ys => ys = []
  | x :: xs, ys => ∃ y ys', ys = y :: ys' ∧ Kept x y ∧ ItemsKept xs ys'

def MembersKept : List (String × Json) → List (String × Json) → Prop
  | [], _ => True
  | (k, x) :: ms, members =>
    (match members.lookup k with
      | some y => Kept x y
      | none => x = .null) ∧ MembersKept ms members

end

def KeptAs (x : Json) (y? : Option Json) : Prop :=
  match y? with
  | some y => x.Kept y
  | none => x = .null

theorem itemsKept_iff {xs ys : List Json} : ItemsKept xs ys ↔ List.Forall₂ Kept xs ys := by
  induction xs generalizing ys with
  | nil => simp [ItemsKept]
  | cons x xs ih =>
      simp only [ItemsKept, ih, List.forall₂_cons_left_iff]
      exact ⟨fun ⟨y, ys', h, hy, hys⟩ => ⟨y, ys', hy, hys, h⟩,
        fun ⟨y, ys', hy, hys, h⟩ => ⟨y, ys', h, hy, hys⟩⟩

theorem membersKept_iff {ms members : List (String × Json)} :
    MembersKept ms members ↔ ∀ m ∈ ms, m.2.KeptAs (members.lookup m.1) := by
  induction ms with
  | nil => simp [MembersKept]
  | cons m ms ih =>
      obtain ⟨k, x⟩ := m
      rw [MembersKept, ih, List.forall_mem_cons]
      rfl

theorem kept_arr {xs : List Json} {y : Json} :
    (arr xs).Kept y ↔ ∃ ys, y = .arr ys ∧ List.Forall₂ Kept xs ys := by
  simp only [Kept, itemsKept_iff]

theorem kept_obj {ms : List (String × Json)} {y : Json} :
    (obj ms).Kept y ↔
      ∃ members, y = .obj members ∧ ∀ m ∈ ms, m.2.KeptAs (members.lookup m.1) := by
  simp only [Kept, membersKept_iff]

mutual

theorem kept_sorted_of_value? (d : Document) {x : Json} (h : d.value? = some x) :
    x.Kept x.sorted := by
  cases d with
  | arr items =>
      obtain ⟨values, hvalues, rfl⟩ := Option.map_eq_some_iff.mp h
      exact kept_arr.mpr ⟨_, rfl, forall₂_kept_sorted items hvalues⟩
  | obj members =>
      obtain ⟨values, hvalues, rfl⟩ := Option.map_eq_some_iff.mp h
      refine kept_obj.mpr ⟨_, rfl, fun (k, x) hm => ?_⟩
      rw [lookup_sorted (nodup_sortMembers values), lookup_of_mem_nodup (nodup_sortMembers values) hm]
      exact forall_kept_sorted members hvalues (k, x) (mem_of_mem_sortMembers hm)
  | num n =>
      obtain rfl := Option.some.inj h
      exact ⟨n, rfl, .refl n⟩
  | unreadable => cases h
  | null | bool | str =>
      obtain rfl := Option.some.inj h
      rfl

theorem forall₂_kept_sorted (items : List Document) {values : List Json}
    (h : Document.values? items = some values) :
    List.Forall₂ Kept values (sortedItems values) := by
  match items with
  | [] =>
      obtain rfl := Option.some.inj h
      exact .nil
  | d :: ds =>
      rw [Document.values?] at h
      split at h
      · cases h
      · next v hv =>
        obtain ⟨vs, hvs, rfl⟩ := Option.map_eq_some_iff.mp h
        exact .cons (kept_sorted_of_value? d hv) (forall₂_kept_sorted ds hvs)

theorem forall_kept_sorted (members : List (Option String × Document))
    {values : List (String × Json)} (h : Document.memberValues? members = some values) :
    ∀ m ∈ values, m.2.Kept m.2.sorted := by
  match members with
  | [] =>
      obtain rfl := Option.some.inj h
      exact List.forall_mem_nil _
  | (none, d) :: ms => cases h
  | (some k, d) :: ms =>
      rw [Document.memberValues?] at h
      split at h
      · cases h
      · next v hv =>
        obtain ⟨vs, hvs, rfl⟩ := Option.map_eq_some_iff.mp h
        exact List.forall_mem_cons.mpr
          ⟨kept_sorted_of_value? d hv, forall_kept_sorted ms hvs⟩

end

end Json

end ModelGateway
