import ModelGateway.Proofs.Json.Fields
import ModelGateway.Proofs.Json.Texts

/-!
# What is read from finite values

Where all numbers of a document are finite, so are those of every value that a decoder takes from
it.  A decoder is followed through its fields: each field is read from a part of the document.
-/

namespace ModelGateway.Json

theorem itemsFinite_iff {items : List Json} : ItemsFinite items ↔ ∀ x ∈ items, x.IsFinite := by
  induction items with
  | nil => exact ⟨fun _ _ hx => absurd hx List.not_mem_nil, fun _ => trivial⟩
  | cons x xs ih => rw [ItemsFinite, ih, List.forall_mem_cons]

theorem membersFinite_iff {members : List (String × Json)} :
    MembersFinite members ↔ ∀ m ∈ members, m.2.IsFinite := by
  induction members with
  | nil => exact ⟨fun _ _ hm => absurd hm List.not_mem_nil, fun _ => trivial⟩
  | cons m ms ih =>
      obtain ⟨k, x⟩ := m
      rw [MembersFinite, ih, List.forall_mem_cons]

def Field.IsFinite (f : Field) : Prop := ∀ m ∈ f.member?, m.2.IsFinite

@[simp] theorem Field.isFinite_of (name : String) (v : Json) :
    (Field.of name v).IsFinite ↔ v.IsFinite :=
  ⟨fun h => h _ rfl, fun h _ hm => Option.mem_some.mp hm ▸ h⟩

@[simp] theorem Field.isFinite_absent : Field.absent.IsFinite := nofun

@[simp] theorem Field.isFinite_ifSome {α : Type} (name : String) (encode : α → Json)
    (value : Option α) :
    (Field.ifSome name encode value).IsFinite ↔ ∀ v ∈ value, (encode v).IsFinite := by
  cases value with
  | none => exact ⟨fun _ => nofun, fun _ => nofun⟩
  | some v => exact ⟨fun h _ hv => Option.mem_some.mp hv ▸ h _ rfl, fun h _ hm =>
      Option.mem_some.mp hm ▸ h v rfl⟩

theorem isFinite_record {fields : List Field} :
    (record fields).IsFinite ↔ ∀ f ∈ fields, f.IsFinite := by
  refine membersFinite_iff.trans ⟨fun h f hf m hm => ?_, fun h m hm => ?_⟩
  · exact h m (List.mem_filterMap.mpr ⟨f, hf, hm⟩)
  · obtain ⟨f, hf, hmember⟩ := List.mem_filterMap.mp hm
    exact h f hf m hmember

theorem isFinite_list {α : Type} {encode : α → Json} {items : List α} :
    (Json.arr (items.map encode)).IsFinite ↔ ∀ v ∈ items, (encode v).IsFinite :=
  itemsFinite_iff.trans List.forall_mem_map

theorem isFinite_orNull {α : Type} {encode : α → Json} {value : Option α} :
    (orNull encode value).IsFinite ↔ ∀ v ∈ value, (encode v).IsFinite := by
  cases value with
  | none => exact ⟨fun _ => nofun, fun _ => trivial⟩
  | some v => exact ⟨fun h _ hv => Option.mem_some.mp hv ▸ h, fun h => h v rfl⟩

@[simp] theorem isFinite_str (s : String) : (Json.str s).IsFinite := trivial

@[simp] theorem isFinite_bool (b : Bool) : (Json.bool b).IsFinite := trivial

/-! ## Documents -/

namespace Document

mutual

def IsFinite : Document → Prop
  | .num n => n.IsFinite
  | .arr items => ItemsFinite items
  | .obj members => MembersFinite members
  | _ => True

def ItemsFinite : List Document → Prop
  | [] => True
  | d :: ds => d.IsFinite ∧ ItemsFinite ds

def MembersFinite : List (Option String × Document) → Prop
  | [] => True
  | (_, d) :: ms => d.IsFinite ∧ MembersFinite ms

end

theorem membersFinite_iff {members : List (Option String × Document)} :
    MembersFinite members ↔ ∀ m ∈ members, m.2.IsFinite := by
  induction members with
  | nil => exact ⟨fun _ _ hm => absurd hm List.not_mem_nil, fun _ => trivial⟩
  | cons m ms ih =>
      obtain ⟨k, d⟩ := m
      rw [MembersFinite, ih, List.forall_mem_cons]

end Document

mutual

theorem document_isFinite (j : Json) (h : j.IsFinite) : j.document.IsFinite := by
  cases j with
  | num n => exact h
  | arr items => exact documents_finite items h
  | obj members => exact memberDocuments_finite members h
  | _ => exact trivial

theorem documents_finite (items : List Json) (h : ItemsFinite items) :
    Document.ItemsFinite (documents items) := by
  cases items with
  | nil => exact trivial
  | cons x xs => exact ⟨document_isFinite x h.1, documents_finite xs h.2⟩

theorem memberDocuments_finite (members : List (String × Json)) (h : MembersFinite members) :
    Document.MembersFinite (memberDocuments members) := by
  match members with
  | [] => exact trivial
  | (k, x) :: ms => exact ⟨document_isFinite x h.1, memberDocuments_finite ms h.2⟩

end

theorem insertMember_finite {key : String} {value : Json} {members : List (String × Json)}
    (hvalue : value.IsFinite) (h : MembersFinite members) :
    MembersFinite (insertMember key value members) := by
  induction members with
  | nil => exact ⟨hvalue, trivial⟩
  | cons m ms ih =>
      obtain ⟨k, x⟩ := m
      rw [insertMember]
      split
      · exact ⟨hvalue, h.2⟩
      split
      · exact ⟨hvalue, h⟩
      · exact ⟨h.1, ih h.2⟩

theorem sortMembers_finite {members : List (String × Json)} (h : MembersFinite members) :
    MembersFinite (sortMembers members) := by
  suffices hfold : ∀ sorted : List (String × Json), MembersFinite sorted →
      MembersFinite (members.foldl (fun sorted m => insertMember m.1 m.2 sorted) sorted) from
    hfold [] trivial
  induction members with
  | nil => exact fun _ hsorted => hsorted
  | cons m ms ih =>
      obtain ⟨k, x⟩ := m
      exact fun sorted hsorted => ih h.2 _ (insertMember_finite h.1 hsorted)

mutual

theorem value?_isFinite (d : Document) {j : Json} (hd : d.IsFinite) (h : d.value? = some j) :
    j.IsFinite := by
  cases d with
  | num n =>
      obtain rfl := Option.some.inj h
      exact hd
  | arr items =>
      obtain ⟨values, hvalues, rfl⟩ := Option.map_eq_some_iff.mp h
      exact values?_finite items hd hvalues
  | obj members =>
      obtain ⟨values, hvalues, rfl⟩ := Option.map_eq_some_iff.mp h
      exact sortMembers_finite (memberValues?_finite members hd hvalues)
  | unreadable => cases h
  | _ =>
      obtain rfl := Option.some.inj h
      exact trivial

theorem values?_finite (items : List Document) {values : List Json}
    (hitems : Document.ItemsFinite items) (h : Document.values? items = some values) :
    ItemsFinite values := by
  match items with
  | [] =>
      obtain rfl := Option.some.inj h
      exact trivial
  | d :: ds =>
      rw [Document.values?] at h
      split at h
      · cases h
      · next v hv =>
        obtain ⟨vs, hvs, rfl⟩ := Option.map_eq_some_iff.mp h
        exact ⟨value?_isFinite d hitems.1 hv, values?_finite ds hitems.2 hvs⟩

theorem memberValues?_finite (members : List (Option String × Document))
    {values : List (String × Json)} (hmembers : Document.MembersFinite members)
    (h : Document.memberValues? members = some values) : MembersFinite values := by
  match members with
  | [] =>
      obtain rfl := Option.some.inj h
      exact trivial
  | (none, d) :: ms => cases h
  | (some k, d) :: ms =>
      rw [Document.memberValues?] at h
      split at h
      · cases h
      · next v hv =>
        obtain ⟨vs, hvs, rfl⟩ := Option.map_eq_some_iff.mp h
        exact ⟨value?_isFinite d hmembers.1 hv, memberValues?_finite ms hmembers.2 hvs⟩

end

/-! ## Decoders -/

/-- What a decoder takes from a finite document has a property. -/
def Decoder.Gives {α : Type} (decode : Decoder α) (P : α → Prop) : Prop :=
  ∀ dialect d a, d.IsFinite → decode dialect d = .ok a → P a

def Fields.IsFinite : Fields → Prop
  | .named members => Document.MembersFinite members
  | .listed _ items => Document.ItemsFinite items

structure RecordReader.Gives {α : Type} (r : RecordReader α) (P : α → Prop) : Prop where
  value : ∀ {dialect fields a}, fields.IsFinite → (r.run dialect fields).1 = .ok a → P a
  rest : ∀ {dialect fields}, fields.IsFinite → (r.run dialect fields).2.IsFinite

namespace Decoder.Gives

variable {α : Type} {decode : Decoder α} {P : α → Prop}

theorem json : Decoder.json.Gives IsFinite := by
  intro dialect d j hd h
  unfold Decoder.json at h
  split at h
  · next v hv =>
    obtain rfl := Except.ok.inj h
    exact value?_isFinite d hd hv
  · cases h

theorem optional (h : decode.Gives P) : decode.optional.Gives fun a => ∀ v ∈ a, P v := by
  intro dialect d a hd hok v hv
  obtain rfl := Option.mem_def.mp hv
  unfold Decoder.optional at hok
  split at hok
  · cases hok
  · cases hdecode : decode dialect d with
    | error e => rw [hdecode] at hok; cases hok
    | ok found =>
        rw [hdecode] at hok
        cases hok
        exact h _ _ _ hd hdecode

theorem list (h : decode.Gives P) : decode.list.Gives fun items => ∀ v ∈ items, P v := by
  intro dialect d found hd hok
  unfold Decoder.list at hok
  split at hok
  · next items =>
    have hitems : Document.ItemsFinite items := hd
    clear hd
    induction items generalizing found with
    | nil =>
        cases hok
        exact List.forall_mem_nil _
    | cons d ds ih =>
        rw [Decoder.listFrom] at hok
        split at hok
        · cases hok
        · next v hv =>
          cases hrest : Decoder.listFrom (decode dialect) ds with
          | error e => rw [hrest] at hok; cases hok
          | ok vs =>
              rw [hrest] at hok
              cases hok
              exact List.forall_mem_cons.mpr ⟨h _ _ _ hitems.1 hv, ih _ hrest hitems.2⟩
  · unfold Decoder.misfit at hok
    split at hok <;> cases hok

theorem trivially (decode : Decoder α) : decode.Gives fun _ => True := fun _ _ _ _ _ =>
  trivial

end Decoder.Gives

namespace RecordReader.Gives

variable {α β : Type}

theorem map {r : RecordReader α} {P : α → Prop} {Q : β → Prop} {f : α → β} (h : r.Gives P)
    (hf : ∀ a, P a → Q (f a)) : (f <$> r).Gives Q where
  value := by
    intro dialect fields b hfields hok
    change Except.map f (r.run dialect fields).1 = .ok b at hok
    cases hrun : (r.run dialect fields).1 with
    | error e => rw [hrun] at hok; cases hok
    | ok a =>
        rw [hrun] at hok
        cases hok
        exact hf a (h.value hfields hrun)
  rest hfields := h.rest hfields

theorem seq {f : RecordReader (α → β)} {r : RecordReader α} {P : α → Prop} {Q : β → Prop}
    (hf : f.Gives fun g => ∀ a, P a → Q (g a)) (h : r.Gives P) : (f <*> r).Gives Q where
  value := by
    intro dialect fields b hfields hok
    obtain ⟨g, a, hg, ha, rfl⟩ := ((RecordReader.run_seq f r dialect fields).2 b).mp hok
    exact hf.value hfields hg a (h.value (hf.rest hfields) ha)
  rest := by
    intro dialect fields hfields
    rw [(RecordReader.run_seq f r dialect fields).1]
    exact h.rest (hf.rest hfields)

theorem finite_of_membersAt {name : String} {members : List (Option String × Document)}
    (hmembers : Document.MembersFinite members) {place : Nat} {d : Document}
    (h : (place, d) ∈ RecordReader.membersAt name members) : d.IsFinite := by
  obtain ⟨⟨⟨k, d'⟩, place'⟩, hmem, hsome⟩ := List.mem_filterMap.mp h
  have hd := Document.membersFinite_iff.mp hmembers _ (List.fst_mem_of_mem_zipIdx hmem)
  dsimp only at hsome
  split at hsome
  · cases hsome
    exact hd
  · cases hsome

theorem fieldWith {name : String} {decode : Decoder α} {ifUnnamed ifUnlisted : Option α}
    {P : α → Prop} (h : decode.Gives P) (hunnamed : ∀ a ∈ ifUnnamed, P a)
    (hunlisted : ∀ a ∈ ifUnlisted, P a) :
    (RecordReader.fieldWith name decode ifUnnamed ifUnlisted).Gives P where
  value := by
    intro dialect fields a hfields hok
    unfold RecordReader.fieldWith at hok
    cases fields with
    | named members =>
        dsimp only at hok
        split at hok
        · split at hok
          · next found => exact hunnamed a (Except.ok.inj hok ▸ rfl)
          · cases hok
        · next place d others hat =>
          have hd : d.IsFinite := finite_of_membersAt hfields (hat ▸ List.mem_cons_self)
          split at hok
          · cases hok
          · next hdecode =>
            obtain rfl := Except.ok.inj hok
            exact h _ _ _ hd hdecode
          · cases hok
    | listed place items =>
        cases items with
        | nil =>
            dsimp only at hok
            split at hok
            · exact hunlisted a (Except.ok.inj hok ▸ rfl)
            · cases hok
        | cons d ds =>
            dsimp only at hok
            split at hok
            · next hdecode =>
              obtain rfl := Except.ok.inj hok
              exact h _ _ _ hfields.1 hdecode
            · cases hok
  rest := by
    intro dialect fields hfields
    unfold RecordReader.fieldWith
    cases fields with
    | named members => exact hfields
    | listed place items =>
        cases items with
        | nil => exact hfields
        | cons d ds => exact hfields.2

theorem required {name : String} {decode : Decoder α} {P : α → Prop} (h : decode.Gives P) :
    (RecordReader.required name decode).Gives P :=
  fieldWith h nofun nofun

theorem withDefault {name : String} {decode : Decoder α} {default : α} {P : α → Prop}
    (h : decode.Gives P) (hdefault : P default) :
    (RecordReader.withDefault name decode default).Gives P :=
  fieldWith h (fun _ ha => Option.mem_some.mp ha ▸ hdefault)
    (fun _ ha => Option.mem_some.mp ha ▸ hdefault)

theorem nullable {name : String} {decode : Decoder α} {P : α → Prop} (h : decode.Gives P) :
    (RecordReader.nullable name decode).Gives fun a => ∀ v ∈ a, P v :=
  withDefault h.optional nofun

theorem decoder {r : RecordReader α} {P : α → Prop} (h : r.Gives P) : r.decoder.Gives P := by
  intro dialect d a hd hok
  unfold RecordReader.decoder at hok
  split at hok
  · next members =>
    have hnamed : Fields.IsFinite (.named members) := hd
    split at hok
    · next hrun _ =>
      split at hok
      · cases hok
      · obtain rfl := Except.ok.inj hok
        exact h.value hnamed hrun
    all_goals cases hok
  · next items =>
    have hlisted : Fields.IsFinite (.listed 0 items) := hd
    split at hok
    · next hrun =>
      obtain rfl := Except.ok.inj hok
      exact h.value hlisted (congrArg Prod.fst hrun)
    · next hrun =>
      split at hok
      · obtain rfl := Except.ok.inj hok
        exact h.value hlisted (congrArg Prod.fst hrun)
      · cases hok
    · cases hok
  · unfold Decoder.misfit at hok
    split at hok <;> cases hok

end RecordReader.Gives

end ModelGateway.Json
