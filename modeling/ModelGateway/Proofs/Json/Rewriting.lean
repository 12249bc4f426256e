import ModelGateway.Proofs.Json.Fields
import ModelGateway.Proofs.Json.Kept

/-!
# Reading and writing again

What is decoded and written again keeps what the decoder knows.  One lemma for each decoder says
which values those are: for scalars all of them, for records the objects of no other members than
their fields.
-/

namespace ModelGateway.Json

variable {α β : Type}

/-- A value that is decoded and written again is kept exactly if it is known. -/
def Decoder.Keeps (decode : Decoder α) (encode : α → Json) (known : Json → Prop) : Prop :=
  ∀ d x a, d.value? = some x → decode .json d = .ok a → (x.Kept (encode a).sorted ↔ known x)

theorem value?_eq_null {d : Document} : d.value? = some .null ↔ d = .null := by
  cases d <;> simp [Document.value?, object]

def Any (_ : Json) : Prop := True

def IsDouble (x : Json) : Prop :=
  ∀ n : Int, x = .num (.int n) → Number.worth? (.float (Number.ofInt n)) = some (n : ℚ)

def Each (known : Json → Prop) (x : Json) : Prop :=
  ∀ items, x = .arr items → ∀ y ∈ items, known y

namespace Decoder.Keeps

theorem string_of {known : Json → Prop} (hknown : ∀ s, known (.str s)) :
    Decoder.string.Keeps .str known := by
  intro d x a hvalue h
  cases d with
  | str s =>
      obtain rfl := Except.ok.inj h
      obtain rfl := Option.some.inj hvalue
      exact iff_of_true rfl (hknown s)
  | _ => cases h

theorem string : Decoder.string.Keeps .str Any := string_of fun _ => trivial

theorem bool : Decoder.bool.Keeps .bool Any := by
  intro d x a hvalue h
  cases d with
  | bool b =>
      obtain rfl := Except.ok.inj h
      obtain rfl := Option.some.inj hvalue
      exact iff_of_true rfl trivial
  | _ => cases h

theorem nat32 : Decoder.nat32.Keeps .nat Any := by
  intro d x a hvalue h
  unfold Decoder.nat32 natBelow at h
  split at h
  · split at h
    · obtain rfl := Except.ok.inj h
      obtain rfl := Option.some.inj hvalue
      exact iff_of_true ⟨_, rfl, .refl _⟩ trivial
    · cases h
  · unfold misfit at h
    split at h <;> cases h

theorem float : Decoder.float.Keeps .float IsDouble := by
  intro d x a hvalue h
  unfold Decoder.float at h
  split at h
  · obtain rfl := Except.ok.inj h
    obtain rfl := Option.some.inj hvalue
    exact iff_of_true ⟨_, rfl, .refl _⟩ nofun
  · next n =>
    split at h
    · obtain rfl := Except.ok.inj h
      obtain rfl := Option.some.inj hvalue
      simp [Json.float, sorted, Kept, Number.Same, Number.worth?, IsDouble]
    · cases h
  · unfold misfit at h
    split at h <;> cases h

theorem json : Decoder.json.Keeps id Any := by
  intro d x a hvalue h
  rw [Decoder.json, hvalue] at h
  obtain rfl := Except.ok.inj h
  exact iff_of_true (kept_sorted_of_value? d hvalue) trivial

variable {decode : Decoder α} {encode : α → Json} {known : Json → Prop}

theorem listFrom (hdecode : decode.Keeps encode known) {ds : List Document} {xs : List Json}
    {items : List α} (hvalues : Document.values? ds = some xs)
    (h : Decoder.listFrom (decode .json) ds = .ok items) :
    List.Forall₂ Kept xs (sortedItems (items.map encode)) ↔ ∀ x ∈ xs, known x := by
  induction ds generalizing xs items with
  | nil =>
      obtain rfl := Option.some.inj hvalues
      obtain rfl := Except.ok.inj h
      exact iff_of_true .nil (List.forall_mem_nil _)
  | cons d ds ih =>
      rw [Document.values?] at hvalues
      rw [Decoder.listFrom] at h
      split at hvalues
      · cases hvalues
      · next x hx =>
        obtain ⟨xs, hxs, rfl⟩ := Option.map_eq_some_iff.mp hvalues
        split at h
        · cases h
        · next a ha =>
          cases hrest : Decoder.listFrom (decode .json) ds with
          | error e => rw [hrest] at h; cases h
          | ok rest =>
              rw [hrest] at h
              obtain rfl := Except.ok.inj h
              rw [List.map_cons, sortedItems, List.forall₂_cons, List.forall_mem_cons,
                hdecode d x a hx ha, ih hxs hrest]

theorem list (hdecode : decode.Keeps encode known) :
    decode.list.Keeps (fun items => .arr (items.map encode)) (Each known) := by
  intro d x items hvalue h
  unfold Decoder.list at h
  split at h
  · obtain ⟨xs, hxs, rfl⟩ := Option.map_eq_some_iff.mp hvalue
    have hitems := hdecode.listFrom hxs h
    rw [kept_arr]
    simpa [Each, sorted] using hitems
  · unfold misfit at h
    split at h <;> cases h

theorem isEmpty_list_iff {d : Document} {x : Json} {items : List α} (hvalue : d.value? = some x)
    (h : decode.list .json d = .ok items) : items.isEmpty = true ↔ x = .arr [] := by
  unfold Decoder.list at h
  split at h
  · next ds =>
    obtain ⟨xs, hxs, rfl⟩ := Option.map_eq_some_iff.mp hvalue
    cases ds with
    | nil =>
        obtain rfl := Except.ok.inj h
        obtain rfl := Option.some.inj hxs
        exact iff_of_true rfl rfl
    | cons d ds =>
        rw [Document.values?] at hxs
        rw [Decoder.listFrom] at h
        split at hxs
        · cases hxs
        split at h
        · cases h
        obtain ⟨_, -, rfl⟩ := Option.map_eq_some_iff.mp hxs
        cases hrest : Decoder.listFrom (decode .json) ds with
        | error e => rw [hrest] at h; cases h
        | ok rest =>
            rw [hrest] at h
            obtain rfl := Except.ok.inj h
            simp
  · unfold misfit at h
    split at h <;> cases h

theorem mapped {f : α → β} {encode : β → Json} (h : decode.Keeps (encode ∘ f) known) :
    (decode.mapped f).Keeps encode known := by
  intro d x b hvalue hdecode
  unfold Decoder.mapped at hdecode
  cases ha : decode .json d with
  | error e => rw [ha] at hdecode; cases hdecode
  | ok a =>
      rw [ha] at hdecode
      obtain rfl := Except.ok.inj hdecode
      exact h d x a hvalue ha

theorem either {first second : Decoder α} (hfirst : first.Keeps encode known)
    (hsecond : second.Keeps encode known) : (first.either second).Keeps encode known := by
  intro d x a hvalue h
  unfold Decoder.either at h
  rw [hvalue] at h
  cases hf : first .json d with
  | ok b =>
      rw [hf] at h
      obtain rfl := Except.ok.inj h
      exact hfirst d x b hvalue hf
  | error e =>
      rw [hf] at h
      cases hs : second .json d with
      | ok b =>
          rw [hs] at h
          obtain rfl := Except.ok.inj h
          exact hsecond d x b hvalue hs
      | error e' => rw [hs] at h; cases h

end Decoder.Keeps

/-! ## Fields -/

def Field.Named (f : Field) (name : String) : Prop := ∀ m ∈ f.member?, m.1 = name

namespace Field.Named

theorem of (name : String) (value : Json) : (Field.of name value).Named name :=
  fun _ hm => (Option.some.inj hm) ▸ rfl

theorem absent (name : String) : Field.absent.Named name := nofun

theorem ifSome (name : String) (encode : α → Json) (value : Option α) :
    (Field.ifSome name encode value).Named name := by
  cases value with
  | none => exact absent name
  | some a => exact of name (encode a)

theorem ite {first second : Field} {name : String} (p : Prop) [Decidable p]
    (hfirst : first.Named name) (hsecond : second.Named name) :
    (if p then first else second).Named name := by
  split
  · exact hfirst
  · exact hsecond

variable {names : List String} {fields : List Field}

theorem names_sublist (h : List.Forall₂ Field.Named fields names) :
    ((fields.filterMap Field.member?).map Prod.fst).Sublist names := by
  induction h with
  | nil => exact .slnil
  | @cons f name fields names hf _ ih =>
      cases hm : f.member? with
      | none =>
          rw [List.filterMap_cons_none hm]
          exact ih.cons _
      | some m =>
          rw [List.filterMap_cons_some hm, List.map_cons, hf m hm]
          exact ih.cons_cons _

theorem lookup_cons_of_ne {f : Field} {name key : String} (hf : f.Named name) (hne : key ≠ name)
    (fields : List Field) :
    ((f :: fields).filterMap Field.member?).lookup key =
      (fields.filterMap Field.member?).lookup key := by
  cases hm : f.member? with
  | none => rw [List.filterMap_cons_none hm]
  | some m => rw [List.filterMap_cons_some hm, lookup_cons_ite, hf m hm, if_neg hne]

theorem get?_sorted (h : List.Forall₂ Field.Named fields names) (hnodup : names.Nodup)
    (key : String) : (record fields).sorted.get? key =
      ((fields.filterMap Field.member?).lookup key).map Json.sorted :=
  lookup_sorted (hnodup.sublist (names_sublist h)) key

end Field.Named

/-- A field keeps what the document has under its name, where that is known. -/
structure Field.Keeps (f : Field) (documents : List (Option String × Document)) (name : String)
    (known : Json → Prop) : Prop where
  named : f.Named name
  keeps : ∀ d x, (some name, d) ∈ documents → d.value? = some x →
    (x.KeptAs (f.member?.map (·.2.sorted)) ↔ x = .null ∨ known x)

namespace Field.Keeps

open RecordReader (documentsAt mem_documentsAt reads_nullable reads_nullableInPlace reads_required
  reads_withDefault)

variable {documents : List (Option String × Document)} {name : String} {decode : Decoder α}
  {encode : α → Json} {known : Json → Prop}

theorem ne_null_of_ok (hnull : ∀ a, decode .json .null ≠ .ok a) {d : Document} {x : Json} {a : α}
    (hx : d.value? = some x) (ha : decode .json d = .ok a) : x ≠ .null := by
  rintro rfl
  obtain rfl := value?_eq_null.mp hx
  exact hnull a ha

theorem of_one (hdecode : decode.Keeps encode known) (hnull : ∀ a, decode .json .null ≠ .ok a)
    {d : Document} (hat : documentsAt name documents = [d]) {a : α} (ha : decode .json d = .ok a) :
    (Field.of name (encode a)).Keeps documents name known where
  named := .of name _
  keeps d' x hd' hx := by
    obtain rfl : d' = d := List.mem_singleton.mp (hat ▸ mem_documentsAt.mpr hd')
    rw [or_iff_right (ne_null_of_ok hnull hx ha)]
    exact hdecode d' x a hx ha

theorem of_none (hat : documentsAt name documents = []) {f : Field} (hnamed : f.Named name) :
    f.Keeps documents name known where
  named := hnamed
  keeps _ _ hd _ := absurd (mem_documentsAt.mpr hd) (hat ▸ List.not_mem_nil)

theorem required (hdecode : decode.Keeps encode known) (hnull : ∀ a, decode .json .null ≠ .ok a)
    {a : α} (h : (RecordReader.required name decode).Reads documents a) :
    (Field.of name (encode a)).Keeps documents name known := by
  obtain ⟨d, hat, ha⟩ := reads_required.mp h
  exact of_one hdecode hnull hat ha

theorem withDefault (hdecode : decode.Keeps encode known) (hnull : ∀ a, decode .json .null ≠ .ok a)
    {default a : α} (h : (RecordReader.withDefault name decode default).Reads documents a) :
    (Field.of name (encode a)).Keeps documents name known := by
  rcases reads_withDefault.mp h with ⟨hat, -⟩ | ⟨d, hat, ha⟩
  · exact of_none hat (.of name _)
  · exact of_one hdecode hnull hat ha

theorem nullable (hdecode : decode.Keeps encode known) {a : Option α}
    (h : (RecordReader.nullable name decode).Reads documents a) :
    (Field.ifSome name encode a).Keeps documents name known := by
  have hnamed : (Field.ifSome name encode a).Named name := .ifSome name encode a
  rcases reads_nullable.mp h with ⟨hat, -⟩ | ⟨d, hat, ha⟩
  · exact of_none hat hnamed
  refine ⟨hnamed, fun d' x hd' hx => ?_⟩
  obtain rfl : d' = d := List.mem_singleton.mp (hat ▸ mem_documentsAt.mpr hd')
  rcases Decoder.optional_eq_ok.mp ha with ⟨rfl, rfl⟩ | ⟨hnot, b, hb, rfl⟩
  · -- Null is written as nothing at all.
    obtain rfl := Option.some.inj hx
    exact iff_of_true rfl (.inl rfl)
  · have hne : x ≠ .null := fun h => hnot (value?_eq_null.mp (h ▸ hx))
    rw [or_iff_right hne]
    exact hdecode d' x b hx hb

theorem omitting (hdecode : decode.Keeps encode known) (hnull : ∀ a, decode .json .null ≠ .ok a)
    {omits : α → Bool} {omitted : Json}
    (homits : ∀ d x a, d.value? = some x → decode .json d = .ok a →
      (omits a = true ↔ x = omitted))
    {default a : α} (h : (RecordReader.withDefault name decode default).Reads documents a) :
    (if omits a then Field.absent else Field.of name (encode a)).Keeps documents name
      fun x => x ≠ omitted ∧ known x := by
  have hnamed : (if omits a then Field.absent else Field.of name (encode a)).Named name :=
    .ite _ (.absent name) (.of name _)
  rcases reads_withDefault.mp h with ⟨hat, -⟩ | ⟨d, hat, ha⟩
  · exact of_none hat hnamed
  refine ⟨hnamed, fun d' x hd' hx => ?_⟩
  obtain rfl : d' = d := List.mem_singleton.mp (hat ▸ mem_documentsAt.mpr hd')
  have hof : (Field.of name (encode a)).Keeps documents name known := of_one hdecode hnull hat ha
  have hkept := hof.keeps d' x hd' hx
  have hwhen := homits d' x a hx ha
  cases hcase : omits a with
  | true =>
      have hne := ne_null_of_ok hnull hx ha
      have hx' : x = omitted := hwhen.mp hcase
      exact iff_of_false hne fun h => h.elim hne fun h => h.1 hx'
  | false =>
      have hx' : x ≠ omitted := fun h => Bool.false_ne_true (hcase.symm.trans (hwhen.mpr h))
      simpa [hx'] using hkept

theorem nullableInPlace (hdecode : decode.Keeps encode known) {a : Option α}
    (h : (RecordReader.nullableInPlace name decode).Reads documents a) :
    (Field.ifSome name encode a).Keeps documents name known :=
  nullable hdecode (reads_nullableInPlace.mp h)

end Field.Keeps

/-! ## Records -/

/-- Names of members, and which values are known under them. -/
abbrev Shape := List (String × (Json → Prop))

def Shape.Knows (shape : Shape) (m : String × Json) : Prop :=
  m.2 = .null ∨ ∃ known, (m.1, known) ∈ shape ∧ known m.2

def Shape.IsObject (shape : Shape) (x : Json) : Prop :=
  ∃ members, x = .obj members ∧ ∀ m ∈ members, shape.Knows m

def FieldsKeep (documents : List (Option String × Document)) (shape : Shape)
    (fields : List Field) : Prop :=
  List.Forall₂ (fun spec f => f.Keeps documents spec.1 spec.2) shape fields

namespace FieldsKeep

variable {documents : List (Option String × Document)} {shape : Shape} {fields : List Field}

theorem named (h : FieldsKeep documents shape fields) :
    List.Forall₂ Field.Named fields (shape.map Prod.fst) :=
  List.forall₂_map_right_iff.mpr (h.flip.imp fun _ _ hf => hf.named)

theorem lookup_of_not_mem (h : FieldsKeep documents shape fields) {name : String}
    (hname : name ∉ shape.map Prod.fst) : (fields.filterMap Field.member?).lookup name = none := by
  refine Option.eq_none_iff_forall_ne_some.mpr fun y hy => hname ?_
  exact (Field.Named.names_sublist h.named).subset (List.mem_map.mpr ⟨_, mem_of_lookup hy, rfl⟩)

theorem exists_lookup (h : FieldsKeep documents shape fields)
    (hnodup : (shape.map Prod.fst).Nodup) {name : String} {known : Json → Prop}
    (hspec : (name, known) ∈ shape) :
    ∃ f : Field, f.Keeps documents name known ∧
      (fields.filterMap Field.member?).lookup name = f.member?.map Prod.snd := by
  induction h with
  | nil => cases hspec
  | @cons spec f shape fields hf hrest ih =>
      obtain ⟨hfresh, hnodup⟩ := List.nodup_cons.mp hnodup
      rcases List.mem_cons.mp hspec with rfl | hspec
      · refine ⟨f, hf, ?_⟩
        cases hm : f.member? with
        | none =>
            rw [List.filterMap_cons_none hm]
            exact lookup_of_not_mem hrest hfresh
        | some m =>
            rw [List.filterMap_cons_some hm, lookup_cons_ite, if_pos (hf.named m hm).symm]
            rfl
      · obtain ⟨f', hf', hlookup⟩ := ih hnodup hspec
        have hne : name ≠ spec.1 := by
          rintro rfl
          exact hfresh (List.mem_map.mpr ⟨_, hspec, rfl⟩)
        exact ⟨f', hf', (hf.named.lookup_cons_of_ne hne fields).trans hlookup⟩

theorem keptAs_iff (h : FieldsKeep documents shape fields) (hnodup : (shape.map Prod.fst).Nodup)
    {values : List (String × Json)} (hvalues : Document.memberValues? documents = some values)
    {m : String × Json} (hm : m ∈ values) :
    m.2.KeptAs ((record fields).sorted.get? m.1) ↔ shape.Knows m := by
  obtain ⟨name, x⟩ := m
  obtain ⟨d, hd, hx⟩ := exists_document hvalues hm
  rw [Field.Named.get?_sorted h.named hnodup]
  by_cases hname : name ∈ shape.map Prod.fst
  · obtain ⟨⟨_, known⟩, hspec, rfl⟩ := List.mem_map.mp hname
    obtain ⟨f, hf, hlookup⟩ := h.exists_lookup hnodup hspec
    rw [hlookup, Option.map_map]
    refine (hf.keeps d x hd hx).trans (or_congr_right ⟨fun hknown => ⟨known, hspec, hknown⟩, ?_⟩)
    rintro ⟨known', hspec', hknown⟩
    have hsame := (lookup_of_mem_nodup hnodup hspec').symm.trans (lookup_of_mem_nodup hnodup hspec)
    rwa [Option.some.inj hsame] at hknown
  · rw [h.lookup_of_not_mem hname]
    refine ⟨.inl, fun hknows => hknows.resolve_right ?_⟩
    rintro ⟨known, hspec, -⟩
    exact hname (List.mem_map.mpr ⟨_, hspec, rfl⟩)

end FieldsKeep

/-- A record that is read and written again, field by field, keeps the objects of its shape. -/
theorem RecordReader.keeps_decoder {r : RecordReader α} {encode : α → Json} {shape : Shape}
    (hnodup : (shape.map Prod.fst).Nodup)
    (h : ∀ a, ∃ fields, encode a = record fields ∧
      ∀ documents, r.Reads documents a → FieldsKeep documents shape fields) :
    r.decoder.Keeps encode shape.IsObject := by
  intro d x a hvalue hdecode
  obtain ⟨fields, hencode, hfields⟩ := h a
  rw [hencode]
  rcases decoder_cases hdecode with ⟨documents, rfl⟩ | ⟨items, rfl⟩
  · obtain ⟨values, hvalues, rfl⟩ := Option.map_eq_some_iff.mp hvalue
    have hkept := hfields documents (decoder_obj_iff.mp hdecode).1
    have hmembers : (object values).Kept (record fields).sorted ↔
        ∀ m ∈ sortMembers values, m.2.KeptAs ((record fields).sorted.get? m.1) := by
      rw [object, kept_obj]
      constructor
      · rintro ⟨_, hobj, hkept⟩
        obtain rfl := Json.obj.inj hobj
        exact hkept
      · exact fun hkept => ⟨_, rfl, hkept⟩
    have hknown : shape.IsObject (object values) ↔ ∀ m ∈ sortMembers values, shape.Knows m := by
      constructor
      · rintro ⟨_, hobj, hknown⟩
        obtain rfl := Json.obj.inj hobj
        exact hknown
      · exact fun hknown => ⟨_, rfl, hknown⟩
    rw [hmembers, hknown]
    exact forall₂_congr fun m hm =>
      hkept.keptAs_iff hnodup hvalues (mem_of_mem_sortMembers hm)
  · -- The fields of a record in an array have no names to be kept under.
    obtain ⟨values, -, rfl⟩ := Option.map_eq_some_iff.mp hvalue
    refine iff_of_false (fun hkept => ?_) ?_
    · obtain ⟨_, hobj, -⟩ := kept_arr.mp hkept
      cases hobj
    · rintro ⟨_, hobj, -⟩
      cases hobj

end ModelGateway.Json
