import ModelGateway.Json.Record

/-!
# Reading the fields of objects

A reader takes nothing away from an object, so what each of its fields finds there can be told
apart: nothing, or what the one member of its name denotes.
-/

namespace ModelGateway.Json

variable {α β : Type}

theorem Decoder.optional_eq_ok {decode : Decoder α} {dialect : Dialect} {d : Document}
    {a : Option α} :
    decode.optional dialect d = .ok a ↔
      d = .null ∧ a = none ∨ d ≠ .null ∧ ∃ b, decode dialect d = .ok b ∧ a = some b := by
  unfold optional
  split
  · simp [eq_comm]
  · next hnot =>
    have hne : d ≠ .null := fun h => hnot h
    cases decode dialect d <;> simp [Except.map, hne, eq_comm]

namespace RecordReader

/-- A reader that leaves an object as it is. -/
class Keeping (r : RecordReader α) : Prop where
  snd_run : ∀ dialect members, (r.run dialect (.named members)).2 = .named members

/-- What a reader finds in an object. -/
def Reads (r : RecordReader α) (members : List (Option String × Document)) (a : α) : Prop :=
  (r.run .json (.named members)).1 = .ok a

instance keeping_fieldWith (name : String) (decode : Decoder α) (ifUnnamed ifUnlisted : Option α) :
    (fieldWith name decode ifUnnamed ifUnlisted).Keeping := ⟨fun _ _ => rfl⟩

instance keeping_required (name : String) (decode : Decoder α) : (required name decode).Keeping :=
  keeping_fieldWith ..

instance keeping_withDefault (name : String) (decode : Decoder α) (default : α) :
    (withDefault name decode default).Keeping :=
  keeping_fieldWith ..

instance keeping_nullable (name : String) (decode : Decoder α) : (nullable name decode).Keeping :=
  keeping_withDefault ..

instance keeping_nullableInPlace (name : String) (decode : Decoder α) :
    (nullableInPlace name decode).Keeping :=
  keeping_fieldWith ..

instance keeping_map (f : α → β) (r : RecordReader α) [h : r.Keeping] : (f <$> r).Keeping :=
  ⟨h.snd_run⟩

theorem run_seq (f : RecordReader (α → β)) (r : RecordReader α) (dialect : Dialect)
    (fields : Fields) :
    ((f <*> r).run dialect fields).2 = (r.run dialect (f.run dialect fields).2).2 ∧
      ∀ b, ((f <*> r).run dialect fields).1 = .ok b ↔
        ∃ g a, (f.run dialect fields).1 = .ok g ∧
          (r.run dialect (f.run dialect fields).2).1 = .ok a ∧ g a = b := by
  obtain ⟨names, run⟩ := f
  obtain ⟨names', run'⟩ := r
  simp only [Seq.seq]
  rcases run dialect fields with ⟨g, fields'⟩
  rcases run' dialect fields' with ⟨a, fields''⟩
  cases g <;> cases a <;> simp

instance keeping_seq (f : RecordReader (α → β)) (r : RecordReader α) [hf : f.Keeping]
    [hr : r.Keeping] : (f <*> r).Keeping :=
  ⟨fun dialect members => by
    rw [(run_seq f r dialect (.named members)).1, hf.snd_run, hr.snd_run]⟩

variable {members : List (Option String × Document)}

theorem reads_map {f : α → β} {r : RecordReader α} {b : β} :
    (f <$> r).Reads members b ↔ ∃ a, r.Reads members a ∧ f a = b := by
  change Except.map f (r.run .json (.named members)).1 = .ok b ↔ ∃ a, (r.run _ _).1 = _ ∧ _
  cases (r.run .json (.named members)).1 <;> simp [Except.map]

theorem reads_seq {f : RecordReader (α → β)} [hf : f.Keeping] {r : RecordReader α} {b : β} :
    (f <*> r).Reads members b ↔ ∃ g a, f.Reads members g ∧ r.Reads members a ∧ g a = b := by
  rw [Reads, (run_seq f r .json (.named members)).2 b, hf.snd_run]
  rfl

theorem Reads.map {r : RecordReader α} {a : α} (h : r.Reads members a) (f : α → β) :
    (f <$> r).Reads members (f a) :=
  reads_map.mpr ⟨a, h, rfl⟩

theorem Reads.seq {f : RecordReader (α → β)} [f.Keeping] {r : RecordReader α} {g : α → β} {a : α}
    (hf : f.Reads members g) (h : r.Reads members a) : (f <*> r).Reads members (g a) :=
  reads_seq.mpr ⟨g, a, hf, h, rfl⟩

def documentsAt (key : String) (members : List (Option String × Document)) : List Document :=
  members.filterMap fun (k, d) => if k = some key then some d else none

theorem map_snd_membersAt (key : String) (members : List (Option String × Document)) :
    (membersAt key members).map Prod.snd = documentsAt key members := by
  have hplaces : documentsAt key members = (members.zipIdx.map Prod.fst).filterMap fun (k, d) =>
      if k = some key then some d else none := by
    rw [List.zipIdx_map_fst]
    rfl
  rw [hplaces, List.filterMap_map, membersAt, List.map_filterMap]
  refine congrArg (List.filterMap · _) (funext fun member => ?_)
  dsimp only [Function.comp_apply]
  split <;> rfl

theorem mem_documentsAt {key : String} {d : Document} :
    d ∈ documentsAt key members ↔ (some key, d) ∈ members := by
  simp [documentsAt, eq_comm]

/-- A field is read from the only member of its name, or without one has its default. -/
theorem reads_fieldWith {name : String} {decode : Decoder α} {ifUnnamed ifUnlisted : Option α}
    {a : α} :
    (fieldWith name decode ifUnnamed ifUnlisted).Reads members a ↔
      documentsAt name members = [] ∧ ifUnnamed = some a ∨
        ∃ d, documentsAt name members = [d] ∧ decode .json d = .ok a := by
  rw [← map_snd_membersAt, Reads, fieldWith]
  dsimp only
  rcases membersAt name members with _ | ⟨⟨place, d⟩, others⟩
  · cases ifUnnamed <;> simp
  · cases hd : decode .json d <;> cases others <;> simp [hd]

variable {name : String} {decode : Decoder α}

theorem reads_required {a : α} : (required name decode).Reads members a ↔
    ∃ d, documentsAt name members = [d] ∧ decode .json d = .ok a := by
  rw [required, reads_fieldWith]
  simp

theorem reads_withDefault {default a : α} : (withDefault name decode default).Reads members a ↔
    documentsAt name members = [] ∧ default = a ∨
      ∃ d, documentsAt name members = [d] ∧ decode .json d = .ok a := by
  rw [withDefault, reads_fieldWith, Option.some.injEq]

theorem reads_nullable {a : Option α} : (nullable name decode).Reads members a ↔
    documentsAt name members = [] ∧ none = a ∨
      ∃ d, documentsAt name members = [d] ∧ decode.optional .json d = .ok a := by
  rw [nullable, reads_withDefault]

theorem reads_nullableInPlace {a : Option α} :
    (nullableInPlace name decode).Reads members a ↔ (nullable name decode).Reads members a := by
  rw [reads_nullable, nullableInPlace, reads_fieldWith, Option.some.injEq]

theorem decoder_obj_iff {r : RecordReader α} {a : α} :
    r.decoder .json (.obj members) = .ok a ↔
      r.Reads members a ∧ unreadableKey? members = none := by
  have hignored : Dialect.json.readsIgnored = false := rfl
  unfold decoder Reads
  dsimp only
  cases (r.run .json (.named members)).1 <;> cases unreadableKey? members <;> simp [hignored]

theorem decoder_cases {r : RecordReader α} {dialect : Dialect} {d : Document} {a : α}
    (h : r.decoder dialect d = .ok a) :
    (∃ members, d = .obj members) ∨ ∃ items, d = .arr items := by
  cases d with
  | obj members => exact .inl ⟨members, rfl⟩
  | arr items => exact .inr ⟨items, rfl⟩
  | null | bool | num | str | unreadable => cases h

end RecordReader

end ModelGateway.Json
