import ModelGateway.Json.Document
import ModelGateway.Number.Binary64

/-!
# Reading records from documents

A decoder takes a document as a value of a type.  A record comes as an object, whose unknown members
are passed over and whose known ones must not be repeated, or as the array of its fields in
order.  Of several faults in an object the one that stands first is reported.  What the notations
for documents do differently is in their `Dialect`.
-/

namespace ModelGateway.Json

/-- Why a document is no value of the wanted type. -/
inductive Misfit where
  /-- A part denotes nothing, or an array goes on after the last field. -/
  | unreadable
  /-- The parts are of another shape. -/
  | unfit
  deriving DecidableEq, Repr

/-- The differences between the notations from which records are read. -/
structure Dialect where
  /-- The document of a variant without contents. -/
  isNothing : Document → Bool
  /-- Whether an array that stands for a record may go on after the last field. -/
  longRecords : Bool
  /-- Whether members that no field takes must denote something. -/
  readsIgnored : Bool

/-- JSON has null, and an array for a record must not be longer than the record. -/
def Dialect.json : Dialect where
  isNothing
    | .null => true
    | _ => false
  longRecords := false
  readsIgnored := false

abbrev Decoder (α : Type) := Dialect → Document → Except Misfit α

namespace Decoder

/-- The error for a document of none of the expected shapes. -/
def misfit (d : Document) : Except Misfit α :=
  match d with
  | .unreadable => .error .unreadable
  | _ => .error .unfit

def string : Decoder String
  | _, .str s => .ok s
  | _, d => misfit d

def bool : Decoder Bool
  | _, .bool b => .ok b
  | _, d => misfit d

def intIn (low high : Int) : Decoder Int
  | _, .num (.int n) => if low ≤ n ∧ n ≤ high then .ok n else .error .unfit
  | _, d => misfit d

def int64 : Decoder Int := intIn Number.minInt64 Number.maxInt64

def natBelow (limit : Nat) : Decoder Nat
  | _, .num (.int (.ofNat n)) => if n < limit then .ok n else .error .unfit
  | _, d => misfit d

def nat16 : Decoder Nat := natBelow UInt16.size

def nat32 : Decoder Nat := natBelow UInt32.size

def nat64 : Decoder Nat := natBelow UInt64.size

/-- A number; a whole one must lie within 64 bits, with or without a sign. -/
def float : Decoder Float
  | _, .num (.float x) => .ok x
  | _, .num (.int n) =>
    if Number.minInt64 ≤ n ∧ n < UInt64.size then .ok (Number.ofInt n) else .error .unfit
  | _, d => misfit d

def json : Decoder Json := fun _ d =>
  match d.value? with
  | some v => .ok v
  | none => .error .unreadable

def optional (decode : Decoder α) : Decoder (Option α)
  | _, .null => .ok none
  | dialect, d => (decode dialect d).map some

def listFrom (decode : Document → Except Misfit α) : List Document → Except Misfit (List α)
  | [] => .ok []
  | d :: rest =>
    match decode d with
    | .error e => .error e
    | .ok v => (listFrom decode rest).map (v :: ·)

def list (decode : Decoder α) : Decoder (List α)
  | dialect, .arr items => listFrom (decode dialect) items
  | _, d => misfit d

def mapFrom (decode : Document → Except Misfit α) :
    List (Option String × Document) → Except Misfit (List (String × α))
  | [] => .ok []
  | (none, _) :: _ => .error .unreadable
  | (some k, d) :: rest =>
    match decode d with
    | .error e => .error e
    | .ok v => (mapFrom decode rest).map ((k, v) :: ·)

/-- An object of any keys, sorted, the last of equal keys being kept. -/
def map (decode : Decoder α) : Decoder (List (String × α))
  | dialect, .obj members => (mapFrom (decode dialect) members).map sortMembers
  | _, d => misfit d

def name? (dialect : Dialect) : Document → Option String
  | .str s => some s
  | .obj [(some s, d)] => if dialect.isNothing d then some s else none
  | _ => none

def oneOf (named? : String → Option α) : Decoder α := fun dialect d =>
  match name? dialect d with
  | none => misfit d
  | some s =>
    match named? s with
    | some v => .ok v
    | none => .error .unfit

def mapped (decode : Decoder α) (f : α → β) : Decoder β := fun dialect d =>
  (decode dialect d).map f

def narrowed (decode : Decoder α) (f? : α → Option β) : Decoder β := fun dialect d =>
  match decode dialect d with
  | .error e => .error e
  | .ok a =>
    match f? a with
    | some b => .ok b
    | none => .error .unfit

/-- The first of two decoders that succeeds on a document all of whose parts denote something. -/
def either (first second : Decoder α) : Decoder α := fun dialect d =>
  match d.value? with
  | none => .error .unreadable
  | some _ =>
    match first dialect d, second dialect d with
    | .ok v, _ | .error _, .ok v => .ok v
    | .error _, .error _ => .error .unfit

end Decoder

/-! ## Records -/

/-- The members or the items that the fields of a record are read from. -/
inductive Fields where
  | named (members : List (Option String × Document))
  | listed (position : Nat) (items : List Document)

/-- A fault and its place among the members or items. -/
structure Fault where
  place : Nat
  cause : Misfit
  deriving DecidableEq, Repr

def Fault.first (a b : Fault) : Fault :=
  if b.place < a.place then b else a

/-- Reads the fields with some names and leaves the rest. -/
structure RecordReader (α : Type) where
  names : List String
  run : Dialect → Fields → Except Fault α × Fields

namespace RecordReader

instance : Functor RecordReader where
  map f r := ⟨r.names, fun dialect fields =>
    let (a, rest) := r.run dialect fields
    (a.map f, rest)⟩

instance : Applicative RecordReader where
  pure a := ⟨[], fun _ fields => (.ok a, fields)⟩
  seq f r := ⟨f.names ++ (r ()).names, fun dialect fields =>
    let (g, fields) := f.run dialect fields
    let (a, fields) := (r ()).run dialect fields
    match g, a with
    | .ok g, .ok a => (.ok (g a), fields)
    | .error e, .ok _ => (.error e, fields)
    | .ok _, .error e => (.error e, fields)
    | .error e, .error e' => (.error (e.first e'), fields)⟩

def membersAt (key : String) (members : List (Option String × Document)) :
    List (Nat × Document) :=
  members.zipIdx.filterMap fun ((k, d), place) => if k = some key then some (place, d) else none

/-- A field; `ifUnnamed` stands for one that an object does not have, `ifUnlisted` for one beyond
the end of an array. -/
def fieldWith (name : String) (decode : Decoder α) (ifUnnamed ifUnlisted : Option α) :
    RecordReader α := ⟨[name], fun dialect fields =>
  match fields with
  | .named members =>
    let result : Except Fault α :=
      match membersAt name members with
      | [] =>
        match ifUnnamed with
        | some a => .ok a
        | none => .error ⟨members.length, .unfit⟩
      | (place, d) :: others =>
        match decode dialect d, others with
        | .error cause, _ => .error ⟨place, cause⟩
        | .ok a, [] => .ok a
        | .ok _, (again, _) :: _ => .error ⟨again, .unfit⟩
    (result, fields)
  | .listed place [] =>
    let result : Except Fault α :=
      match ifUnlisted with
      | some a => .ok a
      | none => .error ⟨place, .unfit⟩
    (result, fields)
  | .listed place (d :: rest) =>
    let result : Except Fault α :=
      match decode dialect d with
      | .ok a => .ok a
      | .error cause => .error ⟨place, cause⟩
    (result, .listed (place + 1) rest)⟩

def required (name : String) (decode : Decoder α) : RecordReader α :=
  fieldWith name decode none none

def withDefault (name : String) (decode : Decoder α) (default : α) : RecordReader α :=
  fieldWith name decode (some default) (some default)

def nullable (name : String) (decode : Decoder α) : RecordReader (Option α) :=
  withDefault name (.optional decode) none

/-- A field that may be null or missing in an object, but has its place in an array. -/
def nullableInPlace (name : String) (decode : Decoder α) : RecordReader (Option α) :=
  fieldWith name (.optional decode) (some none) none

def unreadableKey? (members : List (Option String × Document)) : Option Fault :=
  (members.findIdx? fun (k, _) => k.isNone).map fun place => ⟨place, .unreadable⟩

def ignoredDenote (r : RecordReader α) (members : List (Option String × Document)) : Bool :=
  members.all fun (k, d) => k.any r.names.contains || d.value?.isSome

def decoder (r : RecordReader α) : Decoder α
  | dialect, .obj members =>
    match (r.run dialect (.named members)).1, unreadableKey? members with
    | .ok a, none =>
      if dialect.readsIgnored && !r.ignoredDenote members then .error .unreadable else .ok a
    | .ok _, some f => .error f.cause
    | .error e, none => .error e.cause
    | .error e, some f => .error (e.first f).cause
  | dialect, .arr items =>
    match r.run dialect (.listed 0 items) with
    | (.ok a, .listed _ []) => .ok a
    | (.ok a, _) => if dialect.longRecords then .ok a else .error .unreadable
    | (.error e, _) => .error e.cause
  | _, d => Decoder.misfit d

end RecordReader

end ModelGateway.Json
