import ModelGateway.Json.Basic

/-!
# JSON documents

A document is what a text says before it is taken as a value: members stand in their order, a key
may be repeated, and parts that are well formed but denote nothing (a number beyond the range, half
a surrogate pair, a container nested too deep) are `unreadable`.  `value?` is the value of a
document all of whose parts denote something.
-/

namespace ModelGateway.Json

inductive Document where
  | null
  | bool (b : Bool)
  | num (n : Number)
  | str (s : String)
  | arr (items : List Document)
  | obj (members : List (Option String × Document))
  | unreadable

namespace Document

instance : Inhabited Document := ⟨.null⟩

mutual

/-- The value of a document: the members of objects sorted, the last of equal keys being kept. -/
def value? : Document → Option Json
  | .null => some .null
  | .bool b => some (.bool b)
  | .num n => some (.num n)
  | .str s => some (.str s)
  | .arr items => (values? items).map .arr
  | .obj members => (memberValues? members).map .object
  | .unreadable => none

def values? : List Document → Option (List Json)
  | [] => some []
  | d :: rest =>
    match value? d with
    | none => none
    | some v => (values? rest).map (v :: ·)

def memberValues? : List (Option String × Document) → Option (List (String × Json))
  | [] => some []
  | (none, _) :: _ => none
  | (some k, d) :: rest =>
    match value? d with
    | none => none
    | some v => (memberValues? rest).map ((k, v) :: ·)

end

end Document

mutual

def document : Json → Document
  | .null => .null
  | .bool b => .bool b
  | .num n => .num n
  | .str s => .str s
  | .arr items => .arr (documents items)
  | .obj members => .obj (memberDocuments members)

def documents : List Json → List Document
  | [] => []
  | x :: xs => document x :: documents xs

def memberDocuments : List (String × Json) → List (Option String × Document)
  | [] => []
  | (k, x) :: xs => (some k, document x) :: memberDocuments xs

end

end ModelGateway.Json
