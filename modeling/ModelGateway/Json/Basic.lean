/-!
# JSON values

Whole numbers and floating-point numbers are kept apart, since what is written for them differs.
The members of an object are a list: `insertMember` keeps it sorted by key with one member a key,
which is the form of every object that was read as a value; records that this library writes keep
the order of their fields.
-/

namespace ModelGateway

inductive Json.Number where
  | int (n : Int)
  | float (x : Float)
  deriving DecidableEq

inductive Json where
  | null
  | bool (b : Bool)
  | num (n : Json.Number)
  | str (s : String)
  | arr (items : List Json)
  | obj (members : List (String × Json))

namespace Json

instance : Inhabited Json := ⟨.null⟩

mutual

def decideEq : (a b : Json) → Decidable (a = b)
  | .null, .null => isTrue rfl
  | .bool a, .bool b => if h : a = b then isTrue (by rw [h]) else isFalse (by simpa using h)
  | .num a, .num b => if h : a = b then isTrue (by rw [h]) else isFalse (by simpa using h)
  | .str a, .str b => if h : a = b then isTrue (by rw [h]) else isFalse (by simpa using h)
  | .arr xs, .arr ys =>
    match decideEqItems xs ys with
    | isTrue h => isTrue (by rw [h])
    | isFalse h => isFalse (by simpa using h)
  | .obj xs, .obj ys =>
    match decideEqMembers xs ys with
    | isTrue h => isTrue (by rw [h])
    | isFalse h => isFalse (by simpa using h)
  | .null, .bool _ | .null, .num _ | .null, .str _ | .null, .arr _ | .null, .obj _
  | .bool _, .null | .bool _, .num _ | .bool _, .str _ | .bool _, .arr _ | .bool _, .obj _
  | .num _, .null | .num _, .bool _ | .num _, .str _ | .num _, .arr _ | .num _, .obj _
  | .str _, .null | .str _, .bool _ | .str _, .num _ | .str _, .arr _ | .str _, .obj _
  | .arr _, .null | .arr _, .bool _ | .arr _, .num _ | .arr _, .str _ | .arr _, .obj _
  | .obj _, .null | .obj _, .bool _ | .obj _, .num _ | .obj _, .str _ | .obj _, .arr _ =>
    isFalse nofun

def decideEqItems : (a b : List Json) → Decidable (a = b)
  | [], [] => isTrue rfl
  | [], _ :: _ => isFalse nofun
  | _ :: _, [] => isFalse nofun
  | x :: xs, y :: ys =>
    match decideEq x y, decideEqItems xs ys with
    | isTrue h, isTrue h' => isTrue (by rw [h, h'])
    | isFalse h, _ => isFalse (by simp [h])
    | _, isFalse h => isFalse (by simp [h])

def decideEqMembers : (a b : List (String × Json)) → Decidable (a = b)
  | [], [] => isTrue rfl
  | [], _ :: _ => isFalse nofun
  | _ :: _, [] => isFalse nofun
  | (k, x) :: xs, (l, y) :: ys =>
    match decEq k l, decideEq x y, decideEqMembers xs ys with
    | isTrue h, isTrue h', isTrue h'' => isTrue (by rw [h, h', h''])
    | isFalse h, _, _ => isFalse (by simp [h])
    | _, isFalse h, _ => isFalse (by simp [h])
    | _, _, isFalse h => isFalse (by simp [h])

end

instance : DecidableEq Json := decideEq

/-- The members with `key` set to `value`, the keys in ascending order of code points. -/
def insertMember (key : String) (value : α) : List (String × α) → List (String × α)
  | [] => [(key, value)]
  | (k, v) :: rest =>
    if key = k then (key, value) :: rest
    else if key < k then (key, value) :: (k, v) :: rest
    else (k, v) :: insertMember key value rest

/-- Sorted members, the last of several values for a key being kept. -/
def sortMembers (members : List (String × α)) : List (String × α) :=
  members.foldl (fun sorted (k, v) => insertMember k v sorted) []

def object (members : List (String × Json)) : Json :=
  .obj (sortMembers members)

mutual

def sorted : Json → Json
  | .null => .null
  | .bool b => .bool b
  | .num n => .num n
  | .str s => .str s
  | .arr items => .arr (sortedItems items)
  | .obj members => .obj (sortMembers (sortedValues members))

def sortedItems : List Json → List Json
  | [] => []
  | x :: xs => sorted x :: sortedItems xs

def sortedValues : List (String × Json) → List (String × Json)
  | [] => []
  | (k, x) :: xs => (k, sorted x) :: sortedValues xs

end

/-- A field of a record that is written, if it is present. -/
structure Field where
  member? : Option (String × Json)

namespace Field

def of (name : String) (value : Json) : Field := ⟨some (name, value)⟩

def absent : Field := ⟨none⟩

def ifSome (name : String) (encode : α → Json) (value : Option α) : Field :=
  ⟨value.map fun v => (name, encode v)⟩

end Field

def record (fields : List Field) : Json :=
  .obj (fields.filterMap Field.member?)

def int (n : Int) : Json := .num (.int n)

def nat (n : Nat) : Json := .num (.int n)

def float (x : Float) : Json := .num (.float x)

def strings (ss : List String) : Json := .arr (ss.map .str)

def orNull (encode : α → Json) : Option α → Json
  | none => .null
  | some v => encode v

def get? (key : String) : Json → Option Json
  | .obj members => members.lookup key
  | _ => none

/-- The number that a path segment has in an array: digits without a leading zero. -/
def indexOf? (segment : String) : Option Nat :=
  match segment.toList with
  | ['0'] => some 0
  | '0' :: _ | [] => none
  | cs => if cs.all Char.isDigit then segment.toNat? else none

def child? (segment : String) : Json → Option Json
  | .obj members => members.lookup segment
  | .arr items => (indexOf? segment).bind (items[·]?)
  | _ => none

def at? (path : List String) (j : Json) : Option Json :=
  path.foldlM (fun j segment => j.child? segment) j

def str? : Json → Option String
  | .str s => some s
  | _ => none

def nat? : Json → Option Nat
  | .num (.int (.ofNat n)) => some n
  | _ => none

def items? : Json → Option (List Json)
  | .arr items => some items
  | _ => none

def isNull : Json → Bool
  | .null => true
  | _ => false

/-- The object with one member set; other values stay as they are. -/
def withMember (j : Json) (key : String) (value : Json) : Json :=
  match j with
  | .obj members => .obj (insertMember key value members)
  | other => other

end Json

end ModelGateway
