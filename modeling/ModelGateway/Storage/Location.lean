import ModelGateway.Text.Lines

/-!
# Where a database file can be

A path below a directory that holds nothing but, perhaps, one regular file.  Missing directories on
the way are made.  A path can be opened if it holds no null character, if no file stands where a
directory has to be, if it is not too long, and if it names neither a directory nor the file that is
no database.
-/

namespace ModelGateway.Storage

/-- The steps of a path; those that stay where they are are left out. -/
def steps (path : String) : List String :=
  (Text.split '/' path).filter fun s => !s.isEmpty && s != "."

/-- How long paths and names may be, in octets.  The library that keeps databases and the system
below it set these limits; a file has a journal beside it, with a longer name. -/
structure Limits where
  /-- What the path of the directory takes of a path, with the slash after it. -/
  directory : Nat := 16
  onTheWay : Nat := 511
  path : Nat := 504
  name : Nat := 255
  journalSuffix : String := "-journal"
  deriving DecidableEq, Repr

def Limits.length (limits : Limits) (place : List String) : Nat :=
  limits.directory + ("/".intercalate place).utf8ByteSize

/-- The place, from its innermost name, that steps lead to; none if a step leaves the obstacle, or
if a place on the way is too long. -/
def walk? (limits : Limits) (obstacle : List String) :
    (place : List String) → List String → Option (List String)
  | place, [] => some place
  | place, s :: rest =>
    if !obstacle.isEmpty && place == obstacle then none
    else if s = ".." then walk? limits obstacle (place.drop 1) rest
    else if limits.name < s.utf8ByteSize ∨ limits.onTheWay < limits.length (s :: place) then none
    else walk? limits obstacle (s :: place) rest

/-- Whether a database can be opened at a path, where `obstacle` is the path of a regular file.  A
path whose last step goes up names a directory. -/
def canOpen (limits : Limits) (path : String) (obstacle : Option String) : Bool :=
  let blocked := ((obstacle.map steps).getD []).reverse
  (steps path).getLast?.any (· != "..") && !path.toList.contains '\x00' &&
    match walk? limits blocked [] (steps path) with
    | some place =>
      place != blocked && limits.length place ≤ limits.path &&
        place.head?.all fun name => (name ++ limits.journalSuffix).utf8ByteSize ≤ limits.name
    | none => false

end ModelGateway.Storage
