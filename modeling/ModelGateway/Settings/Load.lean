import ModelGateway.Settings.Basic
import ModelGateway.Text.Blank
import ModelGateway.Text.Lines
import ModelGateway.Text.Search
import ModelGateway.Text.Utf8
import ModelGateway.Toml.Reader

/-!
# Loading settings

Settings are read from the file that the environment names, else from the first of two names that
there is.
-/

namespace ModelGateway.Settings

abbrev Files := List (String × Bytes)

inductive LoadError where
  | notFound
  | unreadable
  | malformed
  deriving DecidableEq, Repr

def LoadError.message : LoadError → String
  | .notFound =>
    "Configuration file not found. Please create custom-config.toml or config.toml"
  | .unreadable => "cannot read the configuration file"
  | .malformed => "cannot understand the configuration file"

def fileNames : List String := ["custom-config.toml", "config.toml"]

def steps (path : String) : List String := Text.split '/' path

/-- The names that lead to a file; steps that stay where they are are left out. -/
def placeNames (path : String) : List String :=
  (steps path).filter fun s => !s.isEmpty && s != "."

/-- Whether a place, given from its innermost name, is a directory: the current one, or one that a
file is in. -/
def isDirectory (files : Files) (place : List String) : Bool :=
  place.isEmpty || files.any fun (path, _) =>
    let names := placeNames path
    place.length < names.length && place.reverse.isPrefixOf names

/-- The place that the steps lead to.  Only directories can be left, and not the current one. -/
def walk? (files : Files) : (place : List String) → List String → Option (List String)
  | place, [] => some place
  | place, s :: rest =>
    if !isDirectory files place then none
    else if s = "" ∨ s = "." then walk? files place rest
    else if s = ".." then
      match place with
      | [] => none
      | _ :: outer => walk? files outer rest
    else walk? files (s :: place) rest

def nullDevice : String := "/dev/null"

def fileAt? (files : Files) (path : String) : Option Bytes :=
  if path = nullDevice then some []
  else if Text.startsWith "/" path then none
  else
    (walk? files [] (steps path)).bind fun place =>
      (files.find? fun (path, _) => placeNames path == place.reverse).map (·.2)

def isPresent (files : Files) (name : String) : Bool :=
  isDirectory files [name] || (fileAt? files name).isSome

def path? (files : Files) (named : Option String) : Option String :=
  match named.filter (!Text.isBlankText ·) with
  | some path => some path
  | none => fileNames.find? (isPresent files)

def ofToml (octets : Bytes) : Except LoadError Settings :=
  match Utf8.decode? octets with
  | none => .error .unreadable
  | some text =>
    match (Toml.read? text).bind fun d => (decoder Toml.dialect d).toOption with
    | some s => .ok s
    | none => .error .malformed

def load (files : Files) (named : Option String) : Except LoadError Settings :=
  match path? files named with
  | none => .error .notFound
  | some path =>
    match fileAt? files path with
    | none => .error .unreadable
    | some octets => ofToml octets

end ModelGateway.Settings
