import ModelGateway.Json.Record
import ModelGateway.Toml.Scalar

/-!
# Reading TOML

A text is a list of statements: headers, which name a table, and assignments.  Keys are paths.
-/

namespace ModelGateway.Toml

open Json (Document)

def isSpace (c : Char) : Bool := c == ' ' || c == '\t'

def skipSpace (cs : Chars) : Chars := cs.dropWhile isSpace

def isPrintable (c : Char) : Bool :=
  c == '\t' || (0x20 ≤ c.toNat && c.toNat != 0x7F)

def newline? : Chars → Option Chars
  | '\n' :: rest => some rest
  | '\r' :: '\n' :: rest => some rest
  | _ => none

def skipComment : Chars → Chars
  | '#' :: rest => rest.dropWhile isPrintable
  | cs => cs

def endOfLine? (cs : Chars) : Option Chars :=
  match skipComment (skipSpace cs) with
  | [] => some []
  | rest => newline? rest

/-- Blanks, comments and newlines; `lines` bounds how many lines are skipped. -/
def skipLines : (lines : Nat) → Chars → Chars
  | 0, cs => skipSpace cs
  | lines + 1, cs =>
    match newline? (skipComment (skipSpace cs)) with
    | some rest => skipLines lines rest
    | none => skipSpace cs

def skipBlank (cs : Chars) : Chars := skipLines cs.length cs

def codePoint? (digits : Chars) : Option Char := do
  let n := valueOf 16 (← digits.mapM (digitValue? 16))
  if n.isValidChar then some (Char.ofNat n) else none

def shortEscape? : Char → Option Char
  | 'b' => some '\x08'
  | 't' => some '\t'
  | 'n' => some '\n'
  | 'f' => some '\x0c'
  | 'r' => some '\r'
  | 'e' => some '\x1b'
  | '"' => some '"'
  | '\\' => some '\\'
  | _ => none

def escape? : Chars → Option (Char × Chars)
  | 'u' :: rest => (codePoint? (rest.take 4)).bind fun c =>
    if rest.length < 4 then none else some (c, rest.drop 4)
  | 'U' :: rest => (codePoint? (rest.take 8)).bind fun c =>
    if rest.length < 8 then none else some (c, rest.drop 8)
  | 'x' :: rest => (codePoint? (rest.take 2)).bind fun c =>
    if rest.length < 2 then none else some (c, rest.drop 2)
  | c :: rest => (shortEscape? c).map (·, rest)
  | [] => none

/-- Blanks and newlines; `lines` bounds how many lines are skipped. -/
def skipBlankLines : (lines : Nat) → Chars → Chars
  | 0, cs => skipSpace cs
  | lines + 1, cs =>
    match newline? (skipSpace cs) with
    | some rest => skipBlankLines lines rest
    | none => skipSpace cs

/-- A backslash at the end of a line takes the line's end and all blanks after it away. -/
def continued? (cs : Chars) : Option Chars :=
  (newline? (skipSpace cs)).map fun rest => skipBlankLines rest.length rest

structure Quoting where
  mark : Char
  escapes : Bool
  lines : Bool
  deriving DecidableEq, Repr

/-- The marks that end a string of several lines; up to two more belong to it. -/
def closing? (mark : Char) (cs : Chars) : Option (Chars × Chars) :=
  let marks := cs.takeWhile (· == mark)
  if marks.length < 3 then none
  else
    let inside := min (marks.length - 3) 2
    some (List.replicate inside mark, cs.drop (inside + 3))

/-- Reads up to the end of a string; `fuel` bounds the characters. -/
def readString? (q : Quoting) : (fuel : Nat) → Chars → Option (Chars × Chars)
  | 0, _ => none
  | _, [] => none
  | fuel + 1, c :: rest =>
    if c = q.mark then
      if q.lines then
        match closing? q.mark (c :: rest) with
        | some found => some found
        | none => (readString? q fuel rest).map fun (cs, rest) => (c :: cs, rest)
      else some ([], rest)
    else if c = '\\' ∧ q.escapes then
      match if q.lines then continued? rest else none with
      | some rest => readString? q fuel rest
      | none => do
        let (c, rest) ← escape? rest
        let (cs, rest) ← readString? q fuel rest
        some (c :: cs, rest)
    else if isPrintable c ∨ (q.lines ∧ (newline? (c :: rest)).isSome) then
      (readString? q fuel rest).map fun (cs, rest) => (c :: cs, rest)
    else none

def dropNewline (cs : Chars) : Chars := (newline? cs).getD cs

def string? (cs : Chars) : Option (String × Chars) :=
  let read (q : Quoting) (cs : Chars) : Option (String × Chars) :=
    (readString? q (cs.length + 1) cs).map fun (s, rest) => (String.ofList s, rest)
  match cs with
  | '"' :: '"' :: '"' :: rest => read ⟨'"', true, true⟩ (dropNewline rest)
  | '\'' :: '\'' :: '\'' :: rest => read ⟨'\'', false, true⟩ (dropNewline rest)
  | '"' :: rest => read ⟨'"', true, false⟩ rest
  | '\'' :: rest => read ⟨'\'', false, false⟩ rest
  | _ => none

abbrev Path := List String

def isBare (c : Char) : Bool := c.isAlphanum || c == '_' || c == '-'

def isSingleLine : Chars → Bool
  | '"' :: '"' :: '"' :: _ | '\'' :: '\'' :: '\'' :: _ => false
  | _ => true

def simpleKey? (cs : Chars) : Option (String × Chars) :=
  let bare := cs.takeWhile isBare
  if !bare.isEmpty then some (String.ofList bare, cs.dropWhile isBare)
  else if isSingleLine cs then string? cs
  else none

def maxKeys : Nat := 80

def pathFrom? : (fuel : Nat) → Chars → Option (Path × Chars)
  | 0, _ => none
  | fuel + 1, cs => do
    let (key, rest) ← simpleKey? (skipSpace cs)
    match skipSpace rest with
    | '.' :: rest => (pathFrom? fuel rest).map fun (keys, rest) => (key :: keys, rest)
    | rest => some ([key], rest)

def path? (cs : Chars) : Option (Path × Chars) := pathFrom? maxKeys cs

/-! ## Tables in the making -/

inductive Origin where
  /-- By the header of a table inside it. -/
  | implied
  /-- By a key with points. -/
  | dotted
  /-- By its own header. -/
  | headed
  deriving DecidableEq, Repr

inductive Node where
  | value (d : Document)
  | table (origin : Origin) (members : List (String × Node))
  /-- A table for each time that the header was repeated, the current one apart. -/
  | tables (earlier : List (List (String × Node))) (current : List (String × Node))

abbrev Members := List (String × Node)

def replace (key : String) (node : Node) (ms : Members) : Members :=
  ms.map fun (k, n) => if k = key then (k, node) else (k, n)

/-- Assigns a value to a path; nothing is assigned twice.  A key with points goes through tables
that have no header of their own and through the latest of repeated tables, and ends in a table that
such keys have made. -/
def assign? (value : Document) : Path → Members → Option Members
  | [], _ => none
  | [key], ms => if (ms.lookup key).isSome then none else some (ms ++ [(key, .value value)])
  | key :: rest, ms =>
    let isLast := rest.length == 1
    match ms.lookup key with
    | none => (assign? value rest []).map fun inner => ms ++ [(key, .table .dotted inner)]
    | some (.table .dotted inner) =>
      (assign? value rest inner).map fun inner => replace key (.table .dotted inner) ms
    | some (.table .implied inner) =>
      if isLast then none
      else (assign? value rest inner).map fun inner => replace key (.table .implied inner) ms
    | some (.tables earlier current) =>
      if isLast then none
      else (assign? value rest current).map fun current => replace key (.tables earlier current) ms
    | some _ => none

/-- Goes down a path that headers have made, to the latest of repeated tables. -/
def within? (change : Members → Option Members) : Path → Members → Option Members
  | [], ms => change ms
  | key :: rest, ms =>
    match ms.lookup key with
    | some (.table origin inner) =>
      (within? change rest inner).map fun inner => replace key (.table origin inner) ms
    | some (.tables earlier current) =>
      (within? change rest current).map fun current => replace key (.tables earlier current) ms
    | _ => none

/-- Makes the table of a header, with those around it; `last?` says what becomes of its node. -/
def open? (last? : Option Node → Option Node) : Path → Members → Option Members
  | [], _ => none
  | [key], ms =>
    match ms.lookup key with
    | none => (last? none).map fun node => ms ++ [(key, node)]
    | some node => (last? (some node)).map fun node => replace key node ms
  | key :: rest, ms =>
    match ms.lookup key with
    | none => (open? last? rest []).map fun inner => ms ++ [(key, .table .implied inner)]
    | some (.table origin inner) =>
      (open? last? rest inner).map fun inner => replace key (.table origin inner) ms
    | some (.tables earlier current) =>
      (open? last? rest current).map fun current => replace key (.tables earlier current) ms
    | some (.value _) => none

def headed? : Option Node → Option Node
  | none => some (.table .headed [])
  | some (.table .implied inner) => some (.table .headed inner)
  | some _ => none

def repeated? : Option Node → Option Node
  | none => some (.tables [] [])
  | some (.tables earlier current) => some (.tables (earlier ++ [current]) [])
  | some _ => none

mutual

def Node.document : Node → Document
  | .value d => d
  | .table _ ms => .obj (membersDocument ms)
  | .tables earlier current => .arr (tablesDocument earlier ++ [.obj (membersDocument current)])

def membersDocument : List (String × Node) → List (Option String × Document)
  | [] => []
  | (k, n) :: rest => (some k, n.document) :: membersDocument rest

def tablesDocument : List (List (String × Node)) → List Document
  | [] => []
  | ms :: rest => .obj (membersDocument ms) :: tablesDocument rest

end

def isScalarChar (c : Char) : Bool :=
  c.isAlphanum || c == '_' || c == '+' || c == '-' || c == '.' || c == ':'

/-- The characters of a scalar; a blank between date and time is one of them. -/
def scalarChars (cs : Chars) : Chars :=
  let first := cs.takeWhile isScalarChar
  match cs.dropWhile isScalarChar with
  | ' ' :: d :: rest =>
    if (date? first).any (·.2.isEmpty) ∧ d.isDigit then
      first ++ ' ' :: (d :: rest).takeWhile isScalarChar
    else first
  | _ => first

def maxNesting : Nat := 80

mutual

def value? : (fuel nesting : Nat) → Chars → Option (Document × Chars)
  | 0, _, _ => none
  | fuel + 1, nesting, cs =>
    match cs with
    | '[' :: rest => if nesting = 0 then none else items? fuel (nesting - 1) [] (skipBlank rest)
    | '\x7b' :: rest => if nesting = 0 then none else pairs? fuel (nesting - 1) [] (skipBlank rest)
    | '"' :: _ | '\'' :: _ => (string? cs).map fun (s, rest) => (.str s, rest)
    | _ =>
      let chars := scalarChars cs
      (scalar? chars).map (·, cs.drop chars.length)

def items? : (fuel nesting : Nat) → List Document → Chars → Option (Document × Chars)
  | 0, _, _, _ => none
  | fuel + 1, nesting, found, cs =>
    match cs with
    | ']' :: rest => some (.arr found, rest)
    | _ => do
      let (d, rest) ← value? fuel nesting cs
      match skipBlank rest with
      | ',' :: rest => items? fuel nesting (found ++ [d]) (skipBlank rest)
      | ']' :: rest => some (.arr (found ++ [d]), rest)
      | _ => none

def pairs? : (fuel nesting : Nat) → Members → Chars → Option (Document × Chars)
  | 0, _, _, _ => none
  | fuel + 1, nesting, found, cs =>
    match cs with
    | '\x7d' :: rest => some (.obj (membersDocument found), rest)
    | _ => do
      let (path, rest) ← path? cs
      let rest ← Instant.mark? (· == '=') rest
      let (d, rest) ← value? fuel nesting (skipSpace rest)
      let found ← assign? d path found
      match skipBlank rest with
      | ',' :: rest => pairs? fuel nesting found (skipBlank rest)
      | '\x7d' :: rest => some (.obj (membersDocument found), rest)
      | _ => none

end

/-- TOML has no null, so an empty table or array stands for it. -/
def dialect : Json.Dialect where
  isNothing
    | .obj [] | .arr [] => true
    | _ => false
  longRecords := true
  readsIgnored := true

/-- What has been read: all tables, and the path of the table that assignments go to. -/
structure State where
  root : Members := []
  current : Path := []

def statement? (s : State) (cs : Chars) : Option (State × Chars) :=
  match cs with
  | '[' :: '[' :: rest => do
    let (path, rest) ← path? rest
    match rest with
    | ']' :: ']' :: rest => some (⟨← open? repeated? path s.root, path⟩, rest)
    | _ => none
  | '[' :: rest => do
    let (path, rest) ← path? rest
    match rest with
    | ']' :: rest => some (⟨← open? headed? path s.root, path⟩, rest)
    | _ => none
  | _ => do
    let (path, rest) ← path? cs
    let rest ← Instant.mark? (· == '=') rest
    let (d, rest) ← value? (rest.length + 1) maxNesting (skipSpace rest)
    some ({ s with root := ← within? (assign? d path) s.current s.root }, rest)

def statements? : (fuel : Nat) → State → Chars → Option State
  | 0, s, cs => if cs.isEmpty then some s else none
  | fuel + 1, s, cs =>
    match skipComment (skipBlank cs) with
    | [] => some s
    | cs => do
      let (s, rest) ← statement? s cs
      statements? fuel s (← endOfLine? rest)

def byteOrderMark : Char := '\ufeff'

def read? (text : String) : Option Document :=
  let cs := text.toList
  let cs := if cs.head? = some byteOrderMark then cs.drop 1 else cs
  (statements? (cs.length + 1) {} cs).map fun s => .obj (membersDocument s.root)

end ModelGateway.Toml
