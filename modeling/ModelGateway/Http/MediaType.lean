import ModelGateway.Text.Search

/-!
# Media types

What a content type says: a type, a subtype, a suffix after the last plus sign of the subtype, and
parameters.  Parameters follow semicolons, and must be well formed though nobody reads them.
-/

namespace ModelGateway

structure MediaType where
  type : String
  subtype : String
  suffix : Option String
  deriving DecidableEq, Repr

namespace MediaType

open Text (isToken)

/-- The state of the reader of parameters. -/
inductive ParameterState where
  | beforeName
  | inName
  | beforeValue
  | inValue
  /-- Right after an opening quote; a quote here belongs to the value. -/
  | openedQuote
  | inQuote
  | closedQuote
  deriving DecidableEq, Repr

def isQuotable (c : Char) : Bool :=
  0x20 ≤ c.toNat && c.toNat != 0x7F

namespace ParameterState

def step (s : ParameterState) (c : Char) : Option ParameterState :=
  match s with
  | .beforeName => if c = ' ' then some .beforeName else if isToken c then some .inName else none
  | .inName => if isToken c then some .inName else if c = '=' then some .beforeValue else none
  | .beforeValue => if c = '"' then some .openedQuote else if isToken c then some .inValue else none
  | .inValue => if isToken c then some .inValue else if c = ';' then some .beforeName else none
  | .openedQuote => if isQuotable c then some .inQuote else none
  | .inQuote => if c = '"' then some .closedQuote else if isQuotable c then some .inQuote else none
  | .closedQuote =>
    if c = ' ' then some .closedQuote else if c = ';' then some .beforeName else none

def isEnd : ParameterState → Bool
  | .beforeName | .beforeValue | .inValue | .closedQuote => true
  | .inName | .openedQuote | .inQuote => false

end ParameterState

def areParameters (cs : List Char) : Bool :=
  (cs.foldlM ParameterState.step .beforeName).any ParameterState.isEnd

/-- A subtype and its suffix.  A plus sign that comes first starts no suffix. -/
def splitSuffix (subtype : List Char) : String × Option String :=
  match subtype with
  | [] => ("", none)
  | c :: rest =>
    match Text.splitAtLast? ['+'] rest with
    | some (before, after) => (String.ofList (c :: before), some (String.ofList after))
    | none => (String.ofList subtype, none)

def parse? (value : String) : Option MediaType := do
  let (type, rest) := (Text.lowerAscii value).toList.span isToken
  if type.isEmpty || rest.head? != some '/' then none
  let (subtype, parameters) := (rest.drop 1).span isToken
  let (subtype', suffix) := splitSuffix subtype
  let mediaType : MediaType := ⟨String.ofList type, subtype', suffix⟩
  match parameters with
  | [] => some mediaType
  | mark :: parameters =>
    if !subtype.isEmpty && mark = ';' && areParameters parameters then some mediaType else none

def isJson (t : MediaType) : Bool :=
  t.type == "application" && (t.subtype == "json" || t.suffix == some "json")

end MediaType

end ModelGateway
