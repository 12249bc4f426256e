import ModelGateway.Text.Search

/-!
# Request targets

What a request is for.  A target is a path from a slash on, with a query; or an address with scheme
and authority, whose path may be missing; or an authority alone, or an asterisk.  A fragment is no
part of it.
-/

namespace ModelGateway

structure Target where
  /-- The path as it was sent, with its percent signs. -/
  path : String
  query : String
  deriving DecidableEq, Repr

namespace Target

/-- Beside letters, digits and marks, the characters of other scripts. -/
def isPathChar (c : Char) : Bool :=
  0x20 < c.toNat && !"<>\x60".toList.contains c

def isQueryChar (c : Char) : Bool :=
  0x20 < c.toNat && !"\"<>".toList.contains c

/-- A path and the query after its first question mark.  An empty path is the root. -/
def ofPath? (cs : List Char) : Option Target :=
  let (path, query) := (cs.takeWhile (· != '#')).span (· != '?')
  if path.all isPathChar && (query.drop 1).all isQueryChar then
    some ⟨if path.isEmpty then "/" else String.ofList path, String.ofList (query.drop 1)⟩
  else none

/-- The state of the reader of an authority, since its last `@`. -/
structure AuthorityState where
  colons : Nat := 0
  opened : Bool := false
  closed : Bool := false
  /-- A percent sign belongs into a user or between brackets. -/
  percent : Bool := false
  /-- The last character was an `@`. -/
  atUser : Bool := false
  deriving DecidableEq, Repr

namespace AuthorityState

def maxColons : Nat := 8

def isPlain (c : Char) : Bool :=
  c.isAlphanum || "!$&'()*+,-.;=_~".toList.contains c

def step (s : AuthorityState) (c : Char) : Option AuthorityState :=
  let s := { s with atUser := c == '@' }
  match c with
  | ':' => if maxColons ≤ s.colons then none else some { s with colons := s.colons + 1 }
  | '[' => if s.percent || s.opened then none else some { s with opened := true }
  | ']' =>
    if !s.opened || s.closed then none
    else some { s with closed := true, colons := 0, percent := false }
  | '@' => some { s with colons := 0, percent := false }
  | '%' => some { s with percent := true }
  | c => if isPlain c then some s else none

/-- Whether an authority may end here: the host has at most one colon after it, for a port. -/
def isEnd (s : AuthorityState) : Bool :=
  s.opened == s.closed && s.colons ≤ 1 && !s.atUser && !s.percent

end AuthorityState

def isAuthority (cs : List Char) : Bool :=
  (cs.foldlM AuthorityState.step {}).any AuthorityState.isEnd

def maxScheme : Nat := 64

def isSchemeChar (c : Char) : Bool :=
  c.isAlphanum || c == '+' || c == '-' || c == '.' || c == '~'

def endsAuthority (c : Char) : Bool :=
  c == '/' || c == '?' || c == '#'

def ofAddress? (cs : List Char) : Option Target :=
  let (scheme, rest) := cs.span isSchemeChar
  match rest with
  | ':' :: '/' :: '/' :: rest =>
    let (authority, path) := rest.span (!endsAuthority ·)
    if scheme.length ≤ maxScheme && !authority.isEmpty && isAuthority authority then ofPath? path
    else none
  | _ => if isAuthority cs then some ⟨"", ""⟩ else none

def maxLength : Nat := 65534

def parse? (text : String) : Option Target :=
  if maxLength < text.utf8ByteSize then none
  else
    match text.toList with
    | [] => none
    | ['*'] => some ⟨"*", ""⟩
    | '/' :: rest => ofPath? ('/' :: rest)
    | cs => ofAddress? cs

end Target

end ModelGateway
