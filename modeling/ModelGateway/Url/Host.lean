import ModelGateway.Url.Domain
import ModelGateway.Url.Percent

/-!
# The host of a URL

`host?` is the host in its normal form: in lower case, without percent escapes, international labels
in their ASCII form, and numeric addresses in their one text.  It is none for a text that is no
absolute URL and for one without a host.
-/

namespace ModelGateway.Url

def isForbidden (c : Char) : Bool :=
  c.toNat ≤ 0x20 || c.toNat == 0x7F || "#/:<>?@[\\]^|%".toList.contains c

def isForbiddenOpaque (c : Char) : Bool :=
  c.toNat == 0 || "\t\n\r #/:<>?@[\\]^|".toList.contains c

def domain? (host : List Char) : Option String := do
  let decoded ← Utf8.decode? (percentDecode (Utf8.encode (String.ofList host)))
  let ascii ← asciiDomain? decoded.toList
  if ascii.isEmpty ∨ ascii.any isForbidden then none
  if endsInNumber ascii then (ipv4? ascii).map ipv4Text else some (String.ofList ascii)

def bracketed? (host : List Char) : Option String :=
  match host with
  | '[' :: rest =>
    if rest.getLast? = some ']' then (ipv6? rest.dropLast).map fun p => "[" ++ ipv6Text p ++ "]"
    else none
  | _ => none

def specialHost? (host : List Char) : Option String :=
  if host.head? = some '[' then bracketed? host else domain? host

def opaqueHost? (host : List Char) : Option String :=
  if host.head? = some '[' then bracketed? host
  else if host.isEmpty ∨ host.any isForbiddenOpaque then none
  else some (percentEncode isControl (String.ofList host))

def isSlash (special : Bool) (c : Char) : Bool :=
  c == '/' || (special && c == '\\')

def endsAuthority (special : Bool) (c : Char) : Bool :=
  isSlash special c || c == '?' || c == '#'

/-- The host of an authority, and the rest from the first colon that stands outside brackets. -/
def splitHost : (inside : Bool) → List Char → List Char × List Char
  | _, [] => ([], [])
  | inside, c :: rest =>
    if c = ':' ∧ ¬ inside then ([], c :: rest)
    else
      let inside := c = '[' ∨ (inside ∧ c ≠ ']')
      let (host, rest) := splitHost inside rest
      (c :: host, rest)

/-- Nothing, or a colon and a number below `2 ^ 16` or none; a backslash ends the number under any
scheme. -/
def isPortNumber : List Char → Bool
  | ':' :: rest =>
    let digits := rest.takeWhile (· != '\\')
    digits.all Char.isDigit && (Text.digitsValue? digits).getD 0 < UInt16.size
  | _ => true

def authorityHost? (special : Bool) (rest : List Char) : Option String :=
  let authority := rest.takeWhile fun c => !endsAuthority special c
  let afterUser :=
    match Text.splitAtLast? ['@'] authority with
    | some (_, host) => host
    | none => authority
  let (host, number) := splitHost false afterUser
  if !isPortNumber number then none
  else if special then (if host.isEmpty then none else specialHost? host)
  else opaqueHost? host

/-- The host of a file URL; an empty one and `localhost` are none. -/
def fileHost? (rest : List Char) : Option String :=
  match rest with
  | a :: b :: rest =>
    if isSlash true a && isSlash true b then
      let host := rest.takeWhile fun c => !endsAuthority true c
      if host.isEmpty then none
      else (specialHost? host).bind fun h => if h = "localhost" then none else some h
    else none
  | _ => none

def scheme? (cs : List Char) : Option (String × List Char) :=
  match cs with
  | c :: _ =>
    let name := cs.takeWhile fun c => c.isAlphanum || c == '+' || c == '-' || c == '.'
    match cs.drop name.length with
    | ':' :: rest => if c.isAlpha then some (String.ofList (name.map Char.toLower), rest) else none
    | _ => none
  | [] => none

def specialSchemes : List String := ["http", "https", "ws", "wss", "ftp"]

/-- The text without control characters and spaces around it, and without tabs and line ends. -/
def normalized (url : String) : List Char :=
  let isEdge (c : Char) : Bool := c.toNat ≤ 0x20
  let trimmed := ((url.toList.dropWhile isEdge).reverse.dropWhile isEdge).reverse
  trimmed.filter fun c => c != '\t' && c != '\n' && c != '\r'

def host? (url : String) : Option String := do
  let (scheme, rest) ← scheme? (normalized url)
  if scheme = "file" then fileHost? rest
  else if scheme ∈ specialSchemes then authorityHost? true (rest.dropWhile (isSlash true))
  else
    match rest with
    | '/' :: '/' :: rest => authorityHost? false rest
    | _ => none

/-- A pattern with a leading full stop is a domain with all below it, any other a host. -/
def matchesPattern (host pattern : String) : Bool :=
  match Text.after? "." pattern with
  | some domain => host == domain || Text.endsWith pattern host
  | none => host == pattern

def bypassesProxy (proxySet : Bool) (patterns : List String) (url : String) : Bool :=
  if !proxySet || patterns.isEmpty then false
  else
    match host? url with
    | some host => patterns.any (matchesPattern (Text.lowerAscii host))
    | none => false

end ModelGateway.Url
