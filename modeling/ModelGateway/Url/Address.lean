import ModelGateway.Text.CodePoints
import ModelGateway.Text.Search

/-!
# Numeric addresses

The numbers of an IPv4 address in any of its written forms, and the pieces of an IPv6 address.  Each
address has one text: four decimal numbers, or hexadecimal pieces of which the first longest run of
two or more zeros is left out.
-/

namespace ModelGateway.Url

def valueIn? (base : Nat) (cs : List Char) : Option Nat :=
  cs.foldlM (fun n c => do
    let d ← Text.hexDigit? c
    if d < base then some (n * base + d) else none) 0

/-- A number in base sixteen after `0x`, in base eight after another zero, else in base ten. -/
def ipv4Number? : List Char → Option Nat
  | [] => none
  | '0' :: 'x' :: rest | '0' :: 'X' :: rest => valueIn? 16 rest
  | '0' :: c :: rest => valueIn? 8 (c :: rest)
  | cs => valueIn? 10 cs

def dropEmptyLast (parts : List (List Char)) : List (List Char) :=
  if parts.getLast? = some [] then parts.dropLast else parts

def endsInNumber (host : List Char) : Bool :=
  let parts := Text.splitChars '.' host
  let last := (dropEmptyLast parts).getLast?.getD []
  (!last.isEmpty && last.all Char.isDigit) || (ipv4Number? last).isSome

/-- The address of up to four numbers, the last of which fills the places left over. -/
def ipv4? (host : List Char) : Option Nat := do
  let parts := dropEmptyLast (Text.splitChars '.' host)
  if 4 < parts.length then none
  let numbers ← parts.mapM ipv4Number?
  let last ← numbers.getLast?
  let front := numbers.dropLast
  if Nat.pow 256 (4 - front.length) ≤ last ∨ front.any (255 < ·) then none
  some (front.zipIdx.foldl (fun n (part, i) => n + part * Nat.pow 256 (3 - i)) last)

def ipv4Text (address : Nat) : String :=
  Nat.repr (address / 0x1000000) ++ "." ++ Nat.repr (address / 0x10000 % 256) ++ "." ++
    Nat.repr (address / 0x100 % 256) ++ "." ++ Nat.repr (address % 256)

def hexPiece? (cs : List Char) : Option Nat :=
  if cs.isEmpty ∨ 4 < cs.length then none else valueIn? 16 cs

def embeddedIpv4? (cs : List Char) : Option (List Nat) := do
  let numbers ← (Text.splitChars '.' cs).mapM fun part => do
    if 1 < part.length ∧ part.head? = some '0' then none
    let n ← Text.digitsValue? part
    if 255 < n then none else some n
  match numbers with
  | [a, b, c, d] => some [a * 256 + b, c * 256 + d]
  | _ => none

def ipv6Side? (cs : List Char) : Option (List Nat) :=
  if cs.isEmpty then some []
  else do
    let parts := Text.splitChars ':' cs
    let last := parts.getLast?.getD []
    let front ← parts.dropLast.mapM hexPiece?
    let tail ← if last.contains '.' then embeddedIpv4? last else (hexPiece? last).map ([·])
    some (front ++ tail)

/-- The eight pieces of an address; one gap of two colons stands for one or more zeros. -/
def ipv6? (cs : List Char) : Option (List Nat) :=
  match Text.splitAtFirst? [':', ':'] cs with
  | none => do
    let pieces ← ipv6Side? cs
    if pieces.length = 8 then some pieces else none
  | some (before, after) => do
    let front ← if before.contains '.' then none else ipv6Side? before
    let tail ← ipv6Side? after
    if front.length + tail.length < 8 then
      some (front ++ List.replicate (8 - front.length - tail.length) 0 ++ tail)
    else none

def zeroRuns : List Nat → List Nat
  | [] => []
  | p :: rest =>
    let later := zeroRuns rest
    (if p = 0 then later.headD 0 + 1 else 0) :: later

def hexText (n : Nat) : String :=
  String.ofList (Nat.toDigits 16 n)

def ipv6Text (pieces : List Nat) : String :=
  let runs := zeroRuns pieces
  let longest := runs.foldl max 0
  if longest < 2 then ":".intercalate (pieces.map hexText)
  else
    let start := runs.findIdx (· == longest)
    ":".intercalate ((pieces.take start).map hexText) ++ "::" ++
      ":".intercalate ((pieces.drop (start + longest)).map hexText)

end ModelGateway.Url
