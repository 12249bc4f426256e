/-!
# UTF-8

Octets and text.  `Utf8.first` and `Pending.next` are the machine of RFC 3629: one octet at a time,
refusing at the first octet that rules the text out.  Three readers run it: `decode?` wants the
whole input well formed, `decodeLossy` writes U+FFFD for each longest piece that no character starts
with, and `decodePrefix` keeps what comes before the first fault.
-/

namespace ModelGateway

abbrev Bytes := List UInt8

namespace Utf8

/-- A character that has begun: the bits read so far, the octets still owed, and the bounds of the
next octet. -/
structure Pending where
  value : Nat
  owed : Nat
  low : Nat
  high : Nat
  deriving DecidableEq, Repr

inductive Step where
  | emit (c : Char)
  | await (p : Pending)
  | refuse
  deriving DecidableEq, Repr

def first (octet : UInt8) : Step :=
  let b := octet.toNat
  if b < 0x80 then .emit (Char.ofNat b)
  else if b < 0xC2 then .refuse
  else if b < 0xE0 then .await ⟨b - 0xC0, 1, 0x80, 0xBF⟩
  else if b = 0xE0 then .await ⟨0, 2, 0xA0, 0xBF⟩
  else if b = 0xED then .await ⟨0xD, 2, 0x80, 0x9F⟩
  else if b < 0xF0 then .await ⟨b - 0xE0, 2, 0x80, 0xBF⟩
  else if b = 0xF0 then .await ⟨0, 3, 0x90, 0xBF⟩
  else if b < 0xF4 then .await ⟨b - 0xF0, 3, 0x80, 0xBF⟩
  else if b = 0xF4 then .await ⟨4, 3, 0x80, 0x8F⟩
  else .refuse

def Pending.next (p : Pending) (octet : UInt8) : Step :=
  let b := octet.toNat
  if p.low ≤ b ∧ b ≤ p.high then
    let value := p.value * 64 + (b - 0x80)
    if p.owed ≤ 1 then .emit (Char.ofNat value)
    else .await ⟨value, p.owed - 1, 0x80, 0xBF⟩
  else .refuse

def replacement : Char := '\ufffd'

def decodeFrom? : Option Pending → Bytes → Option (List Char)
  | none, [] => some []
  | some _, [] => none
  | none, b :: rest =>
    match first b with
    | .emit c => (decodeFrom? none rest).map (c :: ·)
    | .await p => decodeFrom? (some p) rest
    | .refuse => none
  | some p, b :: rest =>
    match p.next b with
    | .emit c => (decodeFrom? none rest).map (c :: ·)
    | .await q => decodeFrom? (some q) rest
    | .refuse => none

def decode? (input : Bytes) : Option String :=
  (decodeFrom? none input).map String.ofList

def lossyFrom : Option Pending → Bytes → List Char
  | none, [] => []
  | some _, [] => [replacement]
  | none, b :: rest =>
    match first b with
    | .emit c => c :: lossyFrom none rest
    | .await p => lossyFrom (some p) rest
    | .refuse => replacement :: lossyFrom none rest
  | some p, b :: rest =>
    match p.next b with
    | .emit c => c :: lossyFrom none rest
    | .await q => lossyFrom (some q) rest
    | .refuse =>
      replacement ::
        match first b with
        | .emit c => c :: lossyFrom none rest
        | .await q => lossyFrom (some q) rest
        | .refuse => replacement :: lossyFrom none rest

/-- The text of any octets, with U+FFFD for every piece that cannot be read. -/
def decodeLossy (input : Bytes) : String :=
  String.ofList (lossyFrom none input)

def prefixFrom : Option Pending → Bytes → List Char
  | _, [] => []
  | none, b :: rest =>
    match first b with
    | .emit c => c :: prefixFrom none rest
    | .await p => prefixFrom (some p) rest
    | .refuse => []
  | some p, b :: rest =>
    match p.next b with
    | .emit c => c :: prefixFrom none rest
    | .await q => prefixFrom (some q) rest
    | .refuse => []

def decodePrefix (input : Bytes) : List Char :=
  prefixFrom none input

def encode (text : String) : Bytes :=
  text.toUTF8.toList

end Utf8

end ModelGateway
