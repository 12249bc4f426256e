import ModelGateway.Text.Lines
import ModelGateway.Text.Utf8
import ModelGateway.Url.Address

/-!
# Percent-encoding

In a path and in a query an octet may be written as a percent sign and two hexadecimal digits.  A
percent sign without two digits after it stands for itself.  A query is a form: pairs between
ampersands, name and value around the first equals sign, with a plus sign for each space.
-/

namespace ModelGateway.Url

def hexOctet? (b : UInt8) : Option Nat :=
  Text.hexDigit? (Char.ofNat b.toNat)

def percentDecode : Bytes → Bytes
  | 0x25 :: high :: low :: rest =>
    match hexOctet? high, hexOctet? low with
    | some h, some l => (h * 16 + l).toUInt8 :: percentDecode rest
    | _, _ => 0x25 :: percentDecode (high :: low :: rest)
  | b :: rest => b :: percentDecode rest
  | [] => []

def isControl (b : UInt8) : Bool := b < 0x20 || 0x7F ≤ b

/-- The text with some of its octets, none of which is part of a longer character, escaped. -/
def percentEncode (escaped : UInt8 → Bool) (s : String) : String :=
  let digit (n : Nat) : Char := (Nat.digitChar n).toUpper
  String.ofList ((Utf8.encode s).flatMap fun b =>
    if escaped b then ['%', digit (b.toNat / 16), digit (b.toNat % 16)]
    else [Char.ofNat b.toNat])

def pathText? (piece : String) : Option String :=
  Utf8.decode? (percentDecode (Utf8.encode piece))

def formText (piece : List Char) : String :=
  let spaced := piece.map fun c => if c = '+' then ' ' else c
  Utf8.decodeLossy (percentDecode (Utf8.encode (String.ofList spaced)))

def formPair (pair : List Char) : String × String :=
  let (name, value) := pair.span (· != '=')
  (formText name, formText (value.drop 1))

def formPairs (form : String) : List (String × String) :=
  ((Text.splitChars '&' form.toList).filter (!·.isEmpty)).map formPair

end ModelGateway.Url
