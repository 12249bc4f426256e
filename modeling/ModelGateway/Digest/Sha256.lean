import ModelGateway.Text.Utf8

/-!
# SHA-256

The digest of octets, in 32-bit words.  The message is padded to blocks of sixteen words; each block
is expanded to a schedule of 64 words, and each word of the schedule turns the working variables
once.
-/

namespace ModelGateway.Digest

abbrev Word := UInt32

def rotateRight (x : Word) (n : Word) : Word :=
  (x >>> n) ||| (x <<< (32 - n))

def choose (x y z : Word) : Word :=
  (x &&& y) ^^^ (~~~x &&& z)

def majority (x y z : Word) : Word :=
  (x &&& y) ^^^ (x &&& z) ^^^ (y &&& z)

def bigSigma0 (x : Word) : Word := rotateRight x 2 ^^^ rotateRight x 13 ^^^ rotateRight x 22

def bigSigma1 (x : Word) : Word := rotateRight x 6 ^^^ rotateRight x 11 ^^^ rotateRight x 25

def smallSigma0 (x : Word) : Word := rotateRight x 7 ^^^ rotateRight x 18 ^^^ (x >>> 3)

def smallSigma1 (x : Word) : Word := rotateRight x 17 ^^^ rotateRight x 19 ^^^ (x >>> 10)

def roundConstants : List Word :=
  [0x428a2f98, 0x71374491, 0xb5c0fbcf, 0xe9b5dba5, 0x3956c25b, 0x59f111f1, 0x923f82a4, 0xab1c5ed5,
    0xd807aa98, 0x12835b01, 0x243185be, 0x550c7dc3, 0x72be5d74, 0x80deb1fe, 0x9bdc06a7, 0xc19bf174,
    0xe49b69c1, 0xefbe4786, 0x0fc19dc6, 0x240ca1cc, 0x2de92c6f, 0x4a7484aa, 0x5cb0a9dc, 0x76f988da,
    0x983e5152, 0xa831c66d, 0xb00327c8, 0xbf597fc7, 0xc6e00bf3, 0xd5a79147, 0x06ca6351, 0x14292967,
    0x27b70a85, 0x2e1b2138, 0x4d2c6dfc, 0x53380d13, 0x650a7354, 0x766a0abb, 0x81c2c92e, 0x92722c85,
    0xa2bfe8a1, 0xa81a664b, 0xc24b8b70, 0xc76c51a3, 0xd192e819, 0xd6990624, 0xf40e3585, 0x106aa070,
    0x19a4c116, 0x1e376c08, 0x2748774c, 0x34b0bcb5, 0x391c0cb3, 0x4ed8aa4a, 0x5b9cca4f, 0x682e6ff3,
    0x748f82ee, 0x78a5636f, 0x84c87814, 0x8cc70208, 0x90befffa, 0xa4506ceb, 0xbef9a3f7, 0xc67178f2]

structure Working where
  a : Word
  b : Word
  c : Word
  d : Word
  e : Word
  f : Word
  g : Word
  h : Word
  deriving DecidableEq, Repr

def Working.initial : Working :=
  ⟨0x6a09e667, 0xbb67ae85, 0x3c6ef372, 0xa54ff53a, 0x510e527f, 0x9b05688c, 0x1f83d9ab, 0x5be0cd19⟩

def Working.add (v w : Working) : Working :=
  ⟨v.a + w.a, v.b + w.b, v.c + w.c, v.d + w.d, v.e + w.e, v.f + w.f, v.g + w.g, v.h + w.h⟩

/-- The message, a bit, zeros and the length in bits, in blocks of 64 octets. -/
def padded (message : Bytes) : Bytes :=
  let zeros := (55 + 64 - message.length % 64) % 64
  let bits := message.length * 8
  message ++ 0x80 :: (List.replicate zeros 0 ++
    [56, 48, 40, 32, 24, 16, 8, 0].map fun shift : Nat => (bits >>> shift).toUInt8)

def wordsOf : Bytes → List Word
  | a :: b :: c :: d :: rest =>
    (a.toUInt32 <<< 24 ||| b.toUInt32 <<< 16 ||| c.toUInt32 <<< 8 ||| d.toUInt32) :: wordsOf rest
  | _ => []

def nextWord (latest : List Word) : Word :=
  smallSigma1 (latest.getD 1 0) + latest.getD 6 0 + smallSigma0 (latest.getD 14 0) +
    latest.getD 15 0

def extend : (count : Nat) → (latest : List Word) → List Word
  | 0, latest => latest
  | count + 1, latest => extend count (nextWord latest :: latest)

def schedule (block : List Word) : List Word :=
  (extend 48 block.reverse).reverse

def turn (v : Working) (k w : Word) : Working :=
  let t1 := v.h + bigSigma1 v.e + choose v.e v.f v.g + k + w
  let t2 := bigSigma0 v.a + majority v.a v.b v.c
  ⟨t1 + t2, v.a, v.b, v.c, v.d + t1, v.e, v.f, v.g⟩

def compress (v : Working) (block : List Word) : Working :=
  v.add ((roundConstants.zip (schedule block)).foldl (fun v (k, w) => turn v k w) v)

/-- Takes in blocks of sixteen words; `blocks` bounds how many there are. -/
def absorb : (blocks : Nat) → Working → List Word → Working
  | 0, v, _ => v
  | blocks + 1, v, words =>
    if words.isEmpty then v else absorb blocks (compress v (words.take 16)) (words.drop 16)

def octetsOf (w : Word) : Bytes :=
  [(w >>> 24).toUInt8, (w >>> 16).toUInt8, (w >>> 8).toUInt8, w.toUInt8]

def Working.octets (v : Working) : Bytes :=
  [v.a, v.b, v.c, v.d, v.e, v.f, v.g, v.h].flatMap octetsOf

def sha256 (message : Bytes) : Bytes :=
  let words := wordsOf (padded message)
  (absorb (words.length / 16) .initial words).octets

def hex (octets : Bytes) : String :=
  let digit (n : Nat) : Char := if n < 10 then Char.ofNat (48 + n) else Char.ofNat (87 + n)
  String.ofList (octets.flatMap fun b => [digit (b.toNat / 16), digit (b.toNat % 16)])

end ModelGateway.Digest
