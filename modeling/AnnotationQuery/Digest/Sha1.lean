/-!
# SHA-1

The Secure Hash Algorithm of FIPS 180-4 with 160 bits: the message is padded to blocks of 64 bytes,
and each block stirs a state of five words in 80 rounds.

* `Sha1.hex`: the digest of a byte string as 40 hexadecimal digits.
-/

namespace AnnotationQuery.Sha1

/-- The state between two blocks. -/
structure State where
  a : UInt32
  b : UInt32
  c : UInt32
  d : UInt32
  e : UInt32
deriving DecidableEq, Repr

/-- The state before the first block. -/
def State.initial : State :=
  ⟨0x67452301, 0xEFCDAB89, 0x98BADCFE, 0x10325476, 0xC3D2E1F0⟩

def rotateLeft (x n : UInt32) : UInt32 :=
  (x <<< n) ||| (x >>> (32 - n))

/-! ## Padding -/

/-- The bytes of a number in big-endian order. -/
def bytesOf (count n : Nat) : List UInt8 :=
  (List.range count).reverse.map fun i => (n / Nat.pow 256 i).toUInt8

/-- The message with a one bit, zeros and its length in bits, filling whole blocks. -/
def padded (message : List UInt8) : List UInt8 :=
  let zeros := (119 - message.length % 64) % 64
  message ++ 0x80 :: List.replicate zeros 0 ++ bytesOf 8 (8 * message.length)

/-- The words of four bytes each. -/
def words : List UInt8 → List UInt32
  | a :: b :: c :: d :: rest =>
    ((a.toUInt32 <<< 24) ||| (b.toUInt32 <<< 16) ||| (c.toUInt32 <<< 8) ||| d.toUInt32) ::
      words rest
  | _ => []

/-! ## Rounds -/

/-- Appends the next word of the message schedule. -/
def extend (schedule : Array UInt32) : Array UInt32 :=
  let word (back : Nat) : UInt32 := schedule.getD (schedule.size - back) 0
  schedule.push (rotateLeft (word 3 ^^^ word 8 ^^^ word 14 ^^^ word 16) 1)

/-- The 80 words that a block is stirred with. -/
def schedule (block : List UInt32) : List UInt32 :=
  (Nat.repeat extend 64 block.toArray).toList

/-- The function of round `t` on three words of the state, with its constant. -/
def roundFunction (t : Nat) (b c d : UInt32) : UInt32 × UInt32 :=
  if t < 20 then ((b &&& c) ||| (~~~b &&& d), 0x5A827999)
  else if t < 40 then (b ^^^ c ^^^ d, 0x6ED9EBA1)
  else if t < 60 then ((b &&& c) ||| (b &&& d) ||| (c &&& d), 0x8F1BBCDC)
  else (b ^^^ c ^^^ d, 0xCA62C1D6)

/-- One round. -/
def round (s : State) (step : UInt32 × Nat) : State :=
  let (f, k) := roundFunction step.2 s.b s.c s.d
  ⟨rotateLeft s.a 5 + f + s.e + k + step.1, s.a, rotateLeft s.b 30, s.c, s.d⟩

/-- Stirs one block into the state. -/
def compress (s : State) (block : List UInt32) : State :=
  let t := (schedule block).zipIdx.foldl round s
  ⟨s.a + t.a, s.b + t.b, s.c + t.c, s.d + t.d, s.e + t.e⟩

/-- Splits the words into blocks of sixteen; the first argument bounds their number. -/
def blocks : Nat → List UInt32 → List (List UInt32)
  | 0, _ => []
  | _, [] => []
  | count + 1, ws => ws.take 16 :: blocks count (ws.drop 16)

/-- The state behind the last block of a message. -/
def digest (message : List UInt8) : State :=
  let ws := words (padded message)
  (blocks ws.length ws).foldl compress .initial

/-! ## Text -/

/-- The eight hexadecimal digits of a word. -/
def wordHex (w : UInt32) : List Char :=
  (List.range 8).reverse.map fun i => Nat.digitChar (w.toNat / Nat.pow 16 i % 16)

/-- The digest of a message as hexadecimal digits. -/
def hex (message : List UInt8) : String :=
  let s := digest message
  String.ofList ([s.a, s.b, s.c, s.d, s.e].flatMap wordHex)

end AnnotationQuery.Sha1
