import Admission.Bytes

/-!
# SHA-256

The 256-bit secure hash of a byte string: the message is padded to whole blocks of 64 bytes with
its length in bits at the end, and every block is mixed into eight chaining words by 64 rounds.
-/

namespace Admission.Digest.Sha256

/-- The eight words carried from block to block. -/
structure State where
  (a b c d e f g h : UInt32)

namespace State

def initial : State :=
  ⟨0x6a09e667, 0xbb67ae85, 0x3c6ef372, 0xa54ff53a, 0x510e527f, 0x9b05688c, 0x1f83d9ab, 0x5be0cd19⟩

/-- Wordwise sum. -/
def add (s t : State) : State :=
  ⟨s.a + t.a, s.b + t.b, s.c + t.c, s.d + t.d, s.e + t.e, s.f + t.f, s.g + t.g, s.h + t.h⟩

def toBytes (s : State) : Bytes :=
  [s.a, s.b, s.c, s.d, s.e, s.f, s.g, s.h].flatMap fun w => Bytes.bigEndian 4 w.toNat

@[simp] theorem length_toBytes (s : State) : s.toBytes.length = 32 := by
  simp [toBytes]

end State

/-- The round constants. -/
def constants : List UInt32 := [
  0x428a2f98, 0x71374491, 0xb5c0fbcf, 0xe9b5dba5, 0x3956c25b, 0x59f111f1, 0x923f82a4, 0xab1c5ed5,
  0xd807aa98, 0x12835b01, 0x243185be, 0x550c7dc3, 0x72be5d74, 0x80deb1fe, 0x9bdc06a7, 0xc19bf174,
  0xe49b69c1, 0xefbe4786, 0x0fc19dc6, 0x240ca1cc, 0x2de92c6f, 0x4a7484aa, 0x5cb0a9dc, 0x76f988da,
  0x983e5152, 0xa831c66d, 0xb00327c8, 0xbf597fc7, 0xc6e00bf3, 0xd5a79147, 0x06ca6351, 0x14292967,
  0x27b70a85, 0x2e1b2138, 0x4d2c6dfc, 0x53380d13, 0x650a7354, 0x766a0abb, 0x81c2c92e, 0x92722c85,
  0xa2bfe8a1, 0xa81a664b, 0xc24b8b70, 0xc76c51a3, 0xd192e819, 0xd6990624, 0xf40e3585, 0x106aa070,
  0x19a4c116, 0x1e376c08, 0x2748774c, 0x34b0bcb5, 0x391c0cb3, 0x4ed8aa4a, 0x5b9cca4f, 0x682e6ff3,
  0x748f82ee, 0x78a5636f, 0x84c87814, 0x8cc70208, 0x90befffa, 0xa4506ceb, 0xbef9a3f7, 0xc67178f2]

/-- Rotation to the right by `n` bits, for `0 < n < 32`. -/
def rotateRight (x n : UInt32) : UInt32 :=
  (x >>> n) ||| (x <<< (32 - n))

/-- Appends `todo` words to a schedule, each computed from four earlier ones. -/
def extend : (todo : Nat) → Array UInt32 → Array UInt32
  | 0, w => w
  | todo + 1, w =>
    let near := w.getD (w.size - 2) 0
    let far := w.getD (w.size - 15) 0
    let s0 := rotateRight far 7 ^^^ rotateRight far 18 ^^^ (far >>> 3)
    let s1 := rotateRight near 17 ^^^ rotateRight near 19 ^^^ (near >>> 10)
    extend todo (w.push (w.getD (w.size - 16) 0 + s0 + w.getD (w.size - 7) 0 + s1))

/-- The 64 words that the rounds over a block read: its own sixteen, then 48 computed ones. -/
def schedule (block : Bytes) : Array UInt32 :=
  extend 48 ((Bytes.chunks 3 block).map fun w => (Bytes.toNatBigEndian w).toUInt32).toArray

/-- One round with a constant and a schedule word. -/
def round (s : State) (kw : UInt32 × UInt32) : State :=
  let s1 := rotateRight s.e 6 ^^^ rotateRight s.e 11 ^^^ rotateRight s.e 25
  let choice := (s.e &&& s.f) ^^^ (~~~s.e &&& s.g)
  let t1 := s.h + s1 + choice + kw.1 + kw.2
  let s0 := rotateRight s.a 2 ^^^ rotateRight s.a 13 ^^^ rotateRight s.a 22
  let majority := (s.a &&& s.b) ^^^ (s.a &&& s.c) ^^^ (s.b &&& s.c)
  ⟨t1 + (s0 + majority), s.a, s.b, s.c, s.d + t1, s.e, s.f, s.g⟩

def compress (s : State) (block : Bytes) : State :=
  s.add ((constants.zip (schedule block).toList).foldl round s)

/-- The message, a one bit, zeros up to eight bytes before the end of a block, and the length of
the message in bits. -/
def pad (message : Bytes) : Bytes :=
  message ++ 0x80 :: List.replicate ((119 - message.length % 64) % 64) 0 ++
    Bytes.bigEndian 8 (8 * message.length)

/-- The digest of a message. -/
def hash (message : Bytes) : Bytes :=
  ((Bytes.chunks 63 (pad message)).foldl compress State.initial).toBytes

/-- A digest has 32 bytes. -/
@[simp] theorem length_hash (message : Bytes) : (hash message).length = 32 :=
  State.length_toBytes _

end Admission.Digest.Sha256
