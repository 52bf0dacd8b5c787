import Admission.Bytes

/-!
# BLAKE2b

The unkeyed 64-bit BLAKE2 hash with an output of one to 64 bytes. A message is cut into blocks of
128 bytes, each mixed into eight chaining words by twelve rounds. The output length is part of the
first chaining word, so digests of different lengths share no common start.
-/

namespace Admission.Digest.Blake2b

/-- The initial chaining words. -/
def initial : Vector UInt64 8 := #v[
  0x6a09e667f3bcc908, 0xbb67ae8584caa73b, 0x3c6ef372fe94f82b, 0xa54ff53a5f1d36f1,
  0x510e527fade682d1, 0x9b05688c2b3e6c1f, 0x1f83d9abfb41bd6b, 0x5be0cd19137e2179]

/-- The order in which each of the twelve rounds reads the sixteen message words. -/
def schedules : List (Vector (Fin 16) 16) := [
  #v[0, 1, 2, 3, 4, 5, 6, 7, 8, 9, 10, 11, 12, 13, 14, 15],
  #v[14, 10, 4, 8, 9, 15, 13, 6, 1, 12, 0, 2, 11, 7, 5, 3],
  #v[11, 8, 12, 0, 5, 2, 15, 13, 10, 14, 3, 6, 7, 1, 9, 4],
  #v[7, 9, 3, 1, 13, 12, 11, 14, 2, 6, 5, 10, 4, 0, 15, 8],
  #v[9, 0, 5, 7, 2, 4, 10, 15, 14, 1, 11, 12, 6, 8, 3, 13],
  #v[2, 12, 6, 10, 0, 11, 8, 3, 4, 13, 7, 5, 15, 14, 1, 9],
  #v[12, 5, 1, 15, 14, 13, 4, 10, 0, 7, 6, 3, 9, 2, 8, 11],
  #v[13, 11, 7, 14, 12, 1, 3, 9, 5, 0, 15, 4, 8, 6, 2, 10],
  #v[6, 15, 14, 9, 11, 3, 0, 8, 12, 2, 13, 7, 1, 4, 10, 5],
  #v[10, 2, 8, 4, 7, 6, 1, 5, 15, 11, 9, 14, 3, 12, 13, 0],
  #v[0, 1, 2, 3, 4, 5, 6, 7, 8, 9, 10, 11, 12, 13, 14, 15],
  #v[14, 10, 4, 8, 9, 15, 13, 6, 1, 12, 0, 2, 11, 7, 5, 3]]

/-- Rotation to the right by `n` bits, for `0 < n < 64`. -/
@[inline] def rotateRight (x n : UInt64) : UInt64 :=
  (x >>> n) ||| (x <<< (64 - n))

/-- Mixes two message words into four words of the working state. -/
def mix (v : Vector UInt64 16) (i j k l : Fin 16) (x y : UInt64) : Vector UInt64 16 :=
  let a := v[i] + v[j] + x
  let d := rotateRight (v[l] ^^^ a) 32
  let c := v[k] + d
  let b := rotateRight (v[j] ^^^ c) 24
  let a := a + b + y
  let d := rotateRight (d ^^^ a) 16
  let c := c + d
  let b := rotateRight (b ^^^ c) 63
  (((v.set i a).set j b).set k c).set l d

/-- One round: the four columns of the state, then its four diagonals. -/
def round (m : Vector UInt64 16) (v : Vector UInt64 16) (s : Vector (Fin 16) 16) :
    Vector UInt64 16 :=
  let v := mix v 0 4 8 12 m[s[0]] m[s[1]]
  let v := mix v 1 5 9 13 m[s[2]] m[s[3]]
  let v := mix v 2 6 10 14 m[s[4]] m[s[5]]
  let v := mix v 3 7 11 15 m[s[6]] m[s[7]]
  let v := mix v 0 5 10 15 m[s[8]] m[s[9]]
  let v := mix v 1 6 11 12 m[s[10]] m[s[11]]
  let v := mix v 2 7 8 13 m[s[12]] m[s[13]]
  mix v 3 4 9 14 m[s[14]] m[s[15]]

/-- The sixteen message words of a block; a short block is filled up with zero bytes. -/
def words (block : Bytes) : Vector UInt64 16 :=
  Vector.ofFn fun i => (Bytes.toNatLittleEndian ((block.drop (8 * i)).take 8)).toUInt64

/-- Mixes one block into the chaining words. `count` is the number of message bytes up to and with
this block, `last` tells the final block. -/
def compress (h : Vector UInt64 8) (block : Bytes) (count : Nat) (last : Bool) :
    Vector UInt64 8 :=
  let low := initial[4] ^^^ count.toUInt64
  let high := initial[5] ^^^ (count / UInt64.size).toUInt64
  let flag := if last then initial[6] ^^^ 0xffffffffffffffff else initial[6]
  let v : Vector UInt64 16 := #v[
    h[0], h[1], h[2], h[3], h[4], h[5], h[6], h[7],
    initial[0], initial[1], initial[2], initial[3], low, high, flag, initial[7]]
  let v := schedules.foldl (round (words block)) v
  Vector.ofFn fun i => h[i] ^^^ v[i.val] ^^^ v[i.val + 8]

/-- Mixes the blocks of a message one after the other. -/
def absorb (h : Vector UInt64 8) (count : Nat) : List Bytes → Vector UInt64 8
  | [] => h
  | [block] => compress h block (count + block.length) true
  | block :: next :: rest =>
    absorb (compress h block (count + block.length) false) (count + block.length) (next :: rest)

/-- The blocks of a message: an empty message still has one. -/
def blocks (message : Bytes) : List Bytes :=
  if message.isEmpty then [[]] else Bytes.chunks 127 message

/-- The digest of a message, `length` bytes of at most 64. -/
def hash (length : Nat) (message : Bytes) : Bytes :=
  let first := initial.set 0 (initial[0] ^^^ 0x01010000 ^^^ length.toUInt64)
  ((absorb first 0 (blocks message)).toList.flatMap
    fun w => Bytes.littleEndian 8 w.toNat).take length

theorem length_flatMap_littleEndian (ws : List UInt64) :
    (ws.flatMap fun w => Bytes.littleEndian 8 w.toNat).length = 8 * ws.length := by
  induction ws with
  | nil => rfl
  | cons w ws ih => simp only [List.flatMap_cons, List.length_append, ih,
      Bytes.length_littleEndian, List.length_cons]; omega

/-- A digest has the length asked for. -/
@[simp] theorem length_hash (length : Nat) (message : Bytes) :
    (hash length message).length = min length 64 := by
  rw [hash, List.length_take, length_flatMap_littleEndian, Vector.length_toList]

end Admission.Digest.Blake2b
