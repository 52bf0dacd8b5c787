import Admission.Digest.Blake2b

/-!
# Argon2

The memory-hard password hash in its three variants and two versions. Memory is a matrix of
1024-byte blocks with one lane per row; every block is mixed from its predecessor in the lane and
from a reference block, chosen by the data itself (`d`), by a counter (`i`), or by the counter in
the first half of the first pass and the data afterwards (`id`). A pass fills the lanes in four
slices, and a reference never leads into a segment of another lane that is still being filled.

The tag has the requested length (`length_hash`).
-/

namespace Admission.Digest.Argon2

/-- How reference blocks are chosen. -/
inductive Variant
  | d | i | id
  deriving Repr, DecidableEq

/-- The number that stands for a variant in the hashed parameters. -/
def Variant.number : Variant → Nat
  | .d => 0
  | .i => 1
  | .id => 2

/-- Version 16 overwrites the blocks of the previous pass, version 19 mixes them in. -/
inductive Version
  | v16 | v19
  deriving Repr, DecidableEq

/-- The number that stands for a version in the hashed parameters. -/
def Version.number : Version → Nat
  | .v16 => 16
  | .v19 => 19

/-- The cost of a hash: memory in KiB, passes over it, and lanes. -/
structure Cost where
  memory : Nat
  passes : Nat
  lanes : Nat
  deriving Repr, DecidableEq

/-! ## Blocks

The words of a block are kept in eight rows of sixteen, the unit that the permutation works on.
-/

/-- Sixteen words. -/
structure Row where
  (w0 w1 w2 w3 w4 w5 w6 w7 w8 w9 w10 w11 w12 w13 w14 w15 : UInt64)

namespace Row

def zero : Row := ⟨0, 0, 0, 0, 0, 0, 0, 0, 0, 0, 0, 0, 0, 0, 0, 0⟩

def ofList (l : List UInt64) : Row :=
  ⟨l.getD 0 0, l.getD 1 0, l.getD 2 0, l.getD 3 0, l.getD 4 0, l.getD 5 0, l.getD 6 0, l.getD 7 0,
    l.getD 8 0, l.getD 9 0, l.getD 10 0, l.getD 11 0, l.getD 12 0, l.getD 13 0, l.getD 14 0,
    l.getD 15 0⟩

def toList (r : Row) : List UInt64 :=
  [r.w0, r.w1, r.w2, r.w3, r.w4, r.w5, r.w6, r.w7,
    r.w8, r.w9, r.w10, r.w11, r.w12, r.w13, r.w14, r.w15]

def xor (r s : Row) : Row :=
  ⟨r.w0 ^^^ s.w0, r.w1 ^^^ s.w1, r.w2 ^^^ s.w2, r.w3 ^^^ s.w3,
    r.w4 ^^^ s.w4, r.w5 ^^^ s.w5, r.w6 ^^^ s.w6, r.w7 ^^^ s.w7,
    r.w8 ^^^ s.w8, r.w9 ^^^ s.w9, r.w10 ^^^ s.w10, r.w11 ^^^ s.w11,
    r.w12 ^^^ s.w12, r.w13 ^^^ s.w13, r.w14 ^^^ s.w14, r.w15 ^^^ s.w15⟩

/-- Addition hardened by a product of the low halves. -/
@[inline] def mulAdd (x y : UInt64) : UInt64 :=
  x + y + 2 * ((x &&& 0xffffffff) * (y &&& 0xffffffff))

/-- Mixes four words and hands them on. -/
@[inline] def quarter {α : Type} (a b c d : UInt64)
    (next : UInt64 → UInt64 → UInt64 → UInt64 → α) : α :=
  let a := mulAdd a b
  let d := Blake2b.rotateRight (d ^^^ a) 32
  let c := mulAdd c d
  let b := Blake2b.rotateRight (b ^^^ c) 24
  let a := mulAdd a b
  let d := Blake2b.rotateRight (d ^^^ a) 16
  let c := mulAdd c d
  let b := Blake2b.rotateRight (b ^^^ c) 63
  next a b c d

/-- One BLAKE2b round without message words, over hardened additions. -/
def permute (r : Row) : Row :=
  quarter r.w0 r.w4 r.w8 r.w12 fun w0 w4 w8 w12 =>
  quarter r.w1 r.w5 r.w9 r.w13 fun w1 w5 w9 w13 =>
  quarter r.w2 r.w6 r.w10 r.w14 fun w2 w6 w10 w14 =>
  quarter r.w3 r.w7 r.w11 r.w15 fun w3 w7 w11 w15 =>
  quarter w0 w5 w10 w15 fun w0 w5 w10 w15 =>
  quarter w1 w6 w11 w12 fun w1 w6 w11 w12 =>
  quarter w2 w7 w8 w13 fun w2 w7 w8 w13 =>
  quarter w3 w4 w9 w14 fun w3 w4 w9 w14 =>
  ⟨w0, w1, w2, w3, w4, w5, w6, w7, w8, w9, w10, w11, w12, w13, w14, w15⟩

end Row

/-- The 128 words of a memory block. -/
structure Block where
  (r0 r1 r2 r3 r4 r5 r6 r7 : Row)

namespace Block

def zero : Block :=
  ⟨.zero, .zero, .zero, .zero, .zero, .zero, .zero, .zero⟩

instance : Inhabited Block := ⟨zero⟩

/-- The block whose words are given; missing words are zero. -/
def ofList (l : List UInt64) : Block :=
  ⟨.ofList l, .ofList (l.drop 16), .ofList (l.drop 32), .ofList (l.drop 48),
    .ofList (l.drop 64), .ofList (l.drop 80), .ofList (l.drop 96), .ofList (l.drop 112)⟩

def toList (b : Block) : List UInt64 :=
  b.r0.toList ++ b.r1.toList ++ b.r2.toList ++ b.r3.toList ++
    b.r4.toList ++ b.r5.toList ++ b.r6.toList ++ b.r7.toList

def ofBytes (bs : Bytes) : Block :=
  ofList ((Bytes.chunks 7 bs).map fun w => (Bytes.toNatLittleEndian w).toUInt64)

def toBytes (b : Block) : Bytes :=
  b.toList.flatMap fun w => Bytes.littleEndian 8 w.toNat

def xor (a b : Block) : Block :=
  ⟨a.r0.xor b.r0, a.r1.xor b.r1, a.r2.xor b.r2, a.r3.xor b.r3,
    a.r4.xor b.r4, a.r5.xor b.r5, a.r6.xor b.r6, a.r7.xor b.r7⟩

/-- Every row permuted. -/
def permuteRows (b : Block) : Block :=
  ⟨b.r0.permute, b.r1.permute, b.r2.permute, b.r3.permute,
    b.r4.permute, b.r5.permute, b.r6.permute, b.r7.permute⟩

/-- The block read as an eight by eight matrix of word pairs, transposed. -/
def transpose (b : Block) : Block :=
  let ⟨r0, r1, r2, r3, r4, r5, r6, r7⟩ := b
  ⟨⟨r0.w0, r0.w1, r1.w0, r1.w1, r2.w0, r2.w1, r3.w0, r3.w1,
      r4.w0, r4.w1, r5.w0, r5.w1, r6.w0, r6.w1, r7.w0, r7.w1⟩,
    ⟨r0.w2, r0.w3, r1.w2, r1.w3, r2.w2, r2.w3, r3.w2, r3.w3,
      r4.w2, r4.w3, r5.w2, r5.w3, r6.w2, r6.w3, r7.w2, r7.w3⟩,
    ⟨r0.w4, r0.w5, r1.w4, r1.w5, r2.w4, r2.w5, r3.w4, r3.w5,
      r4.w4, r4.w5, r5.w4, r5.w5, r6.w4, r6.w5, r7.w4, r7.w5⟩,
    ⟨r0.w6, r0.w7, r1.w6, r1.w7, r2.w6, r2.w7, r3.w6, r3.w7,
      r4.w6, r4.w7, r5.w6, r5.w7, r6.w6, r6.w7, r7.w6, r7.w7⟩,
    ⟨r0.w8, r0.w9, r1.w8, r1.w9, r2.w8, r2.w9, r3.w8, r3.w9,
      r4.w8, r4.w9, r5.w8, r5.w9, r6.w8, r6.w9, r7.w8, r7.w9⟩,
    ⟨r0.w10, r0.w11, r1.w10, r1.w11, r2.w10, r2.w11, r3.w10, r3.w11,
      r4.w10, r4.w11, r5.w10, r5.w11, r6.w10, r6.w11, r7.w10, r7.w11⟩,
    ⟨r0.w12, r0.w13, r1.w12, r1.w13, r2.w12, r2.w13, r3.w12, r3.w13,
      r4.w12, r4.w13, r5.w12, r5.w13, r6.w12, r6.w13, r7.w12, r7.w13⟩,
    ⟨r0.w14, r0.w15, r1.w14, r1.w15, r2.w14, r2.w15, r3.w14, r3.w15,
      r4.w14, r4.w15, r5.w14, r5.w15, r6.w14, r6.w15, r7.w14, r7.w15⟩⟩

/-- Mixes two blocks: the rows of their sum are permuted, then its columns, and the sum is added
again. -/
def compress (a b : Block) : Block :=
  let sum := a.xor b
  sum.permuteRows.transpose.permuteRows.transpose.xor sum

end Block

/-! ## Variable-length hash -/

/-- The chain of 64-byte digests after `v`: the first half of each, then `length` bytes of the
last. -/
def chain (length : Nat) : (links : Nat) → (v : Bytes) → Bytes
  | 0, v => Blake2b.hash length v
  | links + 1, v =>
    let next := Blake2b.hash 64 v
    next.take 32 ++ chain length links next

/-- A digest of any length: up to 64 bytes directly, beyond that from a chain of digests. -/
def longHash (length : Nat) (message : Bytes) : Bytes :=
  let message := Bytes.littleEndian 4 length ++ message
  if length ≤ 64 then
    Blake2b.hash length message
  else
    let links := (length + 31) / 32 - 2
    let first := Blake2b.hash 64 message
    first.take 32 ++ chain (length - 32 * links) (links - 1) first

theorem length_chain (length links : Nat) (v : Bytes) :
    (chain length links v).length = 32 * links + min length 64 := by
  induction links generalizing v with
  | zero => simp [chain]
  | succ links ih => simp [chain, ih]; omega

@[simp] theorem length_longHash (length : Nat) (message : Bytes) :
    (longHash length message).length = length := by
  unfold longHash
  dsimp only
  split
  · next h => rw [Blake2b.length_hash]; omega
  · next h => rw [List.length_append, length_chain, List.length_take, Blake2b.length_hash]; omega

/-! ## Filling the memory -/

/-- What stays fixed while the memory is filled. -/
structure Layout where
  variant : Variant
  version : Version
  cost : Cost

namespace Layout

/-- Blocks of a lane in one slice. -/
def segment (l : Layout) : Nat :=
  l.cost.memory / (4 * l.cost.lanes)

/-- Blocks of a lane. -/
def laneLength (l : Layout) : Nat :=
  4 * l.segment

/-- Blocks of the memory: the requested amount, rounded down to whole segments. -/
def blockCount (l : Layout) : Nat :=
  l.cost.lanes * l.laneLength

/-- Whether the references of a slice are drawn from a counter instead of from the data. -/
def counted (l : Layout) (pass slice : Nat) : Bool :=
  match l.variant with
  | .d => false
  | .i => true
  | .id => pass == 0 && slice < 2

/-- The `counter`-th block of drawn reference words for a segment. -/
def drawn (l : Layout) (pass slice lane counter : Nat) : Block :=
  let seed := Block.ofList <| [pass, lane, slice, l.blockCount, l.cost.passes, l.variant.number,
    counter].map Nat.toUInt64
  Block.zero.compress (Block.zero.compress seed)

/-- The place of the reference block for a drawn word: a lane, and in it one of the blocks already
filled, nearer ones more often. -/
def reference (l : Layout) (pass slice lane index : Nat) (word : UInt64) : Nat :=
  let target :=
    if pass == 0 && slice == 0 then lane else (word >>> 32).toNat % l.cost.lanes
  let finished :=
    if pass == 0 then slice * l.segment else l.laneLength - l.segment
  let area :=
    if target == lane then finished + index - 1 else finished - (if index == 0 then 1 else 0)
  let low := word &&& 0xffffffff
  let skew := (area.toUInt64 * ((low * low) >>> 32)) >>> 32
  let start := if pass == 0 || slice == 3 then 0 else (slice + 1) * l.segment
  target * l.laneLength + (start + (area - 1 - skew.toNat)) % l.laneLength

/-- Fills the last `todo` blocks of a segment. `words` holds the drawn references in use. -/
def fillSegment (l : Layout) (pass slice lane : Nat) :
    (todo : Nat) → (words : Array UInt64) → Array Block → Array Block
  | 0, _, memory => memory
  | todo + 1, words, memory =>
    let index := l.segment - (todo + 1)
    let column := slice * l.segment + index
    let base := lane * l.laneLength
    let place := base + column
    let previous := memory.getD (base + (column + l.laneLength - 1) % l.laneLength) Block.zero
    let counted := l.counted pass slice
    let words :=
      if counted && index % 128 == 0 then
        (l.drawn pass slice lane (index / 128 + 1)).toList.toArray
      else words
    let word := if counted then words.getD (index % 128) 0 else previous.r0.w0
    let other := memory.getD (l.reference pass slice lane index word) Block.zero
    let fresh := previous.compress other
    let fresh :=
      if pass == 0 || l.version == .v16 then fresh
      else fresh.xor (memory.getD place Block.zero)
    l.fillSegment pass slice lane todo words (memory.setIfInBounds place fresh)

/-- Fills one slice of every lane. The first two blocks of a lane are given beforehand. -/
def fillSlice (l : Layout) (pass slice : Nat) (memory : Array Block) : Array Block :=
  (List.range l.cost.lanes).foldl (fun memory lane =>
    let todo := if pass == 0 && slice == 0 then l.segment - 2 else l.segment
    let words :=
      if l.counted pass slice then (l.drawn pass slice lane 1).toList.toArray else #[]
    l.fillSegment pass slice lane todo words memory) memory

/-- Fills the memory pass after pass. -/
def fill (l : Layout) (memory : Array Block) : Array Block :=
  (List.range l.cost.passes).foldl (fun memory pass =>
    (List.range 4).foldl (fun memory slice => l.fillSlice pass slice memory) memory) memory

/-- The memory before the first pass: the first two blocks of each lane come from the seed. -/
def start (l : Layout) (seed : Bytes) : Array Block :=
  (List.range l.cost.lanes).foldl (fun memory lane =>
    [0, 1].foldl (fun memory column =>
      memory.setIfInBounds (lane * l.laneLength + column) <| Block.ofBytes <|
        longHash 1024 (seed ++ Bytes.littleEndian 4 column ++ Bytes.littleEndian 4 lane)) memory)
    (Array.replicate l.blockCount Block.zero)

/-- The sum of the last blocks of all lanes. -/
def lastColumn (l : Layout) (memory : Array Block) : Block :=
  (List.range l.cost.lanes).foldl (fun sum lane =>
    sum.xor (memory.getD (lane * l.laneLength + (l.laneLength - 1)) Block.zero)) Block.zero

end Layout

/-- The digest of all inputs from which the memory is grown. -/
def seed (l : Layout) (length : Nat) (password salt data : Bytes) : Bytes :=
  let word (n : Nat) := Bytes.littleEndian 4 n
  let field (bs : Bytes) := word bs.length ++ bs
  Blake2b.hash 64 <|
    word l.cost.lanes ++ word length ++ word l.cost.memory ++ word l.cost.passes ++
    word l.version.number ++ word l.variant.number ++
    field password ++ field salt ++ field [] ++ field data

/-- The tag of `length` bytes for a password, a salt and associated data. -/
def hash (l : Layout) (length : Nat) (password salt data : Bytes) : Bytes :=
  let memory := l.fill (l.start (seed l length password salt data))
  longHash length (l.lastColumn memory).toBytes

/-- A tag has the length asked for. -/
@[simp] theorem length_hash (l : Layout) (length : Nat) (password salt data : Bytes) :
    (hash l length password salt data).length = length :=
  length_longHash _ _

end Admission.Digest.Argon2
