/-!
# Byte strings

Digests and encodings work on lists of bytes. This module fixes how text and machine words become
bytes: text by UTF-8, words with the least significant byte first (`littleEndian`) or the most
significant one first (`bigEndian`). The number of bytes written depends on the width alone
(`length_littleEndian`, `length_bigEndian`).
-/

namespace Admission

/-- A byte string. -/
abbrev Bytes := List UInt8

namespace Bytes

/-- The UTF-8 encoding of a text. -/
def ofString (s : String) : Bytes :=
  s.toUTF8.data.toList

/-- The `width` low bytes of a number, least significant first. -/
def littleEndian : (width value : Nat) → Bytes
  | 0, _ => []
  | width + 1, value => value.toUInt8 :: littleEndian width (value / 256)

/-- The `width` low bytes of a number, most significant first. -/
def bigEndian (width value : Nat) : Bytes :=
  (littleEndian width value).reverse

/-- The number whose base-256 digits are given, least significant first. -/
def toNatLittleEndian : Bytes → Nat
  | [] => 0
  | b :: bs => b.toNat + 256 * toNatLittleEndian bs

/-- The number whose base-256 digits are given, most significant first. -/
def toNatBigEndian (bs : Bytes) : Nat :=
  toNatLittleEndian bs.reverse

@[simp] theorem length_littleEndian (width value : Nat) :
    (littleEndian width value).length = width := by
  induction width generalizing value with
  | zero => rfl
  | succ width ih => simp [littleEndian, ih]

@[simp] theorem length_bigEndian (width value : Nat) : (bigEndian width value).length = width := by
  simp [bigEndian]

/-- Cuts a list into pieces of `size + 1` elements; the last piece may be shorter. -/
def chunks {α : Type} (size : Nat) : List α → List (List α)
  | [] => []
  | x :: xs => (x :: xs.take size) :: chunks size (xs.drop size)
  termination_by l => l.length

end Bytes

end Admission
