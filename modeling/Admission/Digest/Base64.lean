import Admission.Bytes

/-!
# Base64

Three bytes are written as four characters of a 64-letter alphabet. A last group of one or two
bytes takes two or three characters; `encodePadded` fills it up with equals signs, `encode` does
not. `decode` reads the unpadded form and refuses a group whose unused bits are not zero, so that
every byte string has a single written form.
-/

namespace Admission.Digest.Base64

/-- The character for a value below 64. -/
def letter (n : Nat) : Char :=
  if n < 26 then Char.ofNat (n + 65)
  else if n < 52 then Char.ofNat (n + 71)
  else if n < 62 then Char.ofNat (n - 4)
  else if n = 62 then '+'
  else '/'

/-- The value of a character of the alphabet. -/
def value (c : Char) : Option Nat :=
  if 'A' ≤ c ∧ c ≤ 'Z' then some (c.toNat - 65)
  else if 'a' ≤ c ∧ c ≤ 'z' then some (c.toNat - 71)
  else if '0' ≤ c ∧ c ≤ '9' then some (c.toNat + 4)
  else if c = '+' then some 62
  else if c = '/' then some 63
  else none

/-- The written form of a byte string without padding. -/
def encode : Bytes → List Char
  | [] => []
  | [a] => [letter (a.toNat / 4), letter (a.toNat % 4 * 16)]
  | [a, b] =>
    [letter (a.toNat / 4), letter (a.toNat % 4 * 16 + b.toNat / 16), letter (b.toNat % 16 * 4)]
  | a :: b :: c :: rest =>
    letter (a.toNat / 4) :: letter (a.toNat % 4 * 16 + b.toNat / 16) ::
      letter (b.toNat % 16 * 4 + c.toNat / 64) :: letter (c.toNat % 64) :: encode rest

/-- The written form filled up with equals signs to whole groups of four characters. -/
def encodePadded (bs : Bytes) : List Char :=
  encode bs ++ List.replicate ((3 - bs.length % 3) % 3) '='

/-- Reads the unpadded form. -/
def decode : List Char → Option Bytes
  | [] => some []
  | [_] => none
  | [p, q] => do
    let p ← value p
    let q ← value q
    guard (q % 16 = 0)
    return [(p * 4 + q / 16).toUInt8]
  | [p, q, r] => do
    let p ← value p
    let q ← value q
    let r ← value r
    guard (r % 4 = 0)
    return [(p * 4 + q / 16).toUInt8, (q % 16 * 16 + r / 4).toUInt8]
  | p :: q :: r :: s :: rest => do
    let p ← value p
    let q ← value q
    let r ← value r
    let s ← value s
    let bs ← decode rest
    return (p * 4 + q / 16).toUInt8 :: (q % 16 * 16 + r / 4).toUInt8 ::
      (r % 4 * 64 + s).toUInt8 :: bs

end Admission.Digest.Base64
