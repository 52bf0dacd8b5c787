/-!
# Hexadecimal numbers

Numbers in base sixteen with lower-case digits, with as few digits as possible or filled up with
zeros to a given width.
-/

namespace Admission.Text

/-- The hexadecimal digits of a number, without leading zeros. -/
def hex (n : Nat) : List Char :=
  Nat.toDigits 16 n

/-- The hexadecimal digits of a number, at least `width` of them. -/
def hexPadded (width n : Nat) : List Char :=
  List.replicate (width - (hex n).length) '0' ++ hex n

end Admission.Text
