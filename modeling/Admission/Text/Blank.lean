/-!
# Blank texts

A text is blank when it holds nothing but white space, in the sense of the Unicode property: the
ASCII blanks, the next-line control, the no-break and ideographic spaces, and the typographic
spaces and separators.
-/

namespace Admission.Text

/-- The first and last code points of each run of white space. -/
def whiteSpaceRanges : List (Nat × Nat) := [
  (0x9, 0xd), (0x20, 0x20), (0x85, 0x85), (0xa0, 0xa0), (0x1680, 0x1680), (0x2000, 0x200a),
  (0x2028, 0x2029), (0x202f, 0x202f), (0x205f, 0x205f), (0x3000, 0x3000)]

/-- Whether a character is white space. -/
def isWhiteSpace (c : Char) : Bool :=
  whiteSpaceRanges.any fun (first, last) => first ≤ c.toNat && c.toNat ≤ last

/-- Whether a text holds nothing but white space. -/
def isBlank (s : String) : Bool :=
  s.toList.all isWhiteSpace

end Admission.Text
