import Admission.Text.Hex
import Admission.Text.Unprintable

/-!
# Quoted texts

A text between double quotes, in which quotes and backslashes are escaped, the usual controls have
an escape letter, and every other character without a shape of its own is shown by its number in
hexadecimal between braces.
-/

namespace Admission.Text

/-- A character as it stands inside quotes. -/
def quotedChar (c : Char) : List Char :=
  match c with
  | '\x00' => ['\\', '0']
  | '\t' => ['\\', 't']
  | '\r' => ['\\', 'r']
  | '\n' => ['\\', 'n']
  | '\\' => ['\\', '\\']
  | '"' => ['\\', '"']
  | c => if unprintable c then ['\\', 'u', '\x7b'] ++ hex c.toNat ++ ['\x7d'] else [c]

/-- A text between quotes. -/
def quoted (s : String) : String :=
  String.ofList ('"' :: s.toList.flatMap quotedChar ++ ['"'])

/-- A list of texts between brackets, each text between quotes. -/
def quotedList (ss : List String) : String :=
  "[" ++ ", ".intercalate (ss.map quoted) ++ "]"

end Admission.Text
