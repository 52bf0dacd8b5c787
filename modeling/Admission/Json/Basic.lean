import Admission.Text.Hex

/-!
# JSON values and their compact text

A value keeps the members of an object in order and a number as its literal. A string denotes a
text, or none when its escapes leave half of a surrogate pair alone.

`Value.render` writes a value without blanks. A string escapes the quote, the backslash and the
controls below the space, the latter by letter where there is one and by number otherwise.
-/

namespace Admission.Json

/-- A JSON value. -/
inductive Value
  | null
  | bool (b : Bool)
  | number (literal : String)
  | string (text : Option String)
  | array (elements : List Value)
  | object (members : List (Option String × Value))

namespace Value

/-- The string that denotes a text. -/
def text (s : String) : Value :=
  .string (some s)

/-- A text, or null in its absence. -/
def text? : Option String → Value
  | some s => text s
  | none => .null

/-- A natural number. -/
def natural (n : Nat) : Value :=
  .number (toString n)

/-- An object with the given members. -/
def ofMembers (members : List (String × Value)) : Value :=
  .object (members.map fun (name, v) => (some name, v))

/-- The natural number that a literal of digits alone stands for. -/
def natural? : Value → Option Nat
  | .number literal => if literal.toList.all Char.isDigit then literal.toNat? else none
  | _ => none

end Value

/-! ## Compact text -/

/-- A character as it stands inside a string. -/
def escapedChar (c : Char) : List Char :=
  match c with
  | '"' => ['\\', '"']
  | '\\' => ['\\', '\\']
  | '\x08' => ['\\', 'b']
  | '\x0c' => ['\\', 'f']
  | '\n' => ['\\', 'n']
  | '\r' => ['\\', 'r']
  | '\t' => ['\\', 't']
  | c => if c < ' ' then ['\\', 'u'] ++ Text.hexPadded 4 c.toNat else [c]

/-- A string between quotes. Half of a surrogate pair stands for what denotes no text. -/
def renderString : Option String → List Char
  | some s => '"' :: s.toList.flatMap escapedChar ++ ['"']
  | none => ['"', '\\', 'u', 'd', '8', '0', '0', '"']

mutual

/-- The compact text of a value. -/
def Value.render : Value → List Char
  | .null => ['n', 'u', 'l', 'l']
  | .bool true => ['t', 'r', 'u', 'e']
  | .bool false => ['f', 'a', 'l', 's', 'e']
  | .number literal => literal.toList
  | .string text => renderString text
  | .array elements => '[' :: renderElements elements
  | .object members => '\x7b' :: renderMembers members

/-- The elements of an array with the closing bracket. -/
def renderElements : List Value → List Char
  | [] => [']']
  | [v] => v.render ++ [']']
  | v :: w :: rest => v.render ++ ',' :: renderElements (w :: rest)

/-- The members of an object with the closing brace. -/
def renderMembers : List (Option String × Value) → List Char
  | [] => ['\x7d']
  | [(name, v)] => renderString name ++ ':' :: v.render ++ ['\x7d']
  | (name, v) :: next :: rest =>
    renderString name ++ ':' :: v.render ++ ',' :: renderMembers (next :: rest)

end

/-- The compact text of a value as a string. -/
def Value.compact (v : Value) : String :=
  String.ofList v.render

end Admission.Json
