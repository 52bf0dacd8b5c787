import Admission.Json.Basic

/-!
# Reading JSON

`read` accepts exactly the texts of the JSON grammar: one value with blanks (space, tab, line feed,
carriage return) around its tokens, no trailing comma, no leading zero, no control character inside
a string. Numbers are kept as they are written, so their size is no concern of the reader, and
nesting may be as deep as the text is long.
-/

namespace Admission.Json

/-- The characters that may stand between tokens. -/
def isBlank (c : Char) : Bool :=
  c == ' ' || c == '\t' || c == '\n' || c == '\r'

def skipBlanks (s : List Char) : List Char :=
  s.dropWhile isBlank

/-! ## Numbers -/

/-- A sign that may be missing, among the given ones. -/
def takeSign (signs : List Char) : List Char → List Char × List Char
  | c :: s => if signs.contains c then ([c], s) else ([], c :: s)
  | [] => ([], [])

/-- The digits at the front, at least one. -/
def takeDigits (s : List Char) : Option (List Char × List Char) :=
  let digits := s.takeWhile Char.isDigit
  if digits.isEmpty then none else some (digits, s.dropWhile Char.isDigit)

/-- The whole part: a zero by itself, or digits that do not start with one. -/
def takeWhole (s : List Char) : Option (List Char × List Char) := do
  let (digits, rest) ← takeDigits s
  if digits.length > 1 && digits.head? == some '0' then none else some (digits, rest)

/-- The fraction with its point, if there is a point. -/
def takeFraction : List Char → Option (List Char × List Char)
  | '.' :: s => do
    let (digits, rest) ← takeDigits s
    some ('.' :: digits, rest)
  | s => some ([], s)

/-- The exponent with its letter and sign, if there is a letter. -/
def takeExponent : List Char → Option (List Char × List Char)
  | c :: s =>
    if c == 'e' || c == 'E' then do
      let (sign, s) := takeSign ['+', '-'] s
      let (digits, rest) ← takeDigits s
      some (c :: sign ++ digits, rest)
    else some ([], c :: s)
  | [] => some ([], [])

/-- A number at the front, as it is written. -/
def takeNumber (s : List Char) : Option (List Char × List Char) := do
  let (sign, s) := takeSign ['-'] s
  let (whole, s) ← takeWhole s
  let (fraction, s) ← takeFraction s
  let (exponent, s) ← takeExponent s
  some (sign ++ whole ++ fraction ++ exponent, s)

/-! ## Strings -/

/-- The value of a hexadecimal digit of either case. -/
def hexDigit? (c : Char) : Option Nat :=
  if '0' ≤ c ∧ c ≤ '9' then some (c.toNat - 48)
  else if 'a' ≤ c ∧ c ≤ 'f' then some (c.toNat - 87)
  else if 'A' ≤ c ∧ c ≤ 'F' then some (c.toNat - 55)
  else none

/-- The number written by four hexadecimal digits. -/
def hexCode? (a b c d : Char) : Option Nat := do
  return (((← hexDigit? a) * 16 + (← hexDigit? b)) * 16 + (← hexDigit? c)) * 16 + (← hexDigit? d)

/-- The character that an escape letter stands for. -/
def unescape? : Char → Option Char
  | '"' => some '"'
  | '\\' => some '\\'
  | '/' => some '/'
  | 'b' => some '\x08'
  | 'f' => some '\x0c'
  | 'n' => some '\n'
  | 'r' => some '\r'
  | 't' => some '\t'
  | _ => none

/-- The code points and escaped numbers up to the closing quote. -/
def takeCodes : List Char → Option (List Nat × List Char)
  | [] => none
  | '"' :: s => some ([], s)
  | '\\' :: 'u' :: a :: b :: c :: d :: s => do
    let code ← hexCode? a b c d
    let (codes, rest) ← takeCodes s
    some (code :: codes, rest)
  | '\\' :: e :: s => do
    let c ← unescape? e
    let (codes, rest) ← takeCodes s
    some (c.toNat :: codes, rest)
  | c :: s =>
    if c < ' ' then none else do
      let (codes, rest) ← takeCodes s
      some (c.toNat :: codes, rest)

/-- The text with the given code points, in which two halves of a surrogate pair make one
character. There is none if a half stands alone. -/
def textOfCodes : List Nat → Option (List Char)
  | [] => some []
  | high :: low :: rest =>
    if 0xd800 ≤ high ∧ high < 0xdc00 then
      if 0xdc00 ≤ low ∧ low < 0xe000 then
        (textOfCodes rest).map
          (Char.ofNat (0x10000 + (high - 0xd800) * 0x400 + (low - 0xdc00)) :: ·)
      else none
    else if 0xdc00 ≤ high ∧ high < 0xe000 then none
    else (textOfCodes (low :: rest)).map (Char.ofNat high :: ·)
  | [code] => if 0xd800 ≤ code ∧ code < 0xe000 then none else some [Char.ofNat code]

/-- A string behind its opening quote. -/
def takeString (s : List Char) : Option (Option String × List Char) := do
  let (codes, rest) ← takeCodes s
  some ((textOfCodes codes).map String.ofList, rest)

/-! ## Values -/

mutual

/-- A value at the front. `fuel` bounds the nesting and the number of elements; the length of the
text is enough. -/
def takeValue : (fuel : Nat) → List Char → Option (Value × List Char)
  | 0, _ => none
  | fuel + 1, s =>
    match skipBlanks s with
    | 'n' :: 'u' :: 'l' :: 'l' :: rest => some (.null, rest)
    | 't' :: 'r' :: 'u' :: 'e' :: rest => some (.bool true, rest)
    | 'f' :: 'a' :: 'l' :: 's' :: 'e' :: rest => some (.bool false, rest)
    | '"' :: s => do
      let (text, rest) ← takeString s
      some (.string text, rest)
    | '[' :: s =>
      match skipBlanks s with
      | ']' :: rest => some (.array [], rest)
      | s => do
        let (elements, rest) ← takeElements fuel s
        some (.array elements, rest)
    | '\x7b' :: s =>
      match skipBlanks s with
      | '\x7d' :: rest => some (.object [], rest)
      | s => do
        let (members, rest) ← takeMembers fuel s
        some (.object members, rest)
    | s => do
      let (literal, rest) ← takeNumber s
      some (.number (String.ofList literal), rest)

/-- At least one element, up to the closing bracket. -/
def takeElements : (fuel : Nat) → List Char → Option (List Value × List Char)
  | 0, _ => none
  | fuel + 1, s => do
    let (v, s) ← takeValue fuel s
    match skipBlanks s with
    | ',' :: s =>
      let (elements, rest) ← takeElements fuel s
      some (v :: elements, rest)
    | ']' :: rest => some ([v], rest)
    | _ => none

/-- At least one member, up to the closing brace. -/
def takeMembers : (fuel : Nat) → List Char → Option (List (Option String × Value) × List Char)
  | 0, _ => none
  | fuel + 1, s =>
    match skipBlanks s with
    | '"' :: s => do
      let (name, s) ← takeString s
      match skipBlanks s with
      | ':' :: s =>
        let (v, s) ← takeValue fuel s
        match skipBlanks s with
        | ',' :: s =>
          let (members, rest) ← takeMembers fuel s
          some ((name, v) :: members, rest)
        | '\x7d' :: rest => some ([(name, v)], rest)
        | _ => none
      | _ => none
    | _ => none

end

/-- The value that a text stands for. -/
def read (text : String) : Option Value := do
  let (v, rest) ← takeValue (text.length + 1) text.toList
  if (skipBlanks rest).isEmpty then some v else none

end Admission.Json
