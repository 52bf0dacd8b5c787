import Admission.Digest.Base64

/-!
# Hash strings

A stored password hash is a text of fields, each behind a dollar sign: the algorithm, the version,
the parameters, the salt and the hash. All but the algorithm may be missing, the later ones only
from the end. `parse` reads such a text and `render` writes one.

* A version field is `v=` and a decimal number, without a comma.
* A parameter field is any other field in that place with an equals sign: pairs of name and value,
  separated by commas.
* The salt is kept as it is written; the hash is decoded and has 10 to 64 bytes.
-/

namespace Admission.Password

/-- The fields of a hash string. -/
structure HashString where
  algorithm : String
  version : Option Nat := none
  params : List (String × String) := []
  salt : Option String := none
  hash : Option Bytes := none
  deriving Repr, DecidableEq

namespace HashString

/-- The pieces of a text between the occurrences of a separator. -/
def fields (separator : Char) : List Char → List (List Char)
  | [] => [[]]
  | c :: cs =>
    if c = separator then [] :: fields separator cs
    else
      match fields separator cs with
      | [] => [[c]]
      | f :: fs => (c :: f) :: fs

/-! ## Parts of a field -/

/-- A name: 1 to 32 lower-case letters, digits and hyphens. -/
def isName (s : List Char) : Bool :=
  1 ≤ s.length && s.length ≤ 32 && s.all fun c => c.isLower || c.isDigit || c == '-'

/-- The characters of values and salts. -/
def isValueChar (c : Char) : Bool :=
  c.isAlphanum || c == '-' || c == '+' || c == '/' || c == '.'

/-- A value: at most 64 such characters. -/
def isValue (s : List Char) : Bool :=
  s.length ≤ 64 && s.all isValueChar

/-- The number that a decimal of at most 32 bits without leading zeros stands for. -/
def decimal? (s : List Char) : Option Nat :=
  if s.isEmpty || !s.all Char.isDigit || (s.length > 1 && s.head? == some '0') then none
  else
    let n := s.foldl (fun n c => 10 * n + (c.toNat - 48)) 0
    if n < UInt32.size then some n else none

/-- One parameter: a name and a value. -/
def param? (s : List Char) : Option (String × String) :=
  match fields '=' s with
  | [name, value] =>
    if isName name && isValue value then some (String.ofList name, String.ofList value) else none
  | _ => none

/-- A parameter field, of at most 127 bytes. -/
def params? (s : List Char) : Option (List (String × String)) :=
  if s.length ≤ 127 then (fields ',' s).mapM param? else none

/-- A salt: 4 to 64 characters. -/
def salt? (s : List Char) : Option String :=
  if 4 ≤ s.length && isValue s then some (String.ofList s) else none

/-- A hash: 10 to 64 bytes. -/
def hash? (s : List Char) : Option Bytes := do
  let bs ← Digest.Base64.decode s
  if 10 ≤ bs.length && bs.length ≤ 64 then some bs else none

/-! ## Reading -/

/-- Takes a version field off the front. -/
def takeVersion : List (List Char) → Option (Option Nat × List (List Char))
  | ('v' :: '=' :: digits) :: rest =>
    if digits.contains ',' then some (none, ('v' :: '=' :: digits) :: rest)
    else if isValue digits then (decimal? digits).map fun n => (some n, rest) else none
  | rest => some (none, rest)

/-- Takes a parameter field off the front. -/
def takeParams : List (List Char) → Option (List (String × String) × List (List Char))
  | [] => some ([], [])
  | f :: rest =>
    if f.contains '=' then (params? f).map fun ps => (ps, rest) else some ([], f :: rest)

/-- Reads a hash string. -/
def parse (s : String) : Option HashString :=
  match fields '$' s.toList with
  | [] :: algorithm :: rest => do
    guard (isName algorithm)
    let (version, rest) ← takeVersion rest
    let (params, rest) ← takeParams rest
    let named : HashString := ⟨String.ofList algorithm, version, params, none, none⟩
    match rest with
    | [] => some named
    | [salt] => do
      let salt ← salt? salt
      some { named with salt := some salt }
    | [salt, hash] => do
      let salt ← salt? salt
      let hash ← hash? hash
      some { named with salt := some salt, hash := some hash }
    | _ => none
  | _ => none

/-! ## Writing -/

/-- A field behind its dollar sign. -/
def field (s : List Char) : List Char :=
  '$' :: s

def renderParam (p : String × String) : List Char :=
  p.1.toList ++ '=' :: p.2.toList

/-- Writes a hash string. -/
def render (h : HashString) : String :=
  String.ofList <|
    field h.algorithm.toList ++
    (match h.version with
      | some n => field ('v' :: '=' :: (toString n).toList)
      | none => []) ++
    (if h.params.isEmpty then [] else field ([','].intercalate (h.params.map renderParam))) ++
    (match h.salt with
      | some s => field s.toList
      | none => []) ++
    (match h.hash with
      | some bs => field (Digest.Base64.encode bs)
      | none => [])

end HashString

end Admission.Password
