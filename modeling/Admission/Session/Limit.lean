import Admission.Error
import Admission.Json.Reader

/-!
# Session limits

How many sessions a principal may have at a time, and what happens to one more: it is refused, or
the least recently used session makes room. A maximum of zero is no limit anybody could live with
and is refused wherever a limit comes in.

A limit is written as a JSON object with both members. It is read from an object, in which members
may be missing and unknown ones are passed over, or from an array of the values in order, of which
the last ones may be missing. `read?` says what form a text must have, `ofJson` also checks the
maximum.
-/

namespace Admission

/-- A limit on the sessions of a principal; no maximum means any number. -/
structure SessionLimit where
  maximum : Option UInt64 := some 1
  rejectNew : Bool := true
  deriving Repr, DecidableEq

namespace SessionLimit

/-- A limit is valid unless its maximum is zero. -/
def validate (l : SessionLimit) : Except ConfigError Unit :=
  if l.maximum = some 0 then
    .error (.invalidSetting "maximum_sessions" "must be at least 1, or unlimited")
  else
    .ok ()

/-- Zero is the only maximum that is refused. -/
theorem validate_eq_ok {l : SessionLimit} : l.validate = .ok () ↔ l.maximum ≠ some 0 := by
  unfold validate
  split
  · next h => simp [h]
  · next h => simp [h]

/-! ## Writing -/

/-- The limit as data. -/
def toJson (l : SessionLimit) : Json.Value :=
  .ofMembers [
    ("maximum_sessions", match l.maximum with
      | some n => .natural n.toNat
      | none => .null),
    ("exception_if_maximum_exceeded", .bool l.rejectNew)]

/-- The limit as the text of a JSON object. -/
def json (l : SessionLimit) : String :=
  l.toJson.compact

/-! ## Reading -/

/-- A maximum: null, or a natural number of 64 bits. -/
def maximum? : Json.Value → Option (Option UInt64)
  | .null => some none
  | v => do
    let n ← v.natural?
    if n < UInt64.size then some (some n.toUInt64) else none

/-- A flag. -/
def flag? : Json.Value → Option Bool
  | .bool b => some b
  | _ => none

/-- What the members of an object have settled so far. -/
structure Members where
  maximum : Option (Option UInt64) := none
  rejectNew : Option Bool := none
  deriving DecidableEq

/-- Takes over one member. A known one may occur once; the name must be a text. -/
def Members.add (m : Members) : Option String × Json.Value → Option Members
  | (some "maximum_sessions", v) =>
    if m.maximum.isSome then none else (maximum? v).map fun n => { m with maximum := some n }
  | (some "exception_if_maximum_exceeded", v) =>
    if m.rejectNew.isSome then none else (flag? v).map fun b => { m with rejectNew := some b }
  | (some _, _) => some m
  | (none, _) => none

/-- The limit with defaults for what is missing. -/
def Members.limit (m : Members) : SessionLimit where
  maximum := m.maximum.getD (some 1)
  rejectNew := m.rejectNew.getD true

/-- The limit that a JSON value stands for, valid or not. -/
def ofValue? : Json.Value → Option SessionLimit
  | .object members => (members.foldlM Members.add {}).map Members.limit
  | .array [] => some {}
  | .array [n] => (maximum? n).map fun n => { maximum := n }
  | .array [n, b] => do
    let n ← maximum? n
    let b ← flag? b
    return ⟨n, b⟩
  | _ => none

/-- The limit that a text stands for, valid or not. -/
def read? (text : String) : Option SessionLimit :=
  (Json.read text).bind ofValue?

/-- The valid limit that a text stands for. -/
def ofJson (text : String) : Except ConfigError SessionLimit :=
  match read? text with
  | none => .error (.invalidSetting "concurrency" "not a session limit")
  | some l =>
    match l.validate with
    | .error e => .error e
    | .ok () => .ok l

end SessionLimit

end Admission
