import Admission.Digest.Argon2
import Admission.Password.HashString

/-!
# Argon2 passwords

A password is stored as the hash string of its Argon2 tag. A presented password matches a stored
text when hashing it with the variant, version, cost and salt named there gives the tag named
there. A text that cannot be read, or names a cost or salt out of bounds, matches nothing.
-/

namespace Admission.Password.Argon2

open Digest.Argon2 (Variant Version Cost Layout)

/-- The salt of a new hash: sixteen bytes. -/
abbrev Salt := Vector UInt8 16

def variantName : Variant → String
  | .d => "argon2d"
  | .i => "argon2i"
  | .id => "argon2id"

def variant? (name : String) : Option Variant :=
  [Variant.d, .i, .id].find? fun v => variantName v == name

/-- The version named by a number; the newer one if none is named. -/
def version? : Option Nat → Option Version
  | none => some .v19
  | some n => [Version.v16, .v19].find? fun v => v.number == n

/-- What the parameters of a hash string settle: the cost, and data that is hashed along. -/
structure Settings where
  cost : Cost
  data : Bytes := []
  deriving Repr, DecidableEq

/-- The cost of new hashes, and what a parameter stands for that is not named. -/
def defaultCost : Cost := ⟨19456, 2, 1⟩

namespace Settings

/-- Takes over one parameter; the later of two of the same name holds. -/
def withParam (s : Settings) (p : String × String) : Option Settings :=
  let value := p.2.toList
  match p.1 with
  | "m" => (HashString.decimal? value).map fun n => { s with cost.memory := n }
  | "t" => (HashString.decimal? value).map fun n => { s with cost.passes := n }
  | "p" => (HashString.decimal? value).map fun n => { s with cost.lanes := n }
  | "keyid" => do
    let id ← Digest.Base64.decode value
    if id.length ≤ 8 then some s else none
  | "data" => do
    let data ← Digest.Base64.decode value
    if data.length ≤ 32 then some { s with data := data } else none
  | _ => none

/-- The bounds of a cost: a pass, a lane, and two blocks of memory in every segment. -/
def inBounds (s : Settings) : Bool :=
  1 ≤ s.cost.passes && 1 ≤ s.cost.lanes && s.cost.lanes < 0x1000000 &&
    8 * s.cost.lanes ≤ s.cost.memory

/-- The settings named by the parameters of a hash string. -/
def ofParams? (params : List (String × String)) : Option Settings := do
  let s ← params.foldlM withParam ⟨defaultCost, []⟩
  if s.inBounds then some s else none

end Settings

/-- The stored form of a password under a salt. -/
def encode (salt : Salt) (password : String) : String :=
  let layout : Layout := ⟨.id, .v19, defaultCost⟩
  HashString.render {
    algorithm := variantName .id
    version := some Version.v19.number
    params := [("m", toString defaultCost.memory), ("t", toString defaultCost.passes),
      ("p", toString defaultCost.lanes)]
    salt := some (String.ofList (Digest.Base64.encode salt.toList))
    hash := some (Digest.Argon2.hash layout 32 (Bytes.ofString password) salt.toList []) }

/-- Whether a password has the tag that a hash string names. -/
def verify (password : String) (h : HashString) : Bool :=
  (do
    let salt ← h.salt
    let expected ← h.hash
    let settings ← Settings.ofParams? h.params
    let variant ← variant? h.algorithm
    let version ← version? h.version
    let salt ← Digest.Base64.decode salt.toList
    guard (8 ≤ salt.length)
    let layout : Layout := ⟨variant, version, settings.cost⟩
    return Digest.Argon2.hash layout expected.length (Bytes.ofString password) salt settings.data
      == expected).getD false

/-- Whether a password matches a stored text. -/
def accepts (password encoded : String) : Bool :=
  match HashString.parse encoded with
  | some h => verify password h
  | none => false

end Admission.Password.Argon2
