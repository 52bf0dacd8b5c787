import Admission.Error
import Admission.Password.Argon2
import Admission.Text.Leading

/-!
# Password encoders

An encoder turns a password into the form in which it is stored, tells whether a presented password
matches a stored form, and says which stored forms ought to be encoded anew. The randomness of an
encoding is its salt.
-/

namespace Admission.Password

export Argon2 (Salt)

/-- A way to store passwords. -/
structure Encoder where
  encode : Salt → String → Except EncodingError String
  accepts : (password encoded : String) → Bool
  outdated : (encoded : String) → Bool := fun _ => false

namespace Encoder

/-- Passwords stored as they are. -/
def plain : Encoder where
  encode _ password := .ok password
  accepts password encoded := password == encoded

/-- Passwords stored as Argon2 hashes. -/
def argon2 : Encoder where
  encode salt password := .ok (Argon2.encode salt password)
  accepts := Argon2.accepts

/-- The mark of a stored Argon2 hash. -/
def argon2Mark : String := "\x7bargon2\x7d"

/-- The mark of a password stored as it is. -/
def plainMark : String := "\x7bnoop\x7d"

/-- Stored forms marked by their encoding. New passwords are stored as Argon2 hashes; marked plain
ones are still accepted but ought to be encoded anew; a text without a known mark matches nothing.
-/
def marked : Encoder where
  encode salt password := .ok (argon2Mark ++ Argon2.encode salt password)
  accepts password encoded :=
    match Text.dropLeading? argon2Mark encoded with
    | some hash => Argon2.accepts password hash
    | none =>
      match Text.dropLeading? plainMark encoded with
      | some stored => password == stored
      | none => false
  outdated encoded := !Text.startsWith argon2Mark encoded

/-- Passwords compared as they are by an encoder that cannot encode. -/
def broken (reason : String) : Encoder where
  encode _ _ := .error ⟨reason⟩
  accepts := plain.accepts

end Encoder

end Admission.Password
