import Admission.Directory
import Admission.Password.Encoder
import Admission.Provider.Basic
import Admission.User.Status

/-!
# Password provider

Judges logins with name and password against a user service. The state of the account is checked
before the password, except that expired credentials are reported only to those who hold them.

Unknown users are told apart from wrong passwords neither by the error, if they are to be hidden,
nor by the work done: the presented password is compared with a stand-in. The stand-in is encoded
when it is first needed and never again, even if that fails.
-/

namespace Admission

open Password (Encoder Salt)

/-- The stored form of the stand-in password, or the failure to encode it, once it was needed. -/
abbrev Placeholder := Option (Except EncodingError String)

/-- A provider of logins with name and password. `salt` is the salt of the stand-in. -/
structure PasswordProvider (σ : Type) where
  users : UserService σ
  encoder : Encoder := .plain
  hideUnknown : Bool := true
  salt : Salt

namespace PasswordProvider

variable {σ : Type}

/-- The password that stands in for those of unknown users. -/
def standIn : String := "userNotFoundPassword"

/-- The refusal that does not tell what was wrong. -/
def badCredentials : AuthError := ⟨.badCredentials, "Bad credentials", none⟩

/-- The refusal of an unknown user. -/
def unknownUser (p : PasswordProvider σ) (username : String) : AuthError :=
  if p.hideUnknown then badCredentials
  else ⟨.badCredentials, "User " ++ username ++ " not found", none⟩

/-- The failure of a user service. -/
def unavailable (e : StoreError) : AuthError :=
  ⟨.providerUnavailable, "Unable to load user details", some e⟩

/-- Encodes the stand-in if that was not done before. -/
def prepare (p : PasswordProvider σ) : Placeholder → Except EncodingError String × List Note
  | some encoded => (encoded, [])
  | none =>
    match p.encoder.encode p.salt standIn with
    | .ok encoded => (.ok encoded, [.encode])
    | .error e => (.error e, [.encode, .log (.placeholderNotEncoded e.message)])

/-- Does the work of a comparison for an unknown user. -/
def compareStandIn (p : PasswordProvider σ) (placeholder : Placeholder) :
    Placeholder × List Note :=
  let (encoded, notes) := p.prepare placeholder
  (some encoded, notes ++ match encoded with
    | .ok _ => [.compare]
    | .error _ => [])

/-- Judges a password presented for a known user. -/
def judge (p : PasswordProvider σ) (request : Token) (password : String) (u : User) : Attempt :=
  match u.preCheck with
  | .error e => ⟨.failed e, []⟩
  | .ok () =>
    if p.encoder.accepts password u.password then
      match u.postCheck with
      | .error e => ⟨.failed e, [.compare]⟩
      | .ok () =>
        ⟨.ofToken "User has no granted authorities"
          (request.provenFrom (.user u.withoutPassword) u.granted), [.compare]⟩
    else ⟨.failed badCredentials, [.compare, .log (.passwordMismatch request.name)]⟩

/-- Judges a token. -/
def attempt (p : PasswordProvider σ) (request : Token) (s : Placeholder × σ) :
    Attempt × (Placeholder × σ) :=
  if request.kind = .usernamePassword then
    match request.credentials with
    | .password password =>
      let (found, users) := p.users.load request.name s.2
      let looked := Note.lookup request.name
      match found with
      | .error e => (⟨.failed (unavailable e), [looked]⟩, (s.1, users))
      | .ok none =>
        let (placeholder, notes) := p.compareStandIn s.1
        (⟨.failed (p.unknownUser request.name),
          looked :: notes ++ [.log (.userNotFound request.name)]⟩, (placeholder, users))
      | .ok (some u) =>
        let a := p.judge request password u
        (⟨a.answer, looked :: a.notes⟩, (s.1, users))
    | _ => (⟨.failed badCredentials, []⟩, s)
  else (⟨.declined, []⟩, s)

/-- The password provider as a provider. -/
def provider (p : PasswordProvider σ) : Provider (Placeholder × σ) where
  name := "DaoAuthenticationProvider"
  declared := [.badCredentials, .accountLocked, .accountDisabled, .accountExpired,
    .credentialsExpired, .providerUnavailable]
  supports kind := kind == .usernamePassword
  attempt := p.attempt

end PasswordProvider

end Admission
