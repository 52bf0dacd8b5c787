import Admission.Provider.Basic

/-!
# Remember-me provider

Accepts users restored from a cookie, if the cookie carries the signature of their name under the
provider's key. What such a user may do is what the restored user says.
-/

namespace Admission

/-- A provider of restored users. -/
structure RememberMeProvider where
  key : KeyedHash

namespace RememberMeProvider

/-- The provider for a key, which must not be empty. -/
def ofKey (key : String) : Except ConfigError RememberMeProvider :=
  match KeyedHash.ofKey key with
  | .error e => .error e
  | .ok key => .ok ⟨key⟩

/-- The refusal of a wrong signature. -/
def keyMismatch : AuthError :=
  ⟨.badCredentials,
    "The presented RememberMeAuthenticationToken does not contain the expected key", none⟩

/-- What the restored user may do. -/
def granted (request : Token) : List String :=
  (request.principal.user?.map User.granted).getD []

/-- Judges a token. -/
def answer (p : RememberMeProvider) (request : Token) : Answer :=
  if request.kind = .rememberMe then
    match request.credentials with
    | .keyHash presented =>
      if p.key.verify request.name presented then
        .ofToken "Remember-me user has no granted authorities"
          (request.provenFrom request.principal (granted request))
      else .failed keyMismatch
    | _ => .failed keyMismatch
  else .declined

/-- The remember-me provider as a provider. -/
def provider {σ : Type} (p : RememberMeProvider) : Provider σ where
  name := "RememberMeAuthenticationProvider"
  declared := [.badCredentials]
  supports kind := kind == .rememberMe
  attempt request s := (⟨p.answer request, []⟩, s)

end RememberMeProvider

end Admission
