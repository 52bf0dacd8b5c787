import Admission.Provider.Basic

/-!
# Anonymous provider

Gives unknown visitors a token with fixed authorities, if their request carries the signature of
the name they go by under the provider's key.
-/

namespace Admission

/-- A provider of tokens for unknown visitors. It grants at least one authority. -/
structure AnonymousProvider where
  key : KeyedHash
  authorities : List String
  authorities_ne : authorities ≠ []

namespace AnonymousProvider

/-- The provider for a key, which must not be empty, with the usual authority. -/
def ofKey (key : String) : Except ConfigError AnonymousProvider :=
  match KeyedHash.ofKey key with
  | .error e => .error e
  | .ok key => .ok ⟨key, ["ROLE_ANONYMOUS"], by simp⟩

/-- The provider for a key with given authorities, of which there must be one. -/
def withAuthorities (key : String) (authorities : List String) :
    Except ConfigError AnonymousProvider :=
  if h : authorities = [] then
    .error (.invalidSetting "authorities" "anonymous users need at least one authority")
  else
    match KeyedHash.ofKey key with
    | .error e => .error e
    | .ok key => .ok ⟨key, authorities, h⟩

/-- The refusal of a wrong signature. -/
def keyMismatch : AuthError :=
  ⟨.badCredentials,
    "The presented AnonymousAuthenticationToken does not contain the expected key", none⟩

/-- Judges a token. -/
def answer (p : AnonymousProvider) (request : Token) : Answer :=
  if request.kind = .anonymous then
    match request.credentials with
    | .keyHash presented =>
      if p.key.verify request.name presented then
        .ofToken "Anonymous token has no granted authorities"
          (request.provenFrom request.principal p.authorities)
      else .failed keyMismatch
    | _ => .failed keyMismatch
  else .declined

/-- The anonymous provider as a provider. -/
def provider {σ : Type} (p : AnonymousProvider) : Provider σ where
  name := "AnonymousAuthenticationProvider"
  declared := [.badCredentials]
  supports kind := kind == .anonymous
  attempt request s := (⟨p.answer request, []⟩, s)

end AnonymousProvider

end Admission
