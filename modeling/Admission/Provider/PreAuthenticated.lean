import Admission.Directory
import Admission.Provider.Basic
import Admission.Text.Blank
import Admission.Text.Uppercase
import Admission.User.Status

/-!
# Pre-authenticated provider

Trusts a name that a system in front has asserted. The user behind it comes from a user service, or
is made from the roles that the container asserts along with the name; these become authorities by
a `RoleMapper`. A blank name is nobody.
-/

namespace Admission

/-- How asserted roles become authorities. -/
structure RoleMapper where
  mark : String := roleMark
  uppercase : Bool := false
  mappable : Option (List String) := none
  deriving Repr, DecidableEq

namespace RoleMapper

/-- Whether a role is to be mapped at all. The role is compared as it was asserted. -/
def admits (m : RoleMapper) (role : String) : Bool :=
  match m.mappable with
  | some allowed => allowed.contains role
  | none => true

/-- The authority for a role: in upper case if that is wanted, and under the mark. -/
def authority (m : RoleMapper) (role : String) : String :=
  Text.ensureLeading m.mark (if m.uppercase then Text.upper role else role)

/-- The authorities for asserted roles, in order. -/
def map (m : RoleMapper) (roles : List String) : List String :=
  (roles.filter m.admits).map m.authority

end RoleMapper

/-- Where the user behind an asserted name comes from. -/
inductive UserSource (σ : Type)
  | service (users : UserService σ)
  | containerRoles (mapper : RoleMapper)

/-- A provider of asserted principals. -/
structure PreAuthenticatedProvider (σ : Type) where
  source : UserSource σ

namespace PreAuthenticatedProvider

variable {σ : Type}

/-- The provider for the last of the given sources, of which there must be one. -/
def ofSources (sources : List (UserSource σ)) : Except ConfigError (PreAuthenticatedProvider σ) :=
  match sources.getLast? with
  | some source => .ok ⟨source⟩
  | none => .error (.missingCollaborator "A pre-authenticated user source")

/-- The refusal of a request that names nobody. -/
def nobody : AuthError :=
  ⟨.badCredentials, "No pre-authenticated principal found in request", none⟩

/-- The refusal of a name that the user service does not know. -/
def unknownUser (username : String) : AuthError :=
  ⟨.badCredentials, "No user found for pre-authenticated principal " ++ username, none⟩

/-- The failure of a user service. -/
def unavailable (e : StoreError) : AuthError :=
  ⟨.providerUnavailable, "Unable to load user details", some e⟩

/-- The user made from asserted roles. -/
def containerUser (mapper : RoleMapper) (request : Token) : User :=
  ({ username := request.name, password := "" } : User).addAuthorities
    (mapper.map request.containerRoles)

/-- The user behind an asserted name, and the look-ups it took. -/
def resolve (p : PreAuthenticatedProvider σ) (request : Token) (s : σ) :
    Except AuthError User × List Note × σ :=
  match p.source with
  | .service users =>
    let (found, s) := users.load request.name s
    let user :=
      match found with
      | .ok (some u) => .ok u
      | .ok none => .error (unknownUser request.name)
      | .error e => .error (unavailable e)
    (user, [.lookup request.name], s)
  | .containerRoles mapper => (.ok (containerUser mapper request), [], s)

/-- Judges the user behind an asserted name. -/
def judge (request : Token) (u : User) : Answer :=
  match u.check with
  | .error e => .failed e
  | .ok () =>
    .ofToken "Pre-authenticated principal has no granted authorities"
      (request.provenFrom (.user u.withoutPassword) u.granted)

/-- Judges a token. -/
def attempt (p : PreAuthenticatedProvider σ) (request : Token) (s : σ) : Attempt × σ :=
  if request.kind = .preAuthenticated then
    if Text.isBlank request.name then
      (⟨.failed nobody, [.log .noPreAuthenticatedPrincipal]⟩, s)
    else
      match p.resolve request s with
      | (.error e, notes, s) => (⟨.failed e, notes⟩, s)
      | (.ok u, notes, s) => (⟨judge request u, notes⟩, s)
  else (⟨.declined, []⟩, s)

/-- The errors that the provider may fail with: without a user service it is never unavailable. -/
def declared (p : PreAuthenticatedProvider σ) : List ErrorKind :=
  [.badCredentials, .accountLocked, .accountDisabled, .accountExpired, .credentialsExpired] ++
    match p.source with
    | .service _ => [.providerUnavailable]
    | .containerRoles _ => []

/-- The pre-authenticated provider as a provider. -/
def provider (p : PreAuthenticatedProvider σ) : Provider σ where
  name := "PreAuthenticatedAuthenticationProvider"
  declared := p.declared
  supports kind := kind == .preAuthenticated
  attempt := p.attempt

end PreAuthenticatedProvider

end Admission
