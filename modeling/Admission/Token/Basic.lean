import Admission.Json.Basic
import Admission.KeyedHash
import Admission.Token.Authorities
import Admission.User

/-!
# Tokens

A token says who somebody claims to be and by what means, and, once proven, what they may do.
Request tokens carry credentials and no authorities; a proven token is made from a non-empty list
of authorities and is marked as authenticated (`Token.proven`, `Token.provenFrom`).

Two tokens are the same if they agree in everything but the details of the request
(`Token.sameAs`). The text of a token never shows the credentials.
-/

namespace Admission

/-- The means by which a principal is to be authenticated; providers are chosen by it. -/
inductive TokenKind
  | usernamePassword
  | rememberMe
  | preAuthenticated
  | anonymous
  | cas
  | custom (name : String)
  deriving Repr, DecidableEq

namespace TokenKind

/-- The name of a kind in texts. -/
def display : TokenKind → String
  | usernamePassword => "UsernamePasswordAuthenticationToken"
  | rememberMe => "RememberMeAuthenticationToken"
  | preAuthenticated => "PreAuthenticatedAuthenticationToken"
  | anonymous => "AnonymousAuthenticationToken"
  | cas => "CasAuthenticationToken"
  | custom name => name

/-- The kind as data: a bare name, or an object for a kind of somebody's own. -/
def toJson : TokenKind → Json.Value
  | usernamePassword => .text "UsernamePassword"
  | rememberMe => .text "RememberMe"
  | preAuthenticated => .text "PreAuthenticated"
  | anonymous => .text "Anonymous"
  | cas => .text "Cas"
  | custom name => .ofMembers [("Custom", .text name)]

end TokenKind

/-- The identity in question: a bare name, or a user with all that is known of it. -/
inductive Principal
  | name (name : String)
  | user (user : User)
  deriving Repr, DecidableEq

namespace Principal

/-- The name by which sessions and records know the principal. -/
def username : Principal → String
  | name n => n
  | user u => u.username

/-- The user, where there is more than a name. -/
def user? : Principal → Option User
  | name _ => none
  | user u => some u

end Principal

/-- The secret presented with a request. -/
inductive Credentials
  | absent
  | password (secret : String)
  | keyHash (secret : String)
  | ticket (secret : String)
  deriving Repr, DecidableEq

namespace Credentials

def isPresent : Credentials → Bool
  | absent => false
  | _ => true

/-- The secret itself. -/
def secret? : Credentials → Option String
  | absent => none
  | password s | keyHash s | ticket s => some s

/-- What is left of the secret once it is no longer needed. -/
def erase (_ : Credentials) : Credentials :=
  absent

/-- What credentials show of themselves: their form, not the secret. -/
def display : Credentials → String
  | absent => "None"
  | password _ => "Password([PROTECTED])"
  | keyHash _ => "KeyHash([PROTECTED])"
  | ticket _ => "Ticket([PROTECTED])"

end Credentials

/-- What is known of the request besides the claim: where it came from, its session, and the roles
that the container asserts. -/
structure Details where
  remoteAddress : Option String := none
  sessionId : Option String := none
  roles : List String := []
  deriving Repr, DecidableEq

/-- Adds roles asserted by the container. -/
def Details.addRoles (d : Details) (roles : List String) : Details :=
  { d with roles := d.roles ++ roles }

/-- A proven token needs an authority. -/
inductive TokenError
  | noAuthorities
  deriving Repr, DecidableEq

/-- The wording of a refused token. -/
def TokenError.message : TokenError → String
  | .noAuthorities => "An authenticated token requires at least one granted authority"

/-- An authentication request or its proven result. -/
structure Token where
  kind : TokenKind
  principal : Principal
  credentials : Credentials
  authorities : Authorities
  details : Option Details
  authenticated : Bool
  deriving DecidableEq

namespace Token

/-! ## Requests -/

/-- A request token. -/
def request (kind : TokenKind) (principal : Principal) (credentials : Credentials) : Token :=
  ⟨kind, principal, credentials, .empty, none, false⟩

/-- A login with name and password. -/
def usernamePassword (username password : String) : Token :=
  request .usernamePassword (.name username) (.password password)

/-- A principal asserted by a trusted system in front. -/
def preAuthenticated (principal : String) (credentials : Credentials) : Token :=
  request .preAuthenticated (.name principal) credentials

/-- A user restored from a cookie, signed by the issuer. -/
def rememberMe (key : KeyedHash) (user : User) : Token :=
  request .rememberMe (.user user) (.keyHash (key.sign user.username))

/-- An unknown visitor, signed by the issuer. -/
def anonymous (key : KeyedHash) (principal : String) : Token :=
  request .anonymous (.name principal) (.keyHash (key.sign principal))

/-- The token with the details of the request. -/
def withDetails (t : Token) (details : Details) : Token :=
  { t with details := some details }

/-! ## Proven tokens -/

/-- A proven token without details. It needs an authority. -/
def proven (kind : TokenKind) (principal : Principal) (credentials : Credentials)
    (authorities : List String) : Except TokenError Token :=
  if (Authorities.ofList authorities).isEmpty then .error .noAuthorities
  else .ok ⟨kind, principal, credentials, .ofList authorities, none, true⟩

/-- A proven token that keeps the kind, credentials and details of a request. -/
def provenFrom (request : Token) (principal : Principal) (authorities : List String) :
    Except TokenError Token :=
  match proven request.kind principal request.credentials authorities with
  | .error e => .error e
  | .ok t => .ok { t with details := request.details }

/-- The token without its secret. -/
def withoutCredentials (t : Token) : Token :=
  { t with credentials := t.credentials.erase }

/-! ## Observations -/

/-- The name of the principal. -/
def name (t : Token) : String :=
  t.principal.username

/-- The session from which the request came, if it names one. -/
def sessionId? (t : Token) : Option String :=
  t.details.bind Details.sessionId

/-- The address from which the request came, if it is known. -/
def remoteAddress? (t : Token) : Option String :=
  t.details.bind Details.remoteAddress

/-- The roles that the container asserts. -/
def containerRoles (t : Token) : List String :=
  (t.details.map Details.roles).getD []

def hasAuthority (t : Token) (authority : String) : Bool :=
  t.authorities.contains authority

/-- Agreement in everything but the details. -/
def sameAs (a b : Token) : Bool :=
  a.kind == b.kind && a.principal == b.principal && a.credentials == b.credentials &&
    a.authorities == b.authorities && a.authenticated == b.authenticated

/-- The token as a line of text, without the credentials. -/
def display (t : Token) : String :=
  t.kind.display ++ ": Principal: " ++ t.name ++
    "; Credentials: [PROTECTED]; Authenticated: " ++ toString t.authenticated ++
    "; Granted Authorities: " ++ ", ".intercalate t.authorities.toList

end Token

end Admission
