import Admission.Event.Kind

/-!
# Log records

What the components report while they work. A record is kept as its cause; its level, message and
fields are functions of the cause. No record holds a secret.
-/

namespace Admission

/-- How much a record matters. -/
inductive Level
  | debug | info | warn
  deriving Repr, DecidableEq

def Level.name : Level → String
  | .debug => "DEBUG"
  | .info => "INFO"
  | .warn => "WARN"

/-- What is worth a record. -/
inductive LogRecord
  /-- A manager was built with so many providers. -/
  | managerConfigured (providers : Nat) (eraseCredentials : Bool)
  /-- The session control refused the request. -/
  | admissionDenied (principal : String)
  /-- A provider is about to be asked. -/
  | attempt (provider : String)
  /-- A provider failed; a later one may still succeed. -/
  | providerRejected (provider : String)
  /-- A provider gave a token that is not proven. -/
  | unprovenToken (provider : String)
  /-- There is no event for a failure. -/
  | noEventMapping (kind : ErrorKind) (error : String)
  /-- The password provider does not know the user. -/
  | userNotFound (username : String)
  /-- The presented password is not the stored one. -/
  | passwordMismatch (username : String)
  /-- The password that stands in for unknown users could not be encoded. -/
  | placeholderNotEncoded (error : String)
  /-- A pre-authenticated request names nobody. -/
  | noPreAuthenticatedPrincipal
  /-- A session was recorded. -/
  | sessionRegistered (principal sessionId : String)
  /-- A session identifier passed from one principal to another. -/
  | sessionMoved (sessionId previous principal : String)
  /-- A session was forgotten. -/
  | sessionRemoved (sessionId : String)
  /-- A session had to make room for a newer one. -/
  | sessionExpired (principal sessionId : String)
  /-- A principal has as many sessions as are allowed. -/
  | sessionLimitReached (principal : String) (maximum : Nat)
  /-- A success was announced. -/
  | loginSucceeded (event : EventKind) (principal : String)
  /-- A failure was announced. -/
  | loginFailed (event : EventKind) (principal error : String)
  deriving Repr, DecidableEq

namespace LogRecord

def level : LogRecord → Level
  | managerConfigured .. | loginSucceeded .. => .info
  | unprovenToken _ | noEventMapping .. | loginFailed .. => .warn
  | _ => .debug

def message : LogRecord → String
  | managerConfigured .. => "Provider manager configured"
  | admissionDenied _ => "Session controller denied authentication"
  | attempt provider => "Authentication attempt using " ++ provider
  | providerRejected _ => "Provider rejected authentication"
  | unprovenToken _ => "Provider returned an unauthenticated token, ignoring it"
  | noEventMapping .. => "No event mapping for authentication failure"
  | userNotFound _ => "User not found"
  | passwordMismatch _ => "Password does not match stored value"
  | placeholderNotEncoded _ => "Unable to encode the user-not-found password"
  | noPreAuthenticatedPrincipal => "No pre-authenticated principal found in request"
  | sessionRegistered .. => "Registered new session"
  | sessionMoved .. => "Session id moved to another principal"
  | sessionRemoved _ => "Removed session information"
  | sessionExpired .. => "Expiring least recently used session"
  | sessionLimitReached .. => "Session limit reached, rejecting authentication"
  | loginSucceeded .. => "Authentication succeeded"
  | loginFailed .. => "Authentication failed"

/-- The named values of a record. -/
def fields : LogRecord → List (String × String)
  | managerConfigured providers erase =>
    [("providers", toString providers), ("erase_credentials", toString erase)]
  | attempt _ | noPreAuthenticatedPrincipal => []
  | admissionDenied principal => [("principal", principal)]
  | providerRejected provider | unprovenToken provider => [("provider", provider)]
  | noEventMapping kind error => [("kind", kind.name), ("error", error)]
  | userNotFound username | passwordMismatch username => [("username", username)]
  | placeholderNotEncoded error => [("error", error)]
  | sessionRegistered principal sessionId | sessionExpired principal sessionId =>
    [("principal", principal), ("session_id", sessionId)]
  | sessionMoved sessionId previous principal =>
    [("session_id", sessionId), ("previous_principal", previous), ("principal", principal)]
  | sessionRemoved sessionId => [("session_id", sessionId)]
  | sessionLimitReached principal maximum =>
    [("principal", principal), ("maximum", toString maximum)]
  | loginSucceeded event principal => [("event_type", event.display), ("principal", principal)]
  | loginFailed event principal error =>
    [("event_type", event.display), ("principal", principal), ("error", error)]

end LogRecord

end Admission
