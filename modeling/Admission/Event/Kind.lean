import Admission.Error
import Admission.Text.Uppercase

/-!
# Kinds of events

Every decision is announced by an event: a success, a failure of one of the known sorts, or a kind
of the installation's own, whose name is shown in upper case. Each kind of error has its standard
kind of failure (`EventKind.failureFor`).
-/

namespace Admission

/-- What an event announces. -/
inductive EventKind
  | success
  | badCredentials
  | disabled
  | expired
  | credentialsExpired
  | locked
  | concurrentLogin
  | providerNotFound
  | serviceException
  | proxyUntrusted
  | custom (name : String)
  deriving Repr, DecidableEq

namespace EventKind

/-- The standard failure for a kind of error. -/
def failureFor : ErrorKind → EventKind
  | .badCredentials => badCredentials
  | .accountDisabled => disabled
  | .accountExpired => expired
  | .credentialsExpired => credentialsExpired
  | .accountLocked => locked
  | .concurrentLoginLimitExceeded => concurrentLogin
  | .providerNotFound => providerNotFound
  | .providerUnavailable => serviceException
  | .proxyUntrusted => proxyUntrusted

def isSuccess : EventKind → Bool
  | success => true
  | _ => false

/-- The name of a kind in records. -/
def display : EventKind → String
  | success => "AUTHENTICATION_SUCCESS"
  | badCredentials => "AUTHENTICATION_FAILURE_BAD_CREDENTIALS"
  | disabled => "AUTHENTICATION_FAILURE_DISABLED"
  | expired => "AUTHENTICATION_FAILURE_EXPIRED"
  | credentialsExpired => "AUTHENTICATION_FAILURE_CREDENTIALS_EXPIRED"
  | locked => "AUTHENTICATION_FAILURE_LOCKED"
  | concurrentLogin => "AUTHENTICATION_FAILURE_CONCURRENT_LOGIN"
  | providerNotFound => "AUTHENTICATION_FAILURE_PROVIDER_NOT_FOUND"
  | serviceException => "AUTHENTICATION_FAILURE_SERVICE_EXCEPTION"
  | proxyUntrusted => "AUTHENTICATION_FAILURE_PROXY_UNTRUSTED"
  | custom name => "CUSTOM_" ++ Text.upper name

end EventKind

end Admission
