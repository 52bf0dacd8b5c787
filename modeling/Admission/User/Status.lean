import Admission.Error
import Admission.User

/-!
# Account state

An account may be locked, disabled or expired, which is told to anybody who names it, and its
credentials may be expired, which is told only to those who hold them. Of several faults the first
in this order is reported.
-/

namespace Admission.User

/-- The checks before the credentials are looked at: locked, disabled, expired. -/
def preCheck (u : User) : Except AuthError Unit :=
  if u.accountLocked then
    .error ⟨.accountLocked, "User account is locked", none⟩
  else if !u.enabled then
    .error ⟨.accountDisabled, "User is disabled", none⟩
  else if u.accountExpired then
    .error ⟨.accountExpired, "User account has expired", none⟩
  else
    .ok ()

/-- The check after the credentials were found right. -/
def postCheck (u : User) : Except AuthError Unit :=
  if u.credentialsExpired then
    .error ⟨.credentialsExpired, "User credentials have expired", none⟩
  else
    .ok ()

/-- All checks in order. -/
def check (u : User) : Except AuthError Unit :=
  match u.preCheck with
  | .error e => .error e
  | .ok () => u.postCheck

end Admission.User
