import Admission.Text.Leading
import Admission.Text.Quoted

/-!
# Users

A user has a name, a stored password, roles, further authorities and the state of the account.
Roles and authorities are lists without repetition: adding names keeps the first occurrence of each
(`addNew`). A role counts as an authority under the mark `ROLE_`.
-/

namespace Admission

/-- The mark of a role among the authorities. -/
def roleMark : String := "ROLE_"

/-- Appends the names that are not listed yet, one after the other. -/
def addNew (listed names : List String) : List String :=
  names.foldl (fun l name => if name ∈ l then l else l ++ [name]) listed

/-- A user with roles, authorities and account state. -/
structure User where
  username : String
  password : String
  roles : List String := []
  authorities : List String := []
  enabled : Bool := true
  accountExpired : Bool := false
  accountLocked : Bool := false
  credentialsExpired : Bool := false
  deriving Repr, DecidableEq

namespace User

/-- Adds roles. -/
def addRoles (u : User) (roles : List String) : User :=
  { u with roles := addNew u.roles roles }

/-- Adds authorities. -/
def addAuthorities (u : User) (authorities : List String) : User :=
  { u with authorities := addNew u.authorities authorities }

def setEnabled (u : User) (b : Bool) : User :=
  { u with enabled := b }

def setAccountExpired (u : User) (b : Bool) : User :=
  { u with accountExpired := b }

def setAccountLocked (u : User) (b : Bool) : User :=
  { u with accountLocked := b }

def setCredentialsExpired (u : User) (b : Bool) : User :=
  { u with credentialsExpired := b }

/-- The user with an empty password, fit to be shown. -/
def withoutPassword (u : User) : User :=
  { u with password := "" }

def hasRole (u : User) (role : String) : Bool :=
  u.roles.contains role

def hasAuthority (u : User) (authority : String) : Bool :=
  u.authorities.contains authority

/-- Everything granted to the user: the roles under their mark, then the authorities. -/
def granted (u : User) : List String :=
  u.roles.map (Text.ensureLeading roleMark) ++ u.authorities

/-- The user as a line of text, without the password. -/
def display (u : User) : String :=
  "User \x7b username: " ++ u.username ++ ", roles: " ++ Text.quotedList u.roles ++
    ", authorities: " ++ Text.quotedList u.authorities ++
    ", enabled: " ++ toString u.enabled ++ " \x7d"

end User

end Admission
