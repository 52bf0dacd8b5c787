import Admission.Manager
import Admission.Provider.Standard

/-!
# Demonstration

A small installation that shows the parts at work: two users with Argon2 passwords, one session
each, and a chain of password, remember-me and anonymous providers. Five requests are decided one
after the other: a login, a wrong password, a second session of the first user, a user restored
from a cookie, and an unknown visitor. What is left is the list of events.
-/

namespace Admission.Demo

open Password (Salt)

/-- What the surroundings supply to the demonstration: salts for the stored passwords and the
stand-in, the keys of the two signing providers, and the occasions of the decisions. -/
structure Chance where
  adminSalt : Salt
  userSalt : Salt
  standInSalt : Salt
  rememberMeKey : String
  anonymousKey : String
  occasion : Nat → Occasion

/-- The users of the installation. -/
def users (c : Chance) : List User := [
  ({ username := "admin", password := Password.Argon2.encode c.adminSalt "admin" } : User).addRoles
    ["ADMIN", "USER"],
  ({ username := "user", password := Password.Argon2.encode c.userSalt "user" } : User).addRoles
    ["USER"]]

/-- The requests to be decided. -/
def requests (rememberMe : RememberMeProvider) (anonymous : AnonymousProvider) : List Token := [
  (Token.usernamePassword "admin" "admin").withDetails { sessionId := some "browser-1" },
  Token.usernamePassword "user" "wrong",
  (Token.usernamePassword "admin" "admin").withDetails { sessionId := some "browser-2" },
  Token.rememberMe rememberMe.key
    (({ username := "user", password := "" } : User).addRoles ["USER"]),
  Token.anonymous anonymous.key "anonymousUser"]

/-- Decides requests one after the other, the first of them as the `number`-th. -/
def decideAll {σ : Type} (m : Manager σ) (c : Chance) :
    (number : Nat) → List Token → State σ → State σ
  | _, [], s => s
  | number, request :: rest, s =>
    decideAll m c (number + 1) rest (m.authenticate (c.occasion number) request s).state

/-- The events of the demonstration, oldest first. -/
def events (c : Chance) : Except ConfigError (List Event) := do
  let rememberMe ← RememberMeProvider.ofKey c.rememberMeKey
  let anonymous ← AnonymousProvider.ofKey c.anonymousKey
  let control ← SessionControl.ofLimit { maximum := some 1, rejectNew := true }
  let password : PasswordProvider UserStore :=
    { users := UserStore.service, encoder := .argon2, salt := c.standInSalt }
  let chain : List (StandardProvider UserStore) :=
    [.password 0 password, .rememberMe rememberMe, .anonymous anonymous]
  let setup : Setup (Realm UserStore) :=
    { providers := chain.map StandardProvider.provider
      control := control
      publisher := .multicast true [.log true, .store 0 {}] }
  let manager ← setup.build
  let start : State (Realm UserStore) :=
    ⟨{ users := UserStore.empty.addAll (users c) }, .empty, setup.publisher⟩
  let final := decideAll manager c 0 (requests rememberMe anonymous) start
  return ((final.publisher.store? 0).map EventStore.events).getD []

end Admission.Demo
