import Admission.Provider.Anonymous
import Admission.Provider.Password
import Admission.Provider.PreAuthenticated
import Admission.Provider.RememberMe

/-!
# Standard providers

The four providers of an installation share its users; each password provider also has a stand-in
password of its own, filed under a number. `Realm` holds both, and `StandardProvider.provider` puts
each provider to work in it.
-/

namespace Admission

/-- What the providers of an installation share and keep. -/
structure Realm (σ : Type) where
  users : σ
  placeholders : Nat → Placeholder := fun _ => none

namespace Realm

variable {σ : Type}

/-- The part of the realm that a password provider sees. -/
def forPassword (number : Nat) (r : Realm σ) : Placeholder × σ :=
  (r.placeholders number, r.users)

/-- The realm after a password provider changed its part. -/
def afterPassword (number : Nat) (s : Placeholder × σ) (r : Realm σ) : Realm σ where
  users := s.2
  placeholders n := if n = number then s.1 else r.placeholders n

end Realm

/-- One of the four providers. A password provider has a number. -/
inductive StandardProvider (σ : Type)
  | password (number : Nat) (p : PasswordProvider σ)
  | rememberMe (p : RememberMeProvider)
  | anonymous (p : AnonymousProvider)
  | preAuthenticated (p : PreAuthenticatedProvider σ)

/-- A provider at work in a realm. -/
def StandardProvider.provider {σ : Type} : StandardProvider σ → Provider (Realm σ)
  | password n p => p.provider.within (Realm.forPassword n) (Realm.afterPassword n)
  | rememberMe p => p.provider
  | anonymous p => p.provider
  | preAuthenticated p => p.provider.within Realm.users fun users r => { r with users := users }

end Admission
