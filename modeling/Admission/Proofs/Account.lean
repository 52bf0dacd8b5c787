import Admission.User.Status
import Admission.Token.Basic

/-!
# Accounts and what they grant

When the checks of an account pass (`User.preCheck_eq_ok`, `User.check_eq_ok`), which errors they
raise otherwise, what an account grants (`User.mem_granted`) and when it grants anything
(`User.granted_ne_nil`), and what token is proven from a request (`Token.provenFrom_eq_ok`): always
one that may do something (`Token.Authorized`).
-/

namespace Admission

/-- Adding names lists those that were listed and those that were added. -/
theorem mem_addNew {listed names : List String} {name : String} :
    name ∈ addNew listed names ↔ name ∈ listed ∨ name ∈ names := by
  induction names generalizing listed with
  | nil => simp [addNew]
  | cons x names ih =>
    have hx : addNew listed (x :: names) =
        addNew (if x ∈ listed then listed else listed ++ [x]) names := rfl
    rw [hx, ih]
    split
    · next h =>
      simp only [List.mem_cons]
      refine ⟨Or.imp_right .inr, ?_⟩
      rintro (hl | rfl | hn)
      · exact .inl hl
      · exact .inl h
      · exact .inr hn
    · simp [or_assoc]

namespace User

variable {u : User} {e : AuthError}

/-- The account may be used: it is not locked, not disabled and not expired. -/
structure Usable (u : User) : Prop where
  unlocked : u.accountLocked = false
  enabled : u.enabled = true
  unexpired : u.accountExpired = false

/-- Whether the account grants anything. -/
def HasGrants (u : User) : Prop :=
  u.roles ≠ [] ∨ u.authorities ≠ []

/-- The first check passes for accounts that may be used. -/
theorem preCheck_eq_ok : u.preCheck = .ok () ↔ u.Usable := by
  rw [show u.Usable ↔ u.accountLocked = false ∧ u.enabled = true ∧ u.accountExpired = false from
    ⟨fun h => ⟨h.1, h.2, h.3⟩, fun h => ⟨h.1, h.2.1, h.2.2⟩⟩, preCheck]
  cases u.accountLocked <;> cases u.enabled <;> cases u.accountExpired <;> simp

/-- The second check passes if the password has not expired. -/
theorem postCheck_eq_ok : u.postCheck = .ok () ↔ u.credentialsExpired = false := by
  unfold postCheck
  cases u.credentialsExpired <;> simp

/-- The whole check passes if both do. -/
theorem check_eq_ok : u.check = .ok () ↔ u.Usable ∧ u.credentialsExpired = false := by
  rw [← preCheck_eq_ok, ← postCheck_eq_ok, check]
  cases u.preCheck with
  | error e => simp
  | ok _ => simp

/-- The first check raises one of three errors. -/
theorem kind_preCheck (h : u.preCheck = .error e) :
    e.kind = .accountLocked ∨ e.kind = .accountDisabled ∨ e.kind = .accountExpired := by
  unfold preCheck at h
  split at h
  · cases h; exact .inl rfl
  · split at h
    · cases h; exact .inr (.inl rfl)
    · split at h
      · cases h; exact .inr (.inr rfl)
      · cases h

/-- The second check raises one error. -/
theorem kind_postCheck (h : u.postCheck = .error e) : e.kind = .credentialsExpired := by
  unfold postCheck at h
  split at h
  · cases h; rfl
  · cases h

/-- A check raises one of the four errors about accounts. -/
theorem kind_check (h : u.check = .error e) : e.kind = .accountLocked ∨
    e.kind = .accountDisabled ∨ e.kind = .accountExpired ∨ e.kind = .credentialsExpired := by
  unfold check at h
  split at h
  · next hpre =>
    cases h
    rcases kind_preCheck hpre with hk | hk | hk <;> simp [hk]
  · exact .inr (.inr (.inr (kind_postCheck h)))

/-- An account grants its authorities, and its roles under their mark. -/
theorem mem_granted {a : String} :
    a ∈ u.granted ↔ a ∈ u.authorities ∨ ∃ role ∈ u.roles, a = Text.ensureLeading roleMark role := by
  simp only [granted, List.mem_append, List.mem_map, eq_comm (a := a), or_comm]

/-- It grants something exactly if it has either. -/
theorem granted_ne_nil : u.granted ≠ [] ↔ u.HasGrants := by
  simp only [granted, HasGrants, ne_eq, List.append_eq_nil_iff, List.map_eq_nil_iff,
    Decidable.not_and_iff_not_or_not]

end User

namespace Token

variable {request t : Token} {principal : Principal} {authorities : List String}

/-- A proven token keeps kind, credentials and details of the request. It needs an authority. -/
theorem provenFrom_eq_ok : request.provenFrom principal authorities = .ok t ↔
    authorities ≠ [] ∧ t = ⟨request.kind, principal, request.credentials, .ofList authorities,
      request.details, true⟩ := by
  cases authorities with
  | nil => simp [provenFrom, proven]
  | cons a as => simp [provenFrom, proven, eq_comm]

/-- A token that is marked as authenticated and may do something. -/
structure Authorized (t : Token) : Prop where
  authenticated : t.authenticated = true
  authorized : t.authorities.isEmpty = false

/-- A token proven from a request may do something. -/
theorem authorized_of_provenFrom (h : request.provenFrom principal authorities = .ok t) :
    t.Authorized := by
  obtain ⟨hne, rfl⟩ := provenFrom_eq_ok.1 h
  exact ⟨rfl, by simpa using hne⟩

end Token

end Admission
