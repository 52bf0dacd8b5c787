import Admission.Proofs.Announcement
import Admission.Proofs.Provider.Acceptance

/-!
# What erasure leaves

A manager that erases credentials takes them from the token that it hands out, and announces that
very token. A token may hold a second secret, the stored password of the user it is about
(`Principal.HoldsPassword`), and the manager does not look there: taking it away is up to the
provider that puts the user into the token. The password provider and the pre-authenticated provider
do so. The remember-me provider and the anonymous provider hand the principal on as it was presented
(`StandardProvider.Accepts.holdsPassword_iff`).

So a token that was granted holds a password exactly if its request is of one of those two kinds
and presented a user with a password (`StandardManager.authenticate_erases`). Such requests are
granted (`StandardManager.keeps_of_restored`).
-/

namespace Admission

variable {σ : Type} {request t : Token} {users : σ} {p : StandardProvider σ}
  {principal : Principal} {authorities : List String}

/-- The principal is a user with a stored password. -/
def Principal.HoldsPassword (p : Principal) : Prop :=
  ∃ u, p = .user u ∧ u.password ≠ ""

/-- The principal of a request of this kind is handed on as it was presented. -/
def TokenKind.HandsOn (kind : TokenKind) : Prop :=
  kind = .rememberMe ∨ kind = .anonymous

theorem Principal.not_holdsPassword {u : User} (h : u.password = "") :
    ¬ (Principal.user u).HoldsPassword := by
  rintro ⟨_, ⟨⟩, hne⟩
  exact hne h

/-! ## One provider -/

namespace StandardProvider

/-- The principal of a granted token holds a password exactly if it was handed on and did so before.
-/
theorem Accepts.holdsPassword_iff (h : p.Accepts request users principal authorities) :
    principal.HoldsPassword ↔ request.kind.HandsOn ∧ request.principal.HoldsPassword := by
  have stripped : ∀ {u : User} {kind : TokenKind}, u.password = "" → request.kind = kind →
      ¬ kind.HandsOn →
      ((Principal.user u).HoldsPassword ↔
        request.kind.HandsOn ∧ request.principal.HoldsPassword) := by
    rintro u _ hu rfl hkind
    exact iff_of_false (Principal.not_holdsPassword hu) fun h => hkind h.1
  cases h with
  | password kind => exact stripped rfl kind (by simp [TokenKind.HandsOn])
  | rememberMe kind signed restored =>
    rw [restored]
    exact (and_iff_right (.inl kind)).symm
  | anonymous kind => exact (and_iff_right (.inr kind)).symm
  | stored kind => exact stripped rfl kind (by simp [TokenKind.HandsOn])
  | asserted kind => exact stripped rfl kind (by simp [TokenKind.HandsOn])

/-- A user restored from a cookie that the provider has signed is accepted as it is. -/
theorem accepts_restored {p : RememberMeProvider} {u : User} (grants : u.HasGrants) :
    (StandardProvider.rememberMe p).Accepts (.rememberMe p.key u) users (.user u) u.granted :=
  .rememberMe rfl rfl rfl grants

end StandardProvider

/-! ## Decisions -/

namespace StandardManager

variable {m : StandardManager σ} {o : Occasion} {s : State (Realm σ)}

/-- A token that is granted is about a principal that some provider of the chain accepts. -/
theorem accepts_of_result (h : (m.authenticate o request s).result = .ok t) :
    ∃ p ∈ m.chain, ∃ users authorities, p.Accepts request users t.principal authorities := by
  obtain ⟨t', hverdict, rfl⟩ := Manager.exists_verdict_of_result h
  have hprincipal : (m.handedOut t').principal = t'.principal := by
    unfold Manager.handedOut
    split <;> rfl
  rw [m.providers_eq] at hverdict
  obtain ⟨p, hp, users, principal, authorities, hacc, hfrom⟩ :=
    StandardProvider.accepts_of_verdict hverdict
  obtain ⟨-, rfl⟩ := Token.provenFrom_eq_ok.1 hfrom
  exact ⟨p, hp, users, authorities, hprincipal ▸ hacc⟩

/-- **What erasure leaves.** If credentials are erased, a token that is granted has none, and it is
the token that is announced. It is about a user with a stored password exactly if the request
presented such a user and is of a kind whose principal is handed on. -/
theorem authenticate_erases (m : StandardManager σ) (erases : m.eraseCredentials = true)
    (o : Occasion) (request t : Token) (s : State (Realm σ))
    (granted : (m.authenticate o request s).result = .ok t) :
    (m.authenticate o request s).event.map Event.token = some t ∧ t.credentials = .absent ∧
      (t.principal.HoldsPassword ↔ request.kind.HandsOn ∧ request.principal.HoldsPassword) := by
  obtain ⟨h, heq, herased, -⟩ := (m.ending o request s).of_ok granted
  obtain ⟨p, -, users, authorities, hacc⟩ := accepts_of_result granted
  exact ⟨by rw [heq]; rfl, herased erases, hacc.holdsPassword_iff⟩

/-- A login of a stored user. -/
theorem authenticate_erases_login :
    let alice : User := { username := "alice", password := "pw", roles := ["USER"] }
    let chain : List (StandardProvider Unit) :=
      [.password 0 { users := ⟨fun _ s => (.ok (some alice), s)⟩, salt := .replicate 16 0 }]
    let m : StandardManager Unit :=
      { providers := chain.map StandardProvider.provider, complete := rfl, chain := chain,
        providers_eq := rfl }
    let d := m.authenticate ⟨0, "1", ⟨0, 0, 0⟩⟩ (.usernamePassword "alice" "pw")
      ⟨{ users := () }, .empty, m.publisher⟩
    ∃ t, d.result = .ok t ∧ t.credentials = .absent ∧ ¬ t.principal.HoldsPassword := by
  intro alice chain m d
  obtain ⟨t, ht⟩ : ∃ t, d.result = .ok t := ⟨_, rfl⟩
  obtain ⟨-, hcredentials, hpassword⟩ := m.authenticate_erases rfl _ _ t _ ht
  refine ⟨t, ht, hcredentials, fun h => ?_⟩
  obtain ⟨hkind | hkind, -⟩ := hpassword.1 h <;> cases hkind

/-- Without limits on sessions, a user restored from a cookie that some provider has signed gets in
with its stored password. -/
theorem keeps_of_restored {key : KeyedHash} {u : User} (hp : .rememberMe ⟨key⟩ ∈ m.chain)
    (unrestricted : m.control = .unrestricted) (grants : u.HasGrants) (stored : u.password ≠ "") :
    ∃ t, (m.authenticate o (.rememberMe key u) s).result = .ok t ∧
      (m.authenticate o (.rememberMe key u) s).event.map Event.token = some t ∧
      t.principal.HoldsPassword := by
  obtain ⟨before, after, hchain⟩ := List.append_of_mem hp
  have hadmits : (StandardProvider.rememberMe ⟨key⟩).Admits (.rememberMe key u)
      (StandardProvider.realmAfter (.rememberMe key u) before s.realm).users :=
    ⟨_, _, StandardProvider.accepts_restored grants⟩
  have hproven := StandardProvider.verdict_isOk_iff.2 ⟨before, _, after, hchain, hadmits⟩
  rw [← m.providers_eq] at hproven
  obtain ⟨proven, hproven⟩ := hproven
  obtain ⟨t, ht⟩ : ∃ t, (m.authenticate o (.rememberMe key u) s).result = .ok t := by
    rw [Manager.authenticate_isOk, unrestricted]
    exact ⟨rfl, proven, hproven, _, rfl⟩
  obtain ⟨h, heq, -⟩ := (m.ending o (.rememberMe key u) s).of_ok ht
  obtain ⟨q, -, users, authorities, hacc⟩ := accepts_of_result ht
  have hkept : (Token.rememberMe key u).principal.HoldsPassword := ⟨u, rfl, stored⟩
  exact ⟨t, ht, by rw [heq]; rfl, hacc.holdsPassword_iff.2 ⟨.inl rfl, hkept⟩⟩

/-- A user restored from a cookie with the password that is stored for it. -/
theorem authenticate_keeps_password :
    let key : KeyedHash := ⟨"cookie-key", by simp⟩
    let bob : User := { username := "bob", password := "stored-password", roles := ["USER"] }
    let chain : List (StandardProvider Unit) := [.rememberMe ⟨key⟩]
    let m : StandardManager Unit :=
      { providers := chain.map StandardProvider.provider, complete := rfl, chain := chain,
        providers_eq := rfl }
    let o : Occasion := ⟨0, "1", ⟨0, 0, 0⟩⟩
    let s : State (Realm Unit) := ⟨{ users := () }, .empty, m.publisher⟩
    m.eraseCredentials = true ∧
      ∃ t, (m.authenticate o (.rememberMe key bob) s).result = .ok t ∧
        (m.authenticate o (.rememberMe key bob) s).event.map Event.token = some t ∧
        t.principal.HoldsPassword := by
  intro key bob chain m o s
  have hgrants : bob.HasGrants := .inl (List.cons_ne_nil _ _)
  have hstored : bob.password ≠ "" := by simp [bob]
  have hmem : .rememberMe ⟨key⟩ ∈ m.chain := List.mem_cons_self
  exact ⟨rfl, keeps_of_restored hmem rfl hgrants hstored⟩

end StandardManager

end Admission
