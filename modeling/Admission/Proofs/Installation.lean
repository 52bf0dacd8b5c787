import Admission.Proofs.Provider.Acceptance
import Admission.Proofs.Session.Agreement

/-!
# Installations

A manager of standard providers with a limit on sessions, over a directory of users. While it
decides requests, users come and go, the cache forgets, and sessions are refreshed, expire and end,
in any order (`InstallationStep`, `StandardManager.run`).

A session is registered for the principal that a provider has proven. That this is the one who was
admitted rests on the look-ups: as long as users are filed under their names, every provider proves
a request under the name and session that it came with (`StandardProvider.Accepts.username_eq`).
Then the second look at the limit has nothing to refuse (`StandardManager.register_heard`), and no
error of a provider is mistaken for a refusal by the limit, for no provider declares that error.
-/

namespace Admission

variable {σ : Type} {request t : Token} {e : AuthError} {p : StandardProvider σ} {users : σ}
  {r : Realm σ} {principal : Principal} {authorities : List String} {I : σ → Prop}

/-! ## One provider -/

namespace StandardProvider

/-- The service of a provider, if it has one, finds users of the name asked for. -/
def Names (p : StandardProvider σ) (I : σ → Prop) : Prop :=
  ∀ service, p.service? = some service → service.Names I

/-- A request is accepted under its own name. -/
theorem Accepts.username_eq (hp : p.Names I) (hI : I users)
    (h : p.Accepts request users principal authorities) : principal.username = request.name := by
  cases h with
  | password kind credentials found =>
    have hu := (hp _ rfl).named hI found
    exact hu
  | rememberMe kind signed restored => exact (congrArg Principal.username restored).symm
  | anonymous => rfl
  | stored kind named found =>
    have hu := (hp _ rfl).named hI found
    exact hu
  | asserted => rfl

/-- What is known of an attempt to prove a request: a proven token keeps the name and the session of
the request, and a failure is never that of the limit on sessions. -/
structure Honest (request : Token) (a : Attempt) : Prop where
  proven : ∀ t, a.answer.proven? = some t →
    t.name = request.name ∧ t.sessionId? = request.sessionId?
  failed : ∀ e, a.answer.error? = some e → e.kind ≠ .concurrentLoginLimitExceeded

/-- The limit on sessions is no business of a provider. -/
theorem limit_not_mem_declared : .concurrentLoginLimitExceeded ∉ p.provider.declared := by
  cases p with
  | password => simp [provider, Provider.within, PasswordProvider.provider]
  | rememberMe => simp [provider, RememberMeProvider.provider]
  | anonymous => simp [provider, AnonymousProvider.provider]
  | preAuthenticated p =>
    obtain ⟨service | mapper⟩ := p <;>
      simp [provider, Provider.within, PreAuthenticatedProvider.provider,
        PreAuthenticatedProvider.declared]

/-- An attempt of a standard provider is honest as long as its look-ups find the user asked for. -/
theorem honest_attempt (hp : p.Names I) (hI : I r.users) :
    Honest request (p.provider.attempt request r).1 := by
  constructor
  · intro t ht
    obtain ⟨hgave, -⟩ := Answer.proven?_eq_some.1 ht
    obtain ⟨principal, authorities, hacc, hproven⟩ := attempt_eq_gave.1 hgave
    obtain ⟨-, rfl⟩ := Token.provenFrom_eq_ok.1 hproven
    exact ⟨hacc.username_eq hp hI, rfl⟩
  · intro e he hkind
    have hmem := kind_of_failed (Answer.error?_eq_some.1 he)
    rw [hkind] at hmem
    exact limit_not_mem_declared hmem

/-- An attempt preserves what the look-ups preserve. -/
theorem Names.attempt (hp : p.Names I) (hI : I r.users) :
    I (p.provider.attempt request r).2.users := by
  rcases users_attempt p request r with h | ⟨service, hs, h⟩
  · rw [h]; exact hI
  · rw [h]; exact (hp service hs).keeps hI request.name

end StandardProvider

/-! ## One decision -/

namespace StandardManager

variable {m : StandardManager σ} {o : Occasion} {s : State (Realm σ)} {limit : SessionLimit}
  {valid : limit.validate = .ok ()} {log : List LogRecord}

/-- Every consultation is honest, and the chain preserves what the look-ups preserve. -/
theorem honest_heard (hm : ∀ p ∈ m.chain, p.Names I) (hI : I s.realm.users) :
    (∀ c ∈ (m.heard request s log).consulted, StandardProvider.Honest request c.attempt) ∧
      I (m.heard request s log).state.realm.users := by
  refine consult_induction (I := fun r : Realm σ => I r.users) ?_ hI
  intro q hq _ r hr
  rw [m.providers_eq] at hq
  obtain ⟨p, hp, rfl⟩ := List.mem_map.1 hq
  exact ⟨StandardProvider.honest_attempt (hm p hp) hr, (hm p hp).attempt hr⟩

/-- The session of a token that the chain has proven is never refused. -/
theorem register_heard (hc : m.control = .limited limit valid) (hm : ∀ p ∈ m.chain, p.Names I)
    (hI : I s.realm.users) (hcheck : m.control.check s.sessions request = (.ok (), log))
    (ht : verdict request.kind (m.heard request s log).consulted = .ok t) :
    ∃ out, m.control.register s.sessions o.now o.sessionId t = .ok out := by
  obtain ⟨c, hmem, hproven⟩ := verdict_eq_ok ht
  obtain ⟨hname, hid⟩ := ((honest_heard hm hI).1 c hmem).proven t hproven
  rw [hc] at hcheck ⊢
  exact SessionControl.register_isOk_of_check hname hid (congrArg Prod.fst hcheck)

/-- A chain never fails with a refusal by the limit. -/
theorem kind_of_verdict (hm : ∀ p ∈ m.chain, p.Names I) (hI : I s.realm.users)
    (he : verdict request.kind (m.heard request s log).consulted = .error e) :
    e.kind ≠ .concurrentLoginLimitExceeded := by
  rcases verdict_eq_error he with rfl | ⟨c, hmem, hfailed⟩
  · exact fun h => nomatch h
  · exact ((honest_heard hm hI).1 c hmem).failed e hfailed

/-- Who is refused by the limit was refused before anybody was asked. -/
theorem consulted_of_refused (hc : m.control = .limited limit valid)
    (hm : ∀ p ∈ m.chain, p.Names I) (hI : I s.realm.users) {e : ManagerError}
    (he : (m.authenticate o request s).result = .error e)
    (hkind : e.kind? = some .concurrentLoginLimitExceeded) :
    (m.authenticate o request s).consulted = [] := by
  cases m.outcome o request s with
  | denied e log check eq => rw [eq, Manager.consulted_fail]
  | failed e' log check verdict eq =>
    rw [eq, Manager.result_fail] at he
    cases he
    unfold Manager.report at hkind
    split at hkind
    · exact absurd (Option.some.inj hkind) (kind_of_verdict hm hI verdict)
    · cases hkind
  | refused t e' log check verdict register eq =>
    obtain ⟨out, hout⟩ := register_heard (o := o) hc hm hI check verdict
    cases register.symm.trans hout
  | granted t r log registered check verdict register eq =>
    rw [eq] at he
    cases he

/-- Who is proven gets in. -/
theorem result_of_proven (hc : m.control = .limited limit valid)
    (hm : ∀ p ∈ m.chain, p.Names I) (hI : I s.realm.users)
    (h : ∃ c ∈ (m.authenticate o request s).consulted,
      c.attempt.answer.proven?.isSome = true) :
    ∃ t, (m.authenticate o request s).result = .ok t := by
  cases m.outcome o request s with
  | denied e log check eq =>
    rw [eq, Manager.consulted_fail] at h
    obtain ⟨c, hmem, -⟩ := h
    cases hmem
  | failed e log check verdict eq =>
    rw [eq, Manager.consulted_fail] at h
    obtain ⟨t, ht⟩ := verdict_isOk.2 h
    cases verdict.symm.trans ht
  | refused t e log check verdict register eq =>
    obtain ⟨out, hout⟩ := register_heard (o := o) hc hm hI check verdict
    cases register.symm.trans hout
  | granted t r log registered check verdict register eq =>
    rw [eq]
    exact ⟨_, rfl⟩

/-- A decision preserves what the look-ups preserve. -/
theorem users_authenticate (hm : ∀ p ∈ m.chain, p.Names I) (hI : I s.realm.users) :
    I (m.authenticate o request s).state.realm.users := by
  cases m.outcome o request s with
  | denied e log check eq => rw [eq, Manager.realm_fail]; exact hI
  | failed e log check verdict eq =>
    rw [eq, Manager.realm_fail]
    exact (honest_heard hm hI).2
  | refused t e log check verdict register eq =>
    rw [eq, Manager.realm_fail]
    exact (honest_heard hm hI).2
  | granted t r log registered check verdict register eq =>
    have husers : I (m.heard request s log).state.realm.users := (honest_heard hm hI).2
    rw [eq]
    exact husers

end StandardManager

/-! ## Runs -/

/-- The directory of a system that has just started, with a cache if a time to live is given. -/
def Directory.vacant : (ttl? : Option Nat) → Directory
  | none => direct .empty
  | some ttl => cached { inner := .empty, ttl := ttl }

theorem Directory.Filed.vacant (ttl? : Option Nat) : (vacant ttl?).Filed := by
  cases ttl? with
  | none => exact UserStore.Filed.empty
  | some ttl => exact ⟨UserStore.Filed.empty, fun name entry h => by simp at h⟩

/-- Something that happens to an installation. -/
inductive InstallationStep
  /-- A request is decided. -/
  | decide (o : Occasion) (request : Token)
  /-- The users change, or what is remembered of them. -/
  | users (change : DirectoryChange)
  /-- Somebody else calls the registry of sessions. -/
  | sessions (call : RegistryCall)

namespace StandardManager

variable {m : StandardManager Directory} {s : State (Realm Directory)}

/-- What a step does to the state of an installation. -/
def step (m : StandardManager Directory) (s : State (Realm Directory)) :
    InstallationStep → State (Realm Directory)
  | .decide o request => (m.authenticate o request s).state
  | .users change => { s with realm := { s.realm with users := change.apply s.realm.users } }
  | .sessions call => { s with sessions := call.step s.sessions }

/-- Does one step after the other. -/
def run (m : StandardManager Directory) (steps : List InstallationStep)
    (s : State (Realm Directory)) : State (Realm Directory) :=
  steps.foldl m.step s

/-- The providers of a chain over a directory find users of the name asked for. -/
theorem names_of_overDirectory (hm : StandardProvider.OverDirectory m.chain) :
    ∀ p ∈ m.chain, p.Names Directory.Filed :=
  fun p hp service hs => (hm p hp service hs).names

/-- Every step keeps the users filed under their names. -/
theorem filed_step (hm : StandardProvider.OverDirectory m.chain) (h : s.realm.users.Filed)
    (step : InstallationStep) : (m.step s step).realm.users.Filed := by
  cases step with
  | decide o request => exact users_authenticate (names_of_overDirectory hm) h
  | users change => exact h.apply change
  | sessions call => exact h

theorem filed_run (hm : StandardProvider.OverDirectory m.chain) (h : s.realm.users.Filed)
    (steps : List InstallationStep) : (m.run steps s).realm.users.Filed := by
  induction steps generalizing s with
  | nil => exact h
  | cons step steps ih => exact ih (filed_step hm h step)

end StandardManager

/-- **Admission and registration agree**, and so a limit is decided before anybody is asked.

A request is admitted if and only if the registration of a token with its name and session succeeds
in the same state (where it names no session, the identifier drawn must not be that of a live
session of the principal), and a refused registration leaves the registry as it was. Therefore,
whatever has happened to an installation since it started without users, a request that is refused
by the limit was put to no provider, a request that some provider proves is granted, and one that is
not granted registers nothing. -/
theorem StandardManager.limit_agreement (limit : SessionLimit) (valid : limit.validate = .ok ()) :
    (∀ (r : SessionRegistry) (now : Nat) (fresh : String) (request proven : Token),
      proven.name = request.name → proven.sessionId? = request.sessionId? →
      (request.sessionId? = none →
        SessionControl.owns (r.all request.name) fresh = false) →
      ((SessionControl.check (.limited limit valid) r request).1 = .ok () ↔
        ∃ out, SessionControl.register (.limited limit valid) r now fresh proven = .ok out)) ∧
    (∀ (r : SessionRegistry) (now : Nat) (fresh : String) (proven : Token) (e : AuthError),
      SessionControl.register (.limited limit valid) r now fresh proven = .error e →
      SessionControl.registered (.limited limit valid) r now fresh proven = r) ∧
    ∀ m : StandardManager Directory, m.control = .limited limit valid →
      StandardProvider.OverDirectory m.chain →
      ∀ (ttl? : Option Nat) (s : State (Realm Directory)), s.realm.users = .vacant ttl? →
      ∀ (steps : List InstallationStep) (o : Occasion) (request : Token),
        let d := m.authenticate o request (m.run steps s)
        (∀ e, d.result = .error e → e.kind? = some .concurrentLoginLimitExceeded →
          d.consulted = []) ∧
        ((∃ c ∈ d.consulted, c.attempt.answer.proven?.isSome = true) →
          ∃ t, d.result = .ok t) ∧
        (∀ e, d.result = .error e → d.state.sessions = (m.run steps s).sessions) := by
  refine ⟨?_, ?_, ?_⟩
  · intro r now fresh request proven hname hid hfresh
    exact SessionControl.check_isOk_iff_register_isOk hname hid hfresh
  · intro r now fresh proven e he
    rw [SessionControl.registered, he]
  · intro m hc hm ttl? s hs steps o request d
    have hnames := names_of_overDirectory hm
    have hfiled := filed_run hm (hs ▸ Directory.Filed.vacant ttl?) steps
    refine ⟨?_, ?_, ?_⟩
    · intro e he hkind
      exact consulted_of_refused hc hnames hfiled he hkind
    · exact result_of_proven hc hnames hfiled
    · intro e he
      exact Manager.sessions_of_error he

/-- Two logins of one user from two sessions under a maximum of one. -/
theorem StandardManager.limit_agreement_two_logins :
    let limit : SessionLimit := ⟨some 1, true⟩
    let control := SessionControl.limited limit rfl
    let login id := (Token.usernamePassword "alice" "pw").withDetails { sessionId := some id }
    let chain : List (StandardProvider Directory) :=
      [.password 0 { users := Directory.service, salt := .replicate 16 0 }]
    let m : StandardManager Directory :=
      { providers := chain.map StandardProvider.provider, control := control, complete := rfl,
        chain := chain, providers_eq := rfl }
    let s : State (Realm Directory) := ⟨{ users := .vacant (some 300000) }, .empty, m.publisher⟩
    let alice : User := { username := "alice", password := "pw", roles := ["USER"] }
    let d := m.authenticate ⟨1, "2", ⟨1, 1, 1⟩⟩ (login "b") <| m.run
      [.users (.add alice), .decide ⟨0, "1", ⟨0, 0, 0⟩⟩ (login "a"), .users (.delete "alice")] s
    ((control.check (.register .empty 0 "a" "alice") (login "b")).1 = .ok () ↔
      ∃ out, control.register (.register .empty 0 "a" "alice") 1 "2" (login "b") = .ok out) ∧
    ((∃ c ∈ d.consulted, c.attempt.answer.proven?.isSome = true) → ∃ t, d.result = .ok t) := by
  intro limit control login chain m s alice d
  obtain ⟨hagree, -, hruns⟩ := limit_agreement limit rfl
  have hover : StandardProvider.OverDirectory m.chain :=
    StandardProvider.overDirectory_password (.inl rfl)
  exact ⟨hagree _ _ _ _ _ rfl rfl (fun h => nomatch h),
    (hruns m rfl hover (some 300000) s rfl _ _ (login "b")).2.1⟩

end Admission
