import Admission.Proofs.Chain
import Admission.Proofs.Directory
import Admission.Proofs.Provider.Answers

/-!
# Who gets in

`StandardProvider.Accepts` says, one rule for each way, when a standard provider accepts a request
and to whom it grants what. A rule mentions the request, the stored user and the key of the
provider. It mentions neither the order in which a provider looks at things nor what the request
says of itself beyond its claim: a token that is already marked as authenticated, or carries
authorities, is judged like any other.

A provider proves a request if and only if a rule applies (`StandardProvider.proves_iff`), and so a
manager without limits on sessions lets a request in if and only if one of its providers accepts it.
Providers look users up, and a look-up may change what later ones find; in a steady chain it does
not (`StandardProvider.Steady`).
-/

namespace Admission

variable {σ : Type} {request t : Token} {e : AuthError} {p : StandardProvider σ} {users users' : σ}
  {r : Realm σ} {principal : Principal} {authorities : List String}

/-! ## Acceptance -/

namespace StandardProvider

/-- A provider accepts a token and grants authorities to a principal, the users being in a given
state. -/
inductive Accepts (request : Token) (users : σ) :
    StandardProvider σ → Principal → List String → Prop
  /-- The stored user may be used, and the password is the stored one. -/
  | password {number : Nat} {p : PasswordProvider σ} {password : String} {u : User}
    (kind : request.kind = .usernamePassword)
    (credentials : request.credentials = .password password)
    (found : (p.users.load request.name users).1 = .ok (some u)) (usable : u.Usable)
    (known : p.encoder.accepts password u.password = true)
    (fresh : u.credentialsExpired = false) (grants : u.HasGrants) :
    Accepts request users (.password number p) (.user u.withoutPassword) u.granted
  /-- The cookie carries the signature of the name. -/
  | rememberMe {p : RememberMeProvider} {u : User} (kind : request.kind = .rememberMe)
    (signed : request.credentials = .keyHash (p.key.sign request.name))
    (restored : request.principal = .user u) (grants : u.HasGrants) :
    Accepts request users (.rememberMe p) (.user u) u.granted
  /-- The visitor carries the signature of the name. -/
  | anonymous {p : AnonymousProvider} (kind : request.kind = .anonymous)
    (signed : request.credentials = .keyHash (p.key.sign request.name)) :
    Accepts request users (.anonymous p) request.principal p.authorities
  /-- The asserted name is that of a stored user who may be used. -/
  | stored {service : UserService σ} {u : User} (kind : request.kind = .preAuthenticated)
    (named : Text.isBlank request.name = false)
    (found : (service.load request.name users).1 = .ok (some u)) (usable : u.Usable)
    (fresh : u.credentialsExpired = false) (grants : u.HasGrants) :
    Accepts request users (.preAuthenticated ⟨.service service⟩) (.user u.withoutPassword) u.granted
  /-- A role that is asserted along with the name is to be mapped. -/
  | asserted {mapper : RoleMapper} {role : String} (kind : request.kind = .preAuthenticated)
    (named : Text.isBlank request.name = false) (role_mem : role ∈ request.containerRoles)
    (mapped : mapper.admits role = true) :
    Accepts request users (.preAuthenticated ⟨.containerRoles mapper⟩)
      (.user (PreAuthenticatedProvider.containerUser mapper request))
      (PreAuthenticatedProvider.containerUser mapper request).granted

/-- The service by which a provider reaches the users. -/
def service? : StandardProvider σ → Option (UserService σ)
  | .password _ p => some p.users
  | .preAuthenticated ⟨.service users⟩ => some users
  | _ => none

/-- What a rule grants is never nothing. -/
theorem Accepts.authorities_ne_nil (h : p.Accepts request users principal authorities) :
    authorities ≠ [] := by
  cases h with
  | password _ _ _ _ _ _ grants => exact User.granted_ne_nil.2 grants
  | rememberMe _ _ _ grants => exact User.granted_ne_nil.2 grants
  | anonymous => exact AnonymousProvider.authorities_ne _
  | stored _ _ _ _ _ grants => exact User.granted_ne_nil.2 grants
  | asserted _ _ role_mem mapped =>
    exact User.granted_ne_nil.2
      (PreAuthenticatedProvider.hasGrants_containerUser.2 ⟨_, role_mem, mapped⟩)

/-- A provider supports the requests that it accepts. -/
theorem Accepts.supports (h : p.Accepts request users principal authorities) :
    p.provider.supports request.kind = true := by
  cases h <;> exact beq_iff_eq.2 ‹_›

/-! ## One provider -/

/-- A password provider grants what the rule for passwords says. -/
theorem gave_password {number : Nat} {p : PasswordProvider σ} :
    ((password number p).provider.attempt request r).1.answer = .gave t ↔
      ∃ principal authorities, (password number p).Accepts request r.users principal authorities ∧
        request.provenFrom principal authorities = .ok t := by
  refine Iff.trans PasswordProvider.attempt_eq_gave ?_
  simp only [PasswordProvider.judge_eq_gave]
  constructor
  · rintro ⟨password, u, kind, credentials, found, usable, known, fresh, ht⟩
    have grants := User.granted_ne_nil.1 (Token.provenFrom_eq_ok.1 ht).1
    exact ⟨_, _, .password kind credentials found usable known fresh grants, ht⟩
  · rintro ⟨_, _, hacc, ht⟩
    cases hacc with
    | password kind credentials found usable known fresh grants =>
      exact ⟨_, _, kind, credentials, found, usable, known, fresh, ht⟩

/-- A remember-me provider grants what the rule for cookies says. -/
theorem gave_rememberMe {p : RememberMeProvider} :
    ((rememberMe p : StandardProvider σ).provider.attempt request r).1.answer = .gave t ↔
      ∃ principal authorities, (rememberMe p).Accepts request r.users principal authorities ∧
        request.provenFrom principal authorities = .ok t := by
  refine Iff.trans RememberMeProvider.answer_eq_gave ?_
  constructor
  · rintro ⟨kind, signed, ht⟩
    have hne := (Token.provenFrom_eq_ok.1 ht).1
    cases hp : request.principal with
    | name n => exact absurd (by rw [RememberMeProvider.granted, hp]; rfl) hne
    | user u =>
      rw [RememberMeProvider.granted, hp] at ht hne
      exact ⟨_, _, .rememberMe kind signed hp (User.granted_ne_nil.1 hne), ht⟩
  · rintro ⟨_, _, hacc, ht⟩
    cases hacc with
    | rememberMe kind signed restored grants =>
      exact ⟨kind, signed, by rw [RememberMeProvider.granted, restored]; exact ht⟩

/-- An anonymous provider grants what the rule for visitors says. -/
theorem gave_anonymous {p : AnonymousProvider} :
    ((anonymous p : StandardProvider σ).provider.attempt request r).1.answer = .gave t ↔
      ∃ principal authorities, (anonymous p).Accepts request r.users principal authorities ∧
        request.provenFrom principal authorities = .ok t := by
  refine Iff.trans AnonymousProvider.answer_eq_gave ?_
  constructor
  · rintro ⟨kind, signed, ht⟩
    exact ⟨_, _, .anonymous kind signed, ht⟩
  · rintro ⟨_, _, hacc, ht⟩
    cases hacc with
    | anonymous kind signed => exact ⟨kind, signed, ht⟩

/-- A pre-authenticated provider grants what the rules for stored and for asserted users say. -/
theorem gave_preAuthenticated {p : PreAuthenticatedProvider σ} :
    ((preAuthenticated p).provider.attempt request r).1.answer = .gave t ↔
      ∃ principal authorities, (preAuthenticated p).Accepts request r.users principal authorities ∧
        request.provenFrom principal authorities = .ok t := by
  refine Iff.trans PreAuthenticatedProvider.attempt_eq_gave ?_
  rcases p with ⟨service | mapper⟩
  · constructor
    · rintro ⟨u, kind, named, found, ht⟩
      have found := PreAuthenticatedProvider.resolve_service.1 found
      obtain ⟨usable, fresh, ht⟩ := PreAuthenticatedProvider.judge_eq_gave.1 ht
      have grants := User.granted_ne_nil.1 (Token.provenFrom_eq_ok.1 ht).1
      exact ⟨_, _, .stored kind named found usable fresh grants, ht⟩
    · rintro ⟨_, _, hacc, ht⟩
      cases hacc with
      | stored kind named found usable fresh grants =>
        exact ⟨_, kind, named, PreAuthenticatedProvider.resolve_service.2 found,
          PreAuthenticatedProvider.judge_eq_gave.2 ⟨usable, fresh, ht⟩⟩
  · constructor
    · rintro ⟨_, kind, named, ⟨⟩, ht⟩
      have ht := PreAuthenticatedProvider.judge_containerUser.1 ht
      have grants := User.granted_ne_nil.1 (Token.provenFrom_eq_ok.1 ht).1
      obtain ⟨role, role_mem, mapped⟩ := PreAuthenticatedProvider.hasGrants_containerUser.1 grants
      exact ⟨_, _, .asserted kind named role_mem mapped, ht⟩
    · rintro ⟨_, _, hacc, ht⟩
      cases hacc with
      | asserted kind named role_mem mapped =>
        exact ⟨_, kind, named, rfl, PreAuthenticatedProvider.judge_containerUser.2 ht⟩

/-- A standard provider gives a token if a rule applies, and then the one that the rule says. -/
theorem attempt_eq_gave : (p.provider.attempt request r).1.answer = .gave t ↔
    ∃ principal authorities, p.Accepts request r.users principal authorities ∧
      request.provenFrom principal authorities = .ok t := by
  cases p with
  | password => exact gave_password
  | rememberMe => exact gave_rememberMe
  | anonymous => exact gave_anonymous
  | preAuthenticated => exact gave_preAuthenticated

/-- A standard provider proves the requests that it accepts. -/
theorem proves_iff : p.provider.Proves request r ↔
    ∃ principal authorities, p.Accepts request r.users principal authorities := by
  constructor
  · rintro ⟨-, hproven⟩
    obtain ⟨t, ht⟩ := Option.isSome_iff_exists.1 hproven
    obtain ⟨principal, authorities, hacc, -⟩ := attempt_eq_gave.1 (Answer.proven?_eq_some.1 ht).1
    exact ⟨principal, authorities, hacc⟩
  · rintro ⟨principal, authorities, hacc⟩
    have hgave := attempt_eq_gave.2
      ⟨principal, authorities, hacc, Token.provenFrom_eq_ok.2 ⟨hacc.authorities_ne_nil, rfl⟩⟩
    exact ⟨hacc.supports, Option.isSome_iff_exists.2 ⟨_, Answer.proven?_eq_some.2 ⟨hgave, rfl⟩⟩⟩

/-- A standard provider fails only with errors that it declares. -/
theorem kind_of_failed (h : (p.provider.attempt request r).1.answer = .failed e) :
    e.kind ∈ p.provider.declared := by
  cases p with
  | password => exact PasswordProvider.kind_of_failed h
  | rememberMe => exact List.mem_singleton.2 (RememberMeProvider.kind_of_failed h)
  | anonymous => exact List.mem_singleton.2 (AnonymousProvider.kind_of_failed h)
  | preAuthenticated => exact PreAuthenticatedProvider.kind_of_failed h

/-- A standard provider changes nothing in the users but what looking up the name changes. -/
theorem users_attempt (p : StandardProvider σ) (request : Token) (r : Realm σ) :
    (p.provider.attempt request r).2.users = r.users ∨
    ∃ service, p.service? = some service ∧
      (p.provider.attempt request r).2.users = (service.load request.name r.users).2 := by
  cases p with
  | password number p =>
    rcases PasswordProvider.users_attempt with h | h
    · exact .inl h
    · exact .inr ⟨_, rfl, h⟩
  | rememberMe | anonymous => exact .inl rfl
  | preAuthenticated p =>
    rcases PreAuthenticatedProvider.users_attempt with h | ⟨service, hp, h⟩
    · exact .inl h
    · obtain ⟨source⟩ := p
      cases hp
      exact .inr ⟨service, rfl, h⟩

/-- What a provider accepts depends on the users only by what its service answers to the name. -/
theorem Accepts.congr (h : p.Accepts request users principal authorities)
    (hload : ∀ service, p.service? = some service →
      (service.load request.name users').1 = (service.load request.name users).1) :
    p.Accepts request users' principal authorities := by
  cases h with
  | password kind credentials found usable known fresh grants =>
    exact .password kind credentials ((hload _ rfl).trans found) usable known fresh grants
  | rememberMe kind signed restored grants => exact .rememberMe kind signed restored grants
  | anonymous kind signed => exact .anonymous kind signed
  | stored kind named found usable fresh grants =>
    exact .stored kind named ((hload _ rfl).trans found) usable fresh grants
  | asserted kind named role_mem mapped => exact .asserted kind named role_mem mapped

end StandardProvider

/-! ## A chain -/

/-- What holds of every token that a provider gives holds of the token of a verdict, which is proven
besides. -/
theorem of_verdict {Q : Token → Prop} {ps : List (Provider σ)} {s : σ} {kind : TokenKind} {n : Nat}
    (hgave : ∀ p ∈ ps, ∀ s t, (p.attempt request s).1.answer = .gave t → Q t)
    (h : verdict kind (consult request n ps s).1 = .ok t) : Q t ∧ t.authenticated = true := by
  obtain ⟨c, hc, hproven⟩ := verdict_eq_ok h
  obtain ⟨hanswer, hauthenticated⟩ := Answer.proven?_eq_some.1 hproven
  have hgiven := forall_consult (P := fun a => ∀ t, a.answer = .gave t → Q t) hgave c hc
  exact ⟨hgiven t hanswer, hauthenticated⟩

/-- A manager of standard providers. -/
structure StandardManager (σ : Type) extends Manager (Realm σ) where
  chain : List (StandardProvider σ)
  providers_eq : providers = chain.map StandardProvider.provider

namespace StandardProvider

variable {chain : List (StandardProvider σ)}

/-- A provider accepts a request, to whomever it grants what. -/
def Admits (p : StandardProvider σ) (request : Token) (users : σ) : Prop :=
  ∃ principal authorities, p.Accepts request users principal authorities

/-- The realm after some providers had their turns. -/
def realmAfter (request : Token) (chain : List (StandardProvider σ)) (r : Realm σ) : Realm σ :=
  (chain.map StandardProvider.provider).foldl (Provider.turn request) r

/-- Looking a name up by one service of a chain changes nothing in what another one, or the same one
again, answers to that name. -/
def Steady (chain : List (StandardProvider σ)) : Prop :=
  ∀ p ∈ chain, ∀ q ∈ chain, ∀ a b, p.service? = some a → q.service? = some b →
    ∀ name users, (b.load name (a.load name users).2).1 = (b.load name users).1

/-- A chain proves a request if one of its providers accepts it when its turn comes. -/
theorem verdict_isOk_iff : (∃ t, verdict request.kind
      (consult request 0 (chain.map StandardProvider.provider) r).1 = .ok t) ↔
    ∃ before p after, chain = before ++ p :: after ∧
      p.Admits request (realmAfter request before r).users := by
  rw [verdict_isOk, exists_proven_consult]
  constructor
  · rintro ⟨before, p, after, h, hp⟩
    obtain ⟨before, rest, rfl, rfl, hrest⟩ := List.map_eq_append_iff.1 h
    obtain ⟨p, after, rfl, rfl, rfl⟩ := List.map_eq_cons_iff.1 hrest
    exact ⟨before, p, after, rfl, proves_iff.1 hp⟩
  · rintro ⟨before, p, after, rfl, hp⟩
    exact ⟨_, p.provider, after.map StandardProvider.provider, by simp, proves_iff.2 hp⟩

/-- The token of a verdict is one that some provider of the chain accepts to give. -/
theorem accepts_of_verdict {kind : TokenKind} {n : Nat} (h : verdict kind
      (consult request n (chain.map StandardProvider.provider) r).1 = .ok t) :
    ∃ p ∈ chain, ∃ users principal authorities,
      p.Accepts request users principal authorities ∧
        request.provenFrom principal authorities = .ok t := by
  have hgiven : ∀ q ∈ chain.map StandardProvider.provider, ∀ r t,
      (q.attempt request r).1.answer = .gave t → ∃ p ∈ chain, ∃ users principal authorities,
        p.Accepts request users principal authorities ∧
          request.provenFrom principal authorities = .ok t := by
    intro q hq r' t' hgave
    obtain ⟨p, hp, rfl⟩ := List.mem_map.1 hq
    obtain ⟨principal, authorities, hacc, hfrom⟩ := attempt_eq_gave.1 hgave
    exact ⟨p, hp, r'.users, principal, authorities, hacc, hfrom⟩
  exact (of_verdict hgiven h).1

/-- A turn changes nothing in the users but what looking up the name changes. -/
theorem users_turn (p : StandardProvider σ) (request : Token) (r : Realm σ) :
    (Provider.turn request r p.provider).users = r.users ∨
    ∃ service, p.service? = some service ∧
      (Provider.turn request r p.provider).users = (service.load request.name r.users).2 := by
  unfold Provider.turn
  split
  · exact users_attempt p request r
  · exact .inl rfl

/-- In a steady chain the services answer to the name as they did at the start. -/
theorem Steady.load_realmAfter (h : Steady chain) {before : List (StandardProvider σ)}
    (hbefore : ∀ q ∈ before, q ∈ chain) (hp : p ∈ chain) {service : UserService σ}
    (hs : p.service? = some service) :
    (service.load request.name (realmAfter request before r).users).1 =
      (service.load request.name r.users).1 := by
  induction before generalizing r with
  | nil => rfl
  | cons q before ih =>
    have hturn : (service.load request.name (Provider.turn request r q.provider).users).1 =
        (service.load request.name r.users).1 := by
      rcases users_turn q request r with hq | ⟨a, ha, hq⟩
      · rw [hq]
      · rw [hq]
        exact h q (hbefore q List.mem_cons_self) p hp a service ha hs _ _
    exact (ih fun q hq => hbefore q (List.mem_cons_of_mem _ hq)).trans hturn

/-- In a steady chain a provider accepts in its turn what it accepts at the start. -/
theorem Steady.admits_iff (h : Steady chain) {before : List (StandardProvider σ)}
    (hbefore : ∀ q ∈ before, q ∈ chain) (hp : p ∈ chain) :
    p.Admits request (realmAfter request before r).users ↔ p.Admits request r.users := by
  have hload : ∀ service, p.service? = some service →
      (service.load request.name (realmAfter request before r).users).1 =
        (service.load request.name r.users).1 :=
    fun service hs => h.load_realmAfter hbefore hp hs
  constructor
  · rintro ⟨principal, authorities, hacc⟩
    exact ⟨principal, authorities, hacc.congr fun service hs => (hload service hs).symm⟩
  · rintro ⟨principal, authorities, hacc⟩
    exact ⟨principal, authorities, hacc.congr hload⟩

/-- A steady chain proves a request if one of its providers accepts it, whatever its place. -/
theorem Steady.exists_admits_iff (h : Steady chain) :
    (∃ before p after, chain = before ++ p :: after ∧
      p.Admits request (realmAfter request before r).users) ↔
    ∃ p ∈ chain, p.Admits request r.users := by
  have hsplit : ∀ before p after, chain = before ++ p :: after →
      (∀ q ∈ before, q ∈ chain) ∧ p ∈ chain := by
    rintro before p after rfl
    exact ⟨fun q hq => List.mem_append_left _ hq, by simp⟩
  constructor
  · rintro ⟨before, p, after, heq, hp⟩
    obtain ⟨hbefore, hmem⟩ := hsplit before p after heq
    exact ⟨p, hmem, (h.admits_iff hbefore hmem).1 hp⟩
  · rintro ⟨p, hmem, hp⟩
    obtain ⟨before, after, heq⟩ := List.append_of_mem hmem
    exact ⟨before, p, after, heq, (h.admits_iff (hsplit before p after heq).1 hmem).2 hp⟩

/-- The providers of a chain reach the users of one directory, each through its cache or past it. -/
def OverDirectory (chain : List (StandardProvider Directory)) : Prop :=
  ∀ p ∈ chain, ∀ service, p.service? = some service → Directory.Reached service

theorem OverDirectory.steady {chain : List (StandardProvider Directory)}
    (h : OverDirectory chain) : Steady chain := by
  intro p hp q hq a b ha hb name users
  exact Directory.load_load (h p hp a ha) (h q hq b hb)

/-- The smallest chain over a directory. -/
theorem overDirectory_password {number : Nat} {p : PasswordProvider Directory}
    (h : Directory.Reached p.users) : OverDirectory [.password number p] := by
  intro q hq service hs
  cases List.mem_singleton.1 hq
  cases hs
  exact h

end StandardProvider

/-! ## Decisions -/

/-- **Who gets in.** A manager without limits on sessions gives a token if and only if one of its
providers accepts the request when its turn comes, whatever the others answer. In a steady chain,
such as one over a directory, it does not matter either what earlier providers did to the users. -/
theorem StandardManager.authenticate_isOk_iff_admits (m : StandardManager σ)
    (h : m.control = .unrestricted) (o : Occasion) (request : Token) (s : State (Realm σ)) :
    ((∃ t, (m.authenticate o request s).result = .ok t) ↔
      ∃ before p after, m.chain = before ++ p :: after ∧
        p.Admits request (StandardProvider.realmAfter request before s.realm).users) ∧
    (StandardProvider.Steady m.chain →
      ((∃ t, (m.authenticate o request s).result = .ok t) ↔
        ∃ p ∈ m.chain, p.Admits request s.realm.users)) := by
  have hturn : (∃ t, (m.authenticate o request s).result = .ok t) ↔
      ∃ before p after, m.chain = before ++ p :: after ∧
        p.Admits request (StandardProvider.realmAfter request before s.realm).users := by
    rw [← StandardProvider.verdict_isOk_iff, ← m.providers_eq, Manager.authenticate_isOk, h]
    simp [SessionControl.check, SessionControl.register]
  exact ⟨hturn, fun hsteady => hturn.trans hsteady.exists_admits_iff⟩

/-- A login whose user is in the store and not yet in the cache. -/
theorem StandardManager.authenticate_isOk_login :
    let chain : List (StandardProvider Directory) :=
      [.password 0 { users := Directory.service, salt := .replicate 16 0 }]
    let m : StandardManager Directory :=
      { providers := chain.map StandardProvider.provider, complete := rfl, chain := chain,
        providers_eq := rfl }
    let alice : User := { username := "alice", password := "pw", roles := ["USER"] }
    let s : State (Realm Directory) :=
      ⟨{ users := .cached { inner := UserStore.empty.add alice } }, .empty, m.publisher⟩
    let o : Occasion := ⟨0, "1", ⟨0, 0, 0⟩⟩
    ∃ t, (m.authenticate o (.usernamePassword "alice" "pw") s).result = .ok t := by
  intro chain m alice s o
  have hover : StandardProvider.OverDirectory chain :=
    StandardProvider.overDirectory_password (.inl rfl)
  have found : (Directory.service.load "alice" s.realm.users).1 = .ok (some alice) := by
    have hfresh : Cached.fresh? { inner := UserStore.empty.add alice } "alice" = none := by
      simp [Cached.fresh?]
    show (Cached.load UserStore.service "alice" { inner := UserStore.empty.add alice }).1 = _
    rw [Cached.answer_of_not_fresh hfresh]
    show Except.ok ((UserStore.empty.add alice).find? "alice") = _
    rw [UserStore.find?_add, if_pos rfl]
  have hadmits : ∃ p ∈ chain, p.Admits (.usernamePassword "alice" "pw") s.realm.users :=
    ⟨_, List.mem_cons_self, _, _, .password rfl rfl found ⟨rfl, rfl, rfl⟩ rfl rfl
      (.inl (List.cons_ne_nil _ _))⟩
  exact ((m.authenticate_isOk_iff_admits rfl _ _ s).2 hover.steady).2 hadmits

end Admission
