import Admission.Provider.Standard
import Admission.Proofs.Account

/-!
# Answers of the standard providers

For each provider: when it gives a token, that it fails only with errors that it declares, and what
it does to the users. The remember-me provider and the anonymous provider both ask for the
signature of a name and are treated together (`KeyedHash.answer`).
-/

namespace Admission

variable {σ : Type} {request t : Token} {e : AuthError}

/-! ## Tokens as answers -/

namespace Answer

/-- An answer gives the token that was made, if one was. -/
theorem ofToken_eq_gave {refusal : String} {x : Except TokenError Token} :
    ofToken refusal x = .gave t ↔ x = .ok t := by
  cases x <;> simp [ofToken]

/-- An answer proves a request by a token that is marked as authenticated. -/
theorem proven?_eq_some {a : Answer} :
    a.proven? = some t ↔ a = .gave t ∧ t.authenticated = true := by
  cases a with
  | declined | failed => simp [proven?]
  | gave t' =>
    simp only [proven?, Option.ite_none_right_eq_some, Option.some.injEq, gave.injEq]
    constructor
    · rintro ⟨h, rfl⟩
      exact ⟨rfl, h⟩
    · rintro ⟨rfl, h⟩
      exact ⟨h, rfl⟩

/-- An answer has an error if it is a failure. -/
theorem error?_eq_some {a : Answer} : a.error? = some e ↔ a = .failed e := by
  cases a <;> simp [error?]

/-- A token that may not be proven counts as bad credentials. -/
theorem kind_ofToken {refusal : String} {x : Except TokenError Token}
    (h : ofToken refusal x = .failed e) : e.kind = .badCredentials := by
  cases x with
  | ok t => cases h
  | error _ => cases h; rfl

end Answer

/-! ## Passwords -/

namespace PasswordProvider

variable {p : PasswordProvider σ} {password : String} {u : User} {s : Placeholder × σ}

/-- A known user is let in if the account may be used, the password matches and has not expired, and
something is granted. -/
theorem judge_eq_gave : (p.judge request password u).answer = .gave t ↔
    u.Usable ∧ p.encoder.accepts password u.password = true ∧ u.credentialsExpired = false ∧
      request.provenFrom (.user u.withoutPassword) u.granted = .ok t := by
  rw [← User.preCheck_eq_ok, ← User.postCheck_eq_ok, judge]
  cases u.preCheck with
  | error e => simp
  | ok _ =>
    cases p.encoder.accepts password u.password with
    | false => simp
    | true =>
      cases u.postCheck with
      | error e => simp
      | ok _ => simp [Answer.ofToken_eq_gave]

/-- A password provider that has found the user fails only with errors that it declares. -/
theorem kind_judge (h : (p.judge request password u).answer = .failed e) :
    e.kind ∈ p.provider.declared := by
  unfold judge at h
  split at h
  · next e' hpre =>
    cases h
    rcases User.kind_preCheck hpre with hk | hk | hk <;> simp [provider, hk]
  · split at h
    · split at h
      · next e' hpost => cases h; simp [provider, User.kind_postCheck hpost]
      · simp [provider, Answer.kind_ofToken h]
    · cases h; simp [provider, badCredentials]

/-- A login is granted if the presented password is judged right for the stored user. -/
theorem attempt_eq_gave : (p.attempt request s).1.answer = .gave t ↔
    ∃ password u, request.kind = .usernamePassword ∧ request.credentials = .password password ∧
      (p.users.load request.name s.2).1 = .ok (some u) ∧
      (p.judge request password u).answer = .gave t := by
  unfold attempt
  split
  · next hk =>
    split
    · next password hc =>
      rcases hl : p.users.load request.name s.2 with ⟨_ | _ | u, users⟩ <;> simp [hk, hc]
    · next hc =>
      refine ⟨fun h => (nomatch h), ?_⟩
      rintro ⟨password, u, -, h, -⟩
      exact absurd h (hc password)
  · next hk =>
    refine ⟨fun h => (nomatch h), ?_⟩
    rintro ⟨password, u, h, -⟩
    exact absurd h hk

/-- A password provider fails only with errors that it declares. -/
theorem kind_of_failed (h : (p.attempt request s).1.answer = .failed e) :
    e.kind ∈ p.provider.declared := by
  unfold attempt at h
  split at h
  · split at h
    · next password hc =>
      rcases hl : p.users.load request.name s.2 with ⟨_ | _ | u, users⟩ <;> simp only [hl] at h
      · cases h
        simp [provider, unavailable]
      · cases h
        unfold unknownUser
        split <;> simp [provider, badCredentials]
      · exact kind_judge h
    · cases h
      simp [provider, badCredentials]
  · cases h

/-- A login changes nothing in the users but what looking up its name changes. -/
theorem users_attempt : (p.attempt request s).2.2 = s.2 ∨
    (p.attempt request s).2.2 = (p.users.load request.name s.2).2 := by
  unfold attempt
  split
  · split
    · rcases hl : p.users.load request.name s.2 with ⟨_ | _ | u, users⟩ <;> exact .inr rfl
    · exact .inl rfl
  · exact .inl rfl

end PasswordProvider

/-! ## Signatures -/

namespace KeyedHash

variable {k : KeyedHash} {refusal : AuthError} {given : Answer}

/-- A signature is valid for a name if it is the one that the key makes. -/
theorem verify_iff {name presented : String} :
    k.verify name presented = true ↔ presented = k.sign name := by
  rw [verify, beq_iff_eq, eq_comm]

/-- The answer to a request of a kind that has to carry the signature of its name. -/
def answer (k : KeyedHash) (kind : TokenKind) (refusal : AuthError) (given : Answer)
    (request : Token) : Answer :=
  if request.kind = kind then
    match request.credentials with
    | .keyHash presented => if k.verify request.name presented then given else .failed refusal
    | _ => .failed refusal
  else .declined

/-- A signed request is granted for a valid signature only. -/
theorem answer_eq_gave {kind : TokenKind} : k.answer kind refusal given request = .gave t ↔
    request.kind = kind ∧ request.credentials = .keyHash (k.sign request.name) ∧
      given = .gave t := by
  unfold answer
  split
  · next hk =>
    split
    · next presented hc =>
      rw [hc, Credentials.keyHash.injEq, ← verify_iff]
      split
      · next hv => simp [hk, hv]
      · next hv => simp [hv]
    · next hc => exact ⟨fun h => (nomatch h), fun h => absurd h.2.1 (hc _)⟩
  · next hk => exact ⟨fun h => (nomatch h), fun h => absurd h.1 hk⟩

/-- It fails for want of one, or because nothing is granted. -/
theorem answer_eq_failed {kind : TokenKind} (h : k.answer kind refusal given request = .failed e) :
    e = refusal ∨ given = .failed e := by
  unfold answer at h
  split at h
  · split at h
    · split at h
      · exact .inr h
      · cases h; exact .inl rfl
    · cases h; exact .inl rfl
  · cases h

end KeyedHash

namespace RememberMeProvider

variable {p : RememberMeProvider}

/-- A remember-me request is a signed request. -/
theorem answer_eq_signed : p.answer request = p.key.answer .rememberMe keyMismatch
    (.ofToken "Remember-me user has no granted authorities"
      (request.provenFrom request.principal (granted request))) request := rfl

/-- A restored user is granted what it says, if the cookie carries the signature of its name. -/
theorem answer_eq_gave : p.answer request = .gave t ↔
    request.kind = .rememberMe ∧ request.credentials = .keyHash (p.key.sign request.name) ∧
      request.provenFrom request.principal (granted request) = .ok t := by
  rw [answer_eq_signed, KeyedHash.answer_eq_gave, Answer.ofToken_eq_gave]

/-- A remember-me provider fails only with bad credentials. -/
theorem kind_of_failed (h : p.answer request = .failed e) : e.kind = .badCredentials := by
  rcases KeyedHash.answer_eq_failed (answer_eq_signed.symm.trans h) with rfl | h
  · rfl
  · exact Answer.kind_ofToken h

end RememberMeProvider

namespace AnonymousProvider

variable {p : AnonymousProvider}

/-- So is an anonymous one. -/
theorem answer_eq_signed : p.answer request = p.key.answer .anonymous keyMismatch
    (.ofToken "Anonymous token has no granted authorities"
      (request.provenFrom request.principal p.authorities)) request := rfl

/-- A visitor is granted the fixed authorities, if it carries the signature of its name. -/
theorem answer_eq_gave : p.answer request = .gave t ↔
    request.kind = .anonymous ∧ request.credentials = .keyHash (p.key.sign request.name) ∧
      request.provenFrom request.principal p.authorities = .ok t := by
  rw [answer_eq_signed, KeyedHash.answer_eq_gave, Answer.ofToken_eq_gave]

/-- An anonymous provider fails only with bad credentials. -/
theorem kind_of_failed (h : p.answer request = .failed e) : e.kind = .badCredentials := by
  rcases KeyedHash.answer_eq_failed (answer_eq_signed.symm.trans h) with rfl | h
  · rfl
  · exact Answer.kind_ofToken h

end AnonymousProvider

/-! ## Asserted names -/

namespace PreAuthenticatedProvider

variable {p : PreAuthenticatedProvider σ} {u : User} {s : σ}

/-- An asserted user is granted what it may do, if its account may be used. -/
theorem judge_eq_gave : judge request u = .gave t ↔
    u.Usable ∧ u.credentialsExpired = false ∧
      request.provenFrom (.user u.withoutPassword) u.granted = .ok t := by
  rw [← and_assoc, ← User.check_eq_ok, judge]
  cases u.check with
  | error e => simp
  | ok _ => simp [Answer.ofToken_eq_gave]

/-- An asserted name is granted something if there is a user behind it that is. -/
theorem attempt_eq_gave : (p.attempt request s).1.answer = .gave t ↔
    ∃ u, request.kind = .preAuthenticated ∧ Text.isBlank request.name = false ∧
      (p.resolve request s).1 = .ok u ∧ judge request u = .gave t := by
  unfold attempt
  split
  · next hk =>
    split
    · next hb => simp [hb]
    · next hb =>
      rcases hr : p.resolve request s with ⟨_ | u, notes, s'⟩ <;> simp [hk, hb]
  · next hk => simp [hk]

/-- The user behind a name is the stored one, where a service is asked. -/
theorem resolve_service {service : UserService σ} :
    ((⟨.service service⟩ : PreAuthenticatedProvider σ).resolve request s).1 = .ok u ↔
      (service.load request.name s).1 = .ok (some u) := by
  rcases hl : service.load request.name s with ⟨_ | _ | u', s'⟩ <;> simp [resolve, hl]

/-- The user made from roles has what the mapper makes of them. -/
theorem mem_authorities_containerUser {mapper : RoleMapper} {a : String} :
    a ∈ (containerUser mapper request).authorities ↔
      ∃ role ∈ request.containerRoles, mapper.admits role = true ∧ mapper.authority role = a := by
  simp [containerUser, User.addAuthorities, mem_addNew, RoleMapper.map, and_assoc]

/-- A role that is asserted and mapped is all it takes for the user made from roles to have
something granted. -/
theorem hasGrants_containerUser {mapper : RoleMapper} : (containerUser mapper request).HasGrants ↔
    ∃ role ∈ request.containerRoles, mapper.admits role = true := by
  constructor
  · rintro (h | h)
    · exact absurd rfl h
    · obtain ⟨a, ha⟩ := List.exists_mem_of_ne_nil _ h
      obtain ⟨role, hrole, hadmits, -⟩ := mem_authorities_containerUser.1 ha
      exact ⟨role, hrole, hadmits⟩
  · rintro ⟨role, hrole, hadmits⟩
    exact .inr (List.ne_nil_of_mem (mem_authorities_containerUser.2 ⟨role, hrole, hadmits, rfl⟩))

/-- Nothing can be wrong with the account of a user made from roles. -/
theorem judge_containerUser {mapper : RoleMapper} :
    judge request (containerUser mapper request) = .gave t ↔
      request.provenFrom (.user (containerUser mapper request))
        (containerUser mapper request).granted = .ok t := by
  rw [judge_eq_gave]
  exact ⟨fun h => h.2.2, fun h => ⟨⟨rfl, rfl, rfl⟩, rfl, h⟩⟩

/-- Without a user service a pre-authenticated provider never finds itself unavailable. -/
theorem resolve_eq_error (h : (p.resolve request s).1 = .error e) :
    ∃ service, p.source = .service service ∧
      (e = unknownUser request.name ∨ ∃ cause, e = unavailable cause) := by
  unfold resolve at h
  split at h
  · next service hp =>
    refine ⟨service, hp, ?_⟩
    rcases hl : service.load request.name s with ⟨cause | _ | u, users⟩ <;> simp only [hl] at h <;>
      cases h
    · exact .inr ⟨cause, rfl⟩
    · exact .inl rfl
  · cases h

/-- A pre-authenticated provider fails only with errors that it declares. -/
theorem kind_of_failed (h : (p.attempt request s).1.answer = .failed e) :
    e.kind ∈ p.provider.declared := by
  unfold attempt at h
  split at h
  · split at h
    · cases h
      simp [provider, declared, nobody]
    · split at h
      · next e' notes s' hr =>
        cases h
        obtain ⟨service, hp, he⟩ := resolve_eq_error (congrArg Prod.fst hr)
        rcases he with rfl | ⟨cause, rfl⟩
        · simp [provider, declared, hp, unknownUser]
        · simp [provider, declared, hp, unavailable]
      · unfold judge at h
        split at h
        · next hcheck =>
          cases h
          refine List.mem_append_left _ ?_
          rcases User.kind_check hcheck with hk | hk | hk | hk <;> simp [hk]
        · simp [provider, declared, Answer.kind_ofToken h]
  · cases h

/-- An asserted name changes nothing in the users but what looking it up changes. -/
theorem users_attempt : (p.attempt request s).2 = s ∨
    ∃ service, p.source = .service service ∧
      (p.attempt request s).2 = (service.load request.name s).2 := by
  have hresolve : (p.resolve request s).2.2 = s ∨ ∃ service, p.source = .service service ∧
      (p.resolve request s).2.2 = (service.load request.name s).2 := by
    unfold resolve
    split
    · next service hp => exact .inr ⟨service, hp, rfl⟩
    · exact .inl rfl
  unfold attempt
  split
  · split
    · exact .inl rfl
    · rcases hr : p.resolve request s with ⟨_ | u, notes, s'⟩ <;> simpa only [hr] using hresolve
  · exact .inl rfl

end PreAuthenticatedProvider

end Admission
