import Admission.Proofs.Precedence
import Admission.Proofs.Provider.Acceptance

/-!
# The last word on a rejected request

A manager cannot tell a provider that declines a request from one that keeps silent about a request
of its own. The standard providers never keep silent: each declines exactly the requests of kinds
that it does not support (`StandardProvider.declined_iff`), and says to any other an error or a
proven token of that request (`StandardProvider.speaks`).

So a chain in which nobody accepts a request has the error of the last provider that supports its
kind (`StandardProvider.verdict_of_last`), and the error that no provider was found exactly if there
is none, for no provider raises that error itself (`StandardProvider.kind_ne_providerNotFound`).
-/

namespace Admission

variable {σ : Type} {request t : Token} {e : AuthError}

/-! ## One provider -/

/-- A newly made token is never an answer that declines. -/
theorem Answer.ofToken_ne_declined {refusal : String} {x : Except TokenError Token} :
    Answer.ofToken refusal x ≠ .declined := by
  cases x <;> exact Answer.noConfusion

namespace PasswordProvider

variable {p : PasswordProvider σ} {s : Placeholder × σ}

/-- Whoever is known is let in or refused. -/
theorem judge_ne_declined {password : String} {u : User} :
    (p.judge request password u).answer ≠ .declined := by
  unfold judge
  split
  · exact Answer.noConfusion
  · split
    · split
      · exact Answer.noConfusion
      · exact Answer.ofToken_ne_declined
    · exact Answer.noConfusion

/-- A password provider declines exactly the requests of other kinds. -/
theorem attempt_eq_declined :
    (p.attempt request s).1.answer = .declined ↔ request.kind ≠ .usernamePassword := by
  unfold attempt
  split
  · next hk =>
    refine iff_of_false ?_ (not_not_intro hk)
    split
    · next password hc =>
      rcases hl : p.users.load request.name s.2 with ⟨_ | _ | u, users⟩
      · exact Answer.noConfusion
      · exact Answer.noConfusion
      · exact judge_ne_declined
    · exact Answer.noConfusion
  · next hk => exact iff_of_true rfl hk

end PasswordProvider

/-- A provider of signed requests declines exactly those of other kinds. -/
theorem KeyedHash.answer_eq_declined {k : KeyedHash} {kind : TokenKind} {refusal : AuthError}
    {given : Answer} (h : given ≠ .declined) :
    k.answer kind refusal given request = .declined ↔ request.kind ≠ kind := by
  unfold answer
  split
  · next hk =>
    refine iff_of_false ?_ (not_not_intro hk)
    split
    · split
      · exact h
      · exact Answer.noConfusion
    · exact Answer.noConfusion
  · next hk => exact iff_of_true rfl hk

namespace PreAuthenticatedProvider

variable {p : PreAuthenticatedProvider σ} {s : σ}

/-- An asserted name is let in or refused. -/
theorem judge_ne_declined {u : User} : judge request u ≠ .declined := by
  unfold judge
  split
  · exact Answer.noConfusion
  · exact Answer.ofToken_ne_declined

/-- A pre-authenticated provider declines exactly the requests of other kinds. -/
theorem attempt_eq_declined :
    (p.attempt request s).1.answer = .declined ↔ request.kind ≠ .preAuthenticated := by
  unfold attempt
  split
  · next hk =>
    refine iff_of_false ?_ (not_not_intro hk)
    split
    · exact Answer.noConfusion
    · rcases hr : p.resolve request s with ⟨_ | u, notes, users⟩
      · exact Answer.noConfusion
      · exact judge_ne_declined
  · next hk => exact iff_of_true rfl hk

end PreAuthenticatedProvider

/-- A token that proves a request: it may do something, and keeps kind, credentials and details. -/
structure Token.Proves (t request : Token) : Prop extends t.Authorized where
  kind : t.kind = request.kind
  credentials : t.credentials = request.credentials
  details : t.details = request.details

/-- A token proven from a request proves that request. -/
theorem Token.proves_of_provenFrom {principal : Principal} {authorities : List String}
    (h : request.provenFrom principal authorities = .ok t) : t.Proves request := by
  have hauthorized := Token.authorized_of_provenFrom h
  obtain ⟨-, rfl⟩ := Token.provenFrom_eq_ok.1 h
  exact ⟨hauthorized, rfl, rfl, rfl⟩

namespace StandardProvider

variable {p : StandardProvider σ} {r : Realm σ} {chain before after : List (StandardProvider σ)}

/-- A standard provider declines exactly the requests of kinds that it does not support. -/
theorem declined_iff (p : StandardProvider σ) (request : Token) (r : Realm σ) :
    (p.provider.attempt request r).1.answer = .declined ↔
      p.provider.supports request.kind = false := by
  have hkind : ∀ kind : TokenKind, request.kind ≠ kind ↔ (request.kind == kind) = false :=
    fun kind => beq_eq_false_iff_ne.symm
  cases p with
  | password n p => exact PasswordProvider.attempt_eq_declined.trans (hkind _)
  | rememberMe p =>
    refine Iff.trans ?_ (hkind .rememberMe)
    show p.answer request = .declined ↔ _
    rw [RememberMeProvider.answer_eq_signed]
    exact KeyedHash.answer_eq_declined Answer.ofToken_ne_declined
  | anonymous p =>
    refine Iff.trans ?_ (hkind .anonymous)
    show p.answer request = .declined ↔ _
    rw [AnonymousProvider.answer_eq_signed]
    exact KeyedHash.answer_eq_declined Answer.ofToken_ne_declined
  | preAuthenticated p => exact PreAuthenticatedProvider.attempt_eq_declined.trans (hkind _)

/-- A token that a standard provider gives proves the request. -/
theorem proves_of_gave (h : (p.provider.attempt request r).1.answer = .gave t) :
    t.Proves request := by
  obtain ⟨principal, authorities, -, ht⟩ := attempt_eq_gave.1 h
  exact Token.proves_of_provenFrom ht

/-- A standard provider says something to the requests that it supports. -/
theorem speaks (p : StandardProvider σ) (request : Token) (r : Realm σ)
    (hs : p.provider.supports request.kind = true) :
    (∃ e, (p.provider.attempt request r).1.answer = .failed e) ∨
      ∃ t, (p.provider.attempt request r).1.answer = .gave t ∧ t.Proves request := by
  cases ha : (p.provider.attempt request r).1.answer with
  | declined =>
    have hunsupported := (declined_iff p request r).1 ha
    exact absurd hs (ne_true_of_eq_false hunsupported)
  | failed e => exact .inl ⟨e, rfl⟩
  | gave t => exact .inr ⟨t, rfl, proves_of_gave ha⟩

/-- No standard provider fails for want of a provider. -/
theorem kind_ne_providerNotFound (h : (p.provider.attempt request r).1.answer = .failed e) :
    e.kind ≠ .providerNotFound := by
  intro hkind
  have hdeclared : ErrorKind.providerNotFound ∈ p.provider.declared := hkind ▸ kind_of_failed h
  cases p with
  | password n p => simp [provider, Provider.within, PasswordProvider.provider] at hdeclared
  | rememberMe p => simp [provider, RememberMeProvider.provider] at hdeclared
  | anonymous p => simp [provider, AnonymousProvider.provider] at hdeclared
  | preAuthenticated p =>
    obtain ⟨_ | _⟩ := p <;>
      simp [provider, Provider.within, PreAuthenticatedProvider.provider,
        PreAuthenticatedProvider.declared] at hdeclared

/-! ## A chain -/

/-- Nobody in a chain accepts a request when its turn comes. -/
def Rejects (chain : List (StandardProvider σ)) (request : Token) (r : Realm σ) : Prop :=
  ∀ before p after, chain = before ++ p :: after →
    ¬ p.Admits request (realmAfter request before r).users

/-- What nobody supports nobody accepts. -/
theorem rejects_of_unsupported (h : ∀ p ∈ chain, p.provider.supports request.kind = false) :
    Rejects chain request r := by
  rintro before p after rfl ⟨principal, authorities, hacc⟩
  exact absurd hacc.supports (ne_true_of_eq_false (h p (by simp)))

/-- The provider with the last word: it supports the request and nobody after it does. -/
structure Last (chain : List (StandardProvider σ)) (request : Token)
    (before : List (StandardProvider σ)) (p : StandardProvider σ) : Prop where
  supports : p.provider.supports request.kind = true
  split : ∃ after, chain = before ++ p :: after ∧
    ∀ q ∈ after, q.provider.supports request.kind = false

/-- If anybody in a chain supports a request, somebody is the last to do so. -/
theorem exists_last (h : ∃ p ∈ chain, p.provider.supports request.kind = true) :
    ∃ before p, Last chain request before p := by
  induction chain with
  | nil => simp at h
  | cons q chain ih =>
    by_cases hrest : ∃ p ∈ chain, p.provider.supports request.kind = true
    · obtain ⟨before, p, hs, after, rfl, hafter⟩ := ih hrest
      exact ⟨q :: before, p, hs, after, rfl, hafter⟩
    · have hnone : ∀ p ∈ chain, p.provider.supports request.kind = false :=
        fun p hp => Bool.eq_false_iff.2 fun hs => hrest ⟨p, hp, hs⟩
      obtain ⟨p, hp, hs⟩ := h
      rcases List.mem_cons.1 hp with rfl | hp
      · exact ⟨[], p, hs, chain, rfl, hnone⟩
      · exact absurd ⟨p, hp, hs⟩ hrest

/-- The state in which the turn of a provider comes, by its place and by those before it. -/
theorem turnState_append (before rest : List (StandardProvider σ)) :
    turnState request ((before ++ rest).map StandardProvider.provider) r before.length =
      realmAfter request before r := by
  rw [turnState, realmAfter, List.map_append, List.take_left' (List.length_map _)]

/-- What stands at a place of a chain of standard providers. -/
theorem split_of_place {q : Provider (Realm σ)} {i : Nat}
    (h : (chain.map StandardProvider.provider)[i]? = some q) :
    ∃ before p after, chain = before ++ p :: after ∧ before.length = i ∧ p.provider = q := by
  rw [List.getElem?_map, Option.map_eq_some_iff] at h
  obtain ⟨p, hp, rfl⟩ := h
  obtain ⟨hlt, hget⟩ := List.getElem?_eq_some_iff.1 hp
  refine ⟨chain.take i, p, chain.drop (i + 1), ?_, List.length_take_of_le (Nat.le_of_lt hlt), rfl⟩
  rw [← hget, List.getElem_cons_drop, List.take_append_drop]

/-- Whoever stands further on than a provider is one of those after it. -/
theorem mem_after {before' after' : List (StandardProvider σ)} {q : StandardProvider σ}
    (h : before ++ p :: after = before' ++ q :: after') (hlt : before.length < before'.length) :
    q ∈ after := by
  rcases List.append_eq_append_iff.1 h with ⟨between, rfl, hrest⟩ | ⟨between, rfl, -⟩
  · cases between with
    | nil => simp at hlt
    | cons x between =>
      rw [List.cons_append, List.cons.injEq] at hrest
      simp [hrest.2]
  · rw [List.length_append] at hlt
    omega

/-- Nobody proves a rejected request when its turn comes. -/
theorem Rejects.not_proves (h : Rejects chain request r) {q : Provider (Realm σ)} {i : Nat}
    (hq : (chain.map StandardProvider.provider)[i]? = some q) :
    ¬ q.Proves request (turnState request (chain.map StandardProvider.provider) r i) := by
  obtain ⟨before, p, after, rfl, rfl, rfl⟩ := split_of_place hq
  rw [turnState_append, proves_iff]
  exact h before p after rfl

/-- No token is given to a rejected request. -/
theorem Rejects.not_gave (h : Rejects chain request r) {i : Nat} :
    ¬ Answered request (chain.map StandardProvider.provider) r i (.gave t) := by
  rintro ⟨q, hasked, hgave⟩
  obtain ⟨before, p, after, rfl, rfl, rfl⟩ := split_of_place hasked.place
  have hproven := Answer.proven?_eq_some.2 ⟨hgave, (proves_of_gave hgave).authenticated⟩
  exact h.not_proves hasked.place ⟨hasked.supports, by rw [hproven]; rfl⟩

/-- A rejected request gets the error of the provider with the last word. -/
theorem verdict_of_last (h : Rejects chain request r) (hlast : Last chain request before p) :
    ∃ e, (p.provider.attempt request (realmAfter request before r)).1.answer = .failed e ∧
      verdict request.kind (consult request 0 (chain.map StandardProvider.provider) r).1 =
        .error e := by
  obtain ⟨hs, after, rfl, hafter⟩ := hlast
  have hplace : ((before ++ p :: after).map StandardProvider.provider)[before.length]? =
      some p.provider := by simp
  have hasked : Asked request ((before ++ p :: after).map StandardProvider.provider) r
      before.length p.provider :=
    ⟨hplace, hs, fun j hj q hq => h.not_proves hq⟩
  have hgave : ∀ i t, Answered request ((before ++ p :: after).map StandardProvider.provider) r i
      (.gave t) → t.authenticated = false := fun i t ht => absurd ht h.not_gave
  rcases speaks p request (realmAfter request before r) hs with ⟨e, he⟩ | ⟨t, ht, -⟩
  · refine ⟨e, he, verdict_consult_of_failed hgave ⟨_, hasked, ?_⟩ ?_⟩
    · rw [turnState_append]
      exact he
    · -- Whoever else fails supports the request, so none does so further on.
      rintro j e' hj ⟨q, hq, -⟩
      obtain ⟨before', p', after', hsplit, rfl, rfl⟩ := split_of_place hq.place
      have hmem : p' ∈ after := mem_after hsplit hj
      exact absurd hq.supports (ne_true_of_eq_false (hafter p' hmem))
  · refine absurd ⟨_, hasked, ?_⟩ (h.not_gave (t := t))
    rw [turnState_append]
    exact ht

/-- A request that nobody supports gets the error that no provider was found. -/
theorem verdict_of_unsupported
    (h : ∀ p ∈ chain, p.provider.supports request.kind = false) :
    verdict request.kind (consult request 0 (chain.map StandardProvider.provider) r).1 =
      .error (noProvider request.kind) := by
  have hnobody : ∀ i a,
      ¬ Answered request (chain.map StandardProvider.provider) r i a := by
    rintro i a ⟨q, hasked, -⟩
    obtain ⟨before, p, after, rfl, -, rfl⟩ := split_of_place hasked.place
    exact absurd hasked.supports (ne_true_of_eq_false (h p (by simp)))
  exact verdict_consult_of_silent (fun i t ht => absurd ht (hnobody i _)) fun i e => hnobody i _

end StandardProvider

/-! ## Decisions -/

namespace StandardManager

open StandardProvider (Rejects Last realmAfter)

variable {m : StandardManager σ} {o : Occasion} {s : State (Realm σ)} {log : List LogRecord}
  {before : List (StandardProvider σ)} {p : StandardProvider σ}

/-- A rejected request fails with the error of the provider with the last word. -/
theorem result_of_last (hcheck : m.control.check s.sessions request = (.ok (), log))
    (h : Rejects m.chain request s.realm) (hlast : Last m.chain request before p) :
    ∃ e, (p.provider.attempt request (realmAfter request before s.realm)).1.answer = .failed e ∧
      (m.authenticate o request s).result = .error (.authentication e) := by
  obtain ⟨e, he, hverdict⟩ := StandardProvider.verdict_of_last h hlast
  rw [← m.providers_eq] at hverdict
  have hmem : p.provider ∈ m.providers := by
    obtain ⟨-, after, hsplit, -⟩ := hlast
    rw [m.providers_eq, hsplit]
    simp
  have hdeclared : e.kind ∈ m.providers.flatMap Provider.declared :=
    List.mem_flatMap.2 ⟨_, hmem, StandardProvider.kind_of_failed he⟩
  have hrequired : e.kind ∈ m.required :=
    List.mem_append_left _ (List.mem_cons_of_mem _ hdeclared)
  refine ⟨e, he, ?_⟩
  rw [Manager.result_of_failed hcheck hverdict, Manager.report_of_required hrequired]

/-- A request that nobody supports fails for want of a provider. -/
theorem result_of_unsupported (hcheck : m.control.check s.sessions request = (.ok (), log))
    (h : ∀ p ∈ m.chain, p.provider.supports request.kind = false) :
    (m.authenticate o request s).result = .error (.authentication (noProvider request.kind)) := by
  have hverdict := StandardProvider.verdict_of_unsupported (r := s.realm) h
  rw [← m.providers_eq] at hverdict
  have hrequired : (noProvider request.kind).kind ∈ m.required :=
    List.mem_append_left _ List.mem_cons_self
  rw [Manager.result_of_failed hcheck hverdict, Manager.report_of_required hrequired]

/-- **The last supporting provider has the last word.**

A standard provider declines a request exactly if it does not support its kind; to any other it says
an error or a token that proves it. So a request that is admitted and that nobody accepts fails, and
the error is the one raised by the last provider that supports the kind. It is that no provider was
found exactly if none supports it. -/
theorem authenticate_last_word (m : StandardManager σ) (o : Occasion) (request : Token)
    (s : State (Realm σ)) :
    (∀ (p : StandardProvider σ) (token : Token) (r : Realm σ),
      ((p.provider.attempt token r).1.answer = .declined ↔
        p.provider.supports token.kind = false) ∧
      (p.provider.supports token.kind = true →
        (∃ e, (p.provider.attempt token r).1.answer = .failed e) ∨
          ∃ t, (p.provider.attempt token r).1.answer = .gave t ∧ t.Proves token)) ∧
    ((m.control.check s.sessions request).1 = .ok () → Rejects m.chain request s.realm →
      ∃ e, (m.authenticate o request s).result = .error (.authentication e) ∧
        (∀ before p, Last m.chain request before p →
          (p.provider.attempt request (realmAfter request before s.realm)).1.answer =
            .failed e) ∧
        (e.kind = .providerNotFound ↔
          ∀ p ∈ m.chain, p.provider.supports request.kind = false)) := by
  refine ⟨fun p token r => ⟨p.declined_iff token r, p.speaks token r⟩, fun hadmitted hrejects => ?_⟩
  have hcheck : m.control.check s.sessions request =
      (.ok (), (m.control.check s.sessions request).2) := by rw [← hadmitted]
  by_cases hsome : ∃ p ∈ m.chain, p.provider.supports request.kind = true
  · obtain ⟨before, p, hlast⟩ := StandardProvider.exists_last hsome
    obtain ⟨e, he, hresult⟩ := result_of_last (o := o) hcheck hrejects hlast
    refine ⟨e, hresult, fun before' p' hlast' => ?_, ?_⟩
    · -- The result is one, so whoever has the last word raised this error.
      obtain ⟨e', he', hresult'⟩ := result_of_last (o := o) hcheck hrejects hlast'
      cases hresult.symm.trans hresult'
      exact he'
    · refine iff_of_false (StandardProvider.kind_ne_providerNotFound he) fun hnone => ?_
      obtain ⟨q, hq, hs⟩ := hsome
      exact absurd hs (ne_true_of_eq_false (hnone q hq))
  · have hnone : ∀ p ∈ m.chain, p.provider.supports request.kind = false :=
      fun p hp => Bool.eq_false_iff.2 fun hs => hsome ⟨p, hp, hs⟩
    refine ⟨noProvider request.kind, result_of_unsupported hcheck hnone, ?_, iff_of_true rfl hnone⟩
    rintro before p ⟨hs, after, hsplit, -⟩
    have hp : p ∈ m.chain := by simp [hsplit]
    exact absurd hs (ne_true_of_eq_false (hnone p hp))

/-- A wrong password, with a provider for visitors at the end of the chain, and a ticket that nobody
supports. -/
theorem authenticate_last_word_wrong_password :
    let alice : User := { username := "alice", password := "pw", roles := ["USER"] }
    let users : UserService Unit :=
      ⟨fun name s => (.ok (if name = "alice" then some alice else none), s)⟩
    let chain : List (StandardProvider Unit) := [
      .password 0 { users := users, salt := .replicate 16 0 },
      .anonymous ⟨⟨"key", by decide⟩, ["ROLE_ANONYMOUS"], by decide⟩]
    let m : StandardManager Unit :=
      { providers := chain.map StandardProvider.provider, complete := rfl, chain := chain,
        providers_eq := rfl }
    let o : Occasion := ⟨0, "1", ⟨0, 0, 0⟩⟩
    let s : State (Realm Unit) := ⟨⟨(), fun _ => none⟩, .empty, m.publisher⟩
    let login := Token.usernamePassword "alice" "wrong"
    let ticket := Token.request .cas (.name "alice") (.ticket "ST-1")
    (m.authenticate o login s).result =
        .error (.authentication ⟨.badCredentials, "Bad credentials", none⟩) ∧
      ∃ e, (m.authenticate o ticket s).result = .error (.authentication e) ∧
        e.kind = .providerNotFound := by
  intro alice users chain m o s login ticket
  obtain ⟨-, hlogin⟩ := m.authenticate_last_word o login s
  obtain ⟨-, hticket⟩ := m.authenticate_last_word o ticket s
  have hrejected : Rejects chain login s.realm := by
    intro before p after hsplit hadmits
    have hp : p ∈ chain := by simp [hsplit]
    obtain ⟨principal, authorities, hacc⟩ := hadmits
    simp only [chain, List.mem_cons, List.not_mem_nil, or_false] at hp
    rcases hp with rfl | rfl
    · cases hacc with
      | password kind credentials found usable known fresh grants =>
        cases credentials
        cases found
        exact absurd known (by decide)
    · cases hacc with
      | anonymous kind signed => cases kind
  have hunsupported : ∀ p ∈ chain, p.provider.supports ticket.kind = false := by
    intro p hp
    simp only [chain, List.mem_cons, List.not_mem_nil, or_false] at hp
    rcases hp with rfl | rfl <;> rfl
  refine ⟨?_, ?_⟩
  · obtain ⟨e, hresult, hlast, -⟩ := hlogin rfl hrejected
    have hfailed := hlast [] _ ⟨rfl, _, rfl, fun q hq => by cases List.mem_singleton.1 hq; rfl⟩
    cases hfailed
    exact hresult
  · have hrejected' := StandardProvider.rejects_of_unsupported (r := s.realm) hunsupported
    obtain ⟨e, hresult, -, hkind⟩ := hticket rfl hrejected'
    exact ⟨e, hresult, hkind.2 hunsupported⟩

end StandardManager

end Admission
