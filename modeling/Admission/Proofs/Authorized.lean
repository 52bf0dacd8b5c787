import Admission.Proofs.Announcement
import Admission.Proofs.Provider.Acceptance

/-!
# Authenticated means authorized

A token is made as a request or as a proof, and may then be changed: it gets details, loses its
secret, or is the request of a further proof (`Token.Made`). Whatever was done to it, a token made
as a request is unproven and without authorities, and one made as a proof is neither
(`Token.Made.authenticated_eq`, `Token.Made.isEmpty_authorities`). So the two are never the same
(`Token.Made.not_sameAs`).

Where the providers give only such tokens (`Provider.GivesMade`), as the standard ones do, the test
by which a manager accepts a token is worth what it promises: whoever is let in may do something,
and that token is announced. Any other event is made for an error by a factory of the table. If
these announce failures as such (`EventMappings.AnnouncesFailures`), the kind of an event alone says
whether its token is that of somebody who may do something (`Manager.authorized_of_success`).
-/

namespace Admission

variable {σ : Type}

/-! ## Making tokens -/

namespace Token

/-- What a token was made as. -/
inductive Origin
  | request
  | proof
  deriving Repr, DecidableEq

def Origin.isProof : Origin → Bool
  | request => false
  | proof => true

/-- A token is made by the constructors and changed by the modifiers, in any composition. A proof
is a proof whatever the request behind it was. -/
inductive Made : Origin → Token → Prop
  | request (kind : TokenKind) (principal : Principal) (credentials : Credentials) :
    Made .request (.request kind principal credentials)
  | usernamePassword (username password : String) :
    Made .request (.usernamePassword username password)
  | preAuthenticated (principal : String) (credentials : Credentials) :
    Made .request (.preAuthenticated principal credentials)
  | rememberMe (key : KeyedHash) (user : User) : Made .request (.rememberMe key user)
  | anonymous (key : KeyedHash) (principal : String) : Made .request (.anonymous key principal)
  | proven {kind : TokenKind} {principal : Principal} {credentials : Credentials}
    {authorities : List String} {t : Token}
    (eq : Token.proven kind principal credentials authorities = .ok t) : Made .proof t
  | provenFrom {origin : Origin} {request t : Token} {principal : Principal}
    {authorities : List String} (made : Made origin request)
    (eq : request.provenFrom principal authorities = .ok t) : Made .proof t
  | withDetails {origin : Origin} {t : Token} (made : Made origin t) (details : Details) :
    Made origin (t.withDetails details)
  | withoutCredentials {origin : Origin} {t : Token} (made : Made origin t) :
    Made origin t.withoutCredentials

/-- A token that can be made at all. -/
def IsMade (t : Token) : Prop :=
  ∃ origin, Made origin t

variable {origin : Origin} {a b t : Token}

/-- A token made as a proof may do something. -/
theorem authorized_of_proven {kind : TokenKind} {principal : Principal} {credentials : Credentials}
    {authorities : List String} (h : proven kind principal credentials authorities = .ok t) :
    t.Authorized := by
  unfold proven at h
  split at h
  · cases h
  · next hne =>
    cases h
    exact ⟨rfl, Bool.eq_false_iff.2 hne⟩

/-- The mark of a token says what it was made as. -/
theorem Made.authenticated_eq (h : Made origin t) : t.authenticated = origin.isProof := by
  induction h with
  | request | usernamePassword | preAuthenticated | rememberMe | anonymous => rfl
  | proven eq => exact (authorized_of_proven eq).authenticated
  | provenFrom made eq ih => exact (authorized_of_provenFrom eq).authenticated
  | withDetails made details ih => exact ih
  | withoutCredentials made ih => exact ih

/-- So do its authorities. -/
theorem Made.isEmpty_authorities (h : Made origin t) :
    t.authorities.isEmpty = !origin.isProof := by
  induction h with
  | request | usernamePassword | preAuthenticated | rememberMe | anonymous => rfl
  | proven eq => exact (authorized_of_proven eq).authorized
  | provenFrom made eq ih => exact (authorized_of_provenFrom eq).authorized
  | withDetails made details ih => exact ih
  | withoutCredentials made ih => exact ih

/-- A token is marked as authenticated exactly if it may do something. -/
theorem Made.authenticated_iff (h : Made origin t) :
    t.authenticated = true ↔ t.authorities.isEmpty = false := by
  rw [h.authenticated_eq, h.isEmpty_authorities, Bool.not_eq_false']

/-- Whatever was done to it, a token that is marked as authenticated may do something. -/
theorem IsMade.authorized (h : t.IsMade) (ht : t.authenticated = true) : t.Authorized := by
  obtain ⟨origin, hmade⟩ := h
  exact ⟨ht, hmade.authenticated_iff.1 ht⟩

/-- Tokens are compared by their marks too. -/
theorem sameAs_of_authenticated_ne (h : a.authenticated ≠ b.authenticated) :
    a.sameAs b = false := by
  rw [sameAs, beq_eq_false_iff_ne.2 h, Bool.and_false]

/-- A request is never the same as a proof, from either side. -/
theorem Made.not_sameAs (ha : Made .request a) (hb : Made .proof b) :
    a.sameAs b = false ∧ b.sameAs a = false := by
  have hne : a.authenticated ≠ b.authenticated := by
    rw [ha.authenticated_eq, hb.authenticated_eq]
    exact Bool.noConfusion
  exact ⟨sameAs_of_authenticated_ne hne, sameAs_of_authenticated_ne hne.symm⟩

end Token

/-! ## Giving tokens -/

/-- Asked about a token that can be made, a provider gives only tokens that can be made. -/
def Provider.GivesMade (p : Provider σ) : Prop :=
  ∀ request s t, request.IsMade → (p.attempt request s).1.answer = .gave t → t.IsMade

/-- The standard providers prove requests, so they give tokens that can be made. -/
theorem StandardProvider.givesMade (p : StandardProvider σ) : p.provider.GivesMade := by
  rintro request r t ⟨origin, hmade⟩ hgave
  obtain ⟨principal, authorities, -, ht⟩ := attempt_eq_gave.1 hgave
  exact ⟨.proof, hmade.provenFrom ht⟩

/-- So does a scripted provider, which gives the request back or proves it. -/
theorem Provider.scripted_givesMade (name : String) (kinds : List TokenKind)
    (declared : List ErrorKind) (script : Script) :
    (Provider.scripted name kinds declared script : Provider σ).GivesMade := by
  rintro request s t ⟨origin, hmade⟩ hgave
  change script.answer request = .gave t at hgave
  cases script with
  | decline => cases hgave
  | echo => cases hgave; exact ⟨origin, hmade⟩
  | fail e => cases hgave
  | grant authorities principal dropDetails =>
    have ht := Answer.ofToken_eq_gave.1 hgave
    cases dropDetails with
    | true => exact ⟨.proof, .proven ht⟩
    | false => exact ⟨.proof, hmade.provenFrom ht⟩

/-! ## Decisions -/

namespace Manager

variable {m : Manager σ} {o : Occasion} {request t : Token} {s : State σ} {event : Event}

/-- Erasing credentials takes no authority away. -/
theorem authorized_handedOut (h : t.Authorized) : (m.handedOut t).Authorized := by
  unfold handedOut
  split
  · exact ⟨h.authenticated, h.authorized⟩
  · exact h

/-- Whoever is let in may do something. -/
theorem authorized_of_result (hm : ∀ p ∈ m.providers, p.GivesMade) (hr : request.IsMade)
    (h : (m.authenticate o request s).result = .ok t) : t.Authorized := by
  obtain ⟨t', hverdict, rfl⟩ := exists_verdict_of_result h
  obtain ⟨hmade, ht⟩ := of_verdict (fun p hp s t ht => hm p hp request s t hr ht) hverdict
  exact authorized_handedOut (hmade.authorized ht)

/-- An event announces the token that was let in, or was made from the table for an error. -/
theorem event_cases (h : (m.authenticate o request s).event = some event) :
    (∃ t, (m.authenticate o request s).result = .ok t ∧ event = .success o.stamp t) ∨
      ∃ e factory, (m.authenticate o request s).result = .error (.authentication e) ∧
        m.mappings.entry e.kind = some factory ∧ event = factory o.stamp request e := by
  have hending := m.ending o request s
  cases hresult : (m.authenticate o request s).result with
  | ok t =>
    obtain ⟨hearing, hd, -⟩ := hending.of_ok hresult
    rw [hd] at h
    cases h
    exact .inl ⟨t, rfl, rfl⟩
  | error e =>
    cases e with
    | authentication e =>
      obtain ⟨-, factory, hentry, hevent⟩ := hending.of_authentication hresult
      cases hevent.symm.trans h
      exact .inr ⟨e, factory, rfl, hentry, rfl⟩
    | configuration c => cases (hending.of_configuration hresult).1.symm.trans h

/-- **Authenticated means authorized, by construction.**

Every token that the constructors and modifiers can make is marked as authenticated exactly if it
has an authority, and no request is the same as a proof. So over providers that give only such
tokens every token that is let in has an authority, and it is the token of the success that is
announced; the only other events are those that the table makes for errors. The receivers are handed
the event of the decision and nothing else. -/
theorem authorized_by_construction :
    (∀ t : Token, t.IsMade → (t.authenticated = true ↔ t.authorities.isEmpty = false)) ∧
    (∀ a b, Token.Made .request a → Token.Made .proof b →
      a.sameAs b = false ∧ b.sameAs a = false) ∧
    ∀ m : Manager σ, (∀ p ∈ m.providers, p.GivesMade) → ∀ (o : Occasion) (request : Token)
      (s : State σ), request.IsMade →
      let d := m.authenticate o request s
      (d.state.publisher, d.deliveries) = s.publisher.announced d.event ∧
      (∀ t, d.result = .ok t → t.Authorized ∧ d.event = some (.success o.stamp t)) ∧
      ∀ event, d.event = some event →
        (event.token.Authorized ∧ d.result = .ok event.token) ∨
          ∃ e factory, d.result = .error (.authentication e) ∧
            m.mappings.entry e.kind = some factory ∧ event = factory o.stamp request e := by
  refine ⟨fun t ⟨_, ht⟩ => ht.authenticated_iff, fun a b ha hb => ha.not_sameAs hb, ?_⟩
  intro m hm o request s hr d
  have hlet : ∀ t, d.result = .ok t → t.Authorized := fun t ht => authorized_of_result hm hr ht
  refine ⟨(m.ending o request s).publisher_eq, fun t ht => ⟨hlet t ht, ?_⟩, ?_⟩
  · obtain ⟨hearing, hd, -⟩ := (m.ending o request s).of_ok ht
    exact congrArg Decision.event hd
  · intro event hevent
    rcases event_cases hevent with ⟨t, ht, rfl⟩ | hfailed
    · exact .inl ⟨hlet t ht, ht⟩
    · exact .inr hfailed

/-- A request that is given back before it is granted, under a table with an event of its own. -/
theorem authorized_by_construction_echo :
    let login : List TokenKind := [.usernamePassword]
    let m : Manager Unit :=
      { providers := [.scripted "echo" login [] .echo,
          .scripted "local" login [] (.grant ["ROLE_USER"] none false)],
        mappings := .insert .standard .accountLocked (.ofKind (.custom "lockout")),
        complete := rfl }
    let request := (Token.usernamePassword "alice" "pw").withDetails { sessionId := some "a" }
    let granted : Token :=
      { request with
        credentials := .absent, authorities := .ofList ["ROLE_USER"], authenticated := true }
    let d := m.authenticate ⟨0, "1", ⟨0, 0, 0⟩⟩ request ⟨(), .empty, m.publisher⟩
    d.result = .ok granted ∧ granted.Authorized ∧ granted.sameAs request = false ∧
      d.event = some (.success ⟨0, 0, 0⟩ granted) := by
  intro login m request granted d
  have hresult : d.result = .ok granted := rfl
  have hrequest : Token.Made .request request := .withDetails (.usernamePassword _ _) _
  have hproven : request.provenFrom request.principal ["ROLE_USER"] =
      .ok { granted with credentials := request.credentials } := rfl
  have hgranted : Token.Made .proof granted := (hrequest.provenFrom hproven).withoutCredentials
  have hproviders : ∀ p ∈ m.providers, p.GivesMade := by
    intro p hp
    simp only [m, List.mem_cons, List.not_mem_nil, or_false] at hp
    rcases hp with rfl | rfl <;> exact Provider.scripted_givesMade _ _ _ _
  obtain ⟨-, hdistinct, hdecisions⟩ := authorized_by_construction (σ := Unit)
  obtain ⟨-, hlet, -⟩ := hdecisions m hproviders ⟨0, "1", ⟨0, 0, 0⟩⟩ request
    ⟨(), .empty, m.publisher⟩ ⟨_, hrequest⟩
  obtain ⟨hauthorized, hevent⟩ := hlet _ hresult
  exact ⟨hresult, hauthorized, (hdistinct _ _ hrequest hgranted).2, hevent⟩

end Manager

/-! ## Announcing failures -/

/-- The events that a table makes for failures are not successes. A factory from outside could make
one nevertheless, of a token that nobody has proven. -/
def EventMappings.AnnouncesFailures (m : EventMappings) : Prop :=
  ∀ kind factory, m.entry kind = some factory →
    ∀ stamp request error, (factory stamp request error).kind ≠ .success

namespace EventMappings

/-- The standard table announces failures as such. -/
theorem announcesFailures_standard : standard.AnnouncesFailures := by
  intro kind factory h stamp request error
  cases h
  cases kind <;> exact EventKind.noConfusion

/-- So does a table in which an entry is set to failures of one kind, whichever kind it is. -/
theorem AnnouncesFailures.insert {m : EventMappings} (h : m.AnnouncesFailures)
    (kind : ErrorKind) {event : EventKind} (he : event ≠ .success) :
    (m.insert kind (.ofKind event)).AnnouncesFailures := by
  intro k factory hk stamp request error
  by_cases hkind : k = kind
  · have hfactory : some (EventFactory.ofKind event) = some factory := (if_pos hkind).symm.trans hk
    cases hfactory
    exact he
  · exact h k factory ((if_neg hkind).symm.trans hk) stamp request error

end EventMappings

/-- Under such a table, whatever event says that it announces a success has the token of somebody
who may do something. -/
theorem Manager.authorized_of_success {m : Manager σ} {o : Occasion} {request : Token} {s : State σ}
    {event : Event} (hmappings : m.mappings.AnnouncesFailures)
    (hm : ∀ p ∈ m.providers, p.GivesMade) (hr : request.IsMade)
    (h : (m.authenticate o request s).event = some event) (hkind : event.kind = .success) :
    event.token.Authorized := by
  rcases event_cases h with ⟨t, ht, rfl⟩ | ⟨e, factory, -, hentry, rfl⟩
  · exact authorized_of_result hm hr ht
  · exact absurd hkind (hmappings _ factory hentry _ _ _)

end Admission
