import Admission.Proofs.Announcement
import Admission.Proofs.Event.Reading
import Admission.Proofs.Event.Redaction
import Admission.Proofs.Precedence
import Admission.Proofs.Provider.Acceptance
import Admission.Proofs.Session.Drawn

/-!
# Secrets in decisions

Two requests that differ in their secret alone (`Token.SameButSecret`) are decided alike if the
comparisons on which the decision rests say the same of both secrets (`StandardManager.Compares`).
The first request fixes who is asked when, and so which comparisons these are.

The chain hands the credentials of the request on in the tokens that it gives and shows them nowhere
else (`consult_withCredentials`). So the two hearings differ in given tokens alone
(`StandardManager.heard_withCredentials`), and both end in the same way, be it with an error
(`Manager.agree_fail`) or with a token (`Manager.agree_succeed`).

The two decisions are taken at their own times, each with an identifier of its own for a session
that the request does not name; `Manager.Agree` says where these may show.

One part of a decision is out of the manager's hands: the event of an error is made by a factory of
the table, which is handed the request. So the two events of an error are said to be made by one
factory, and only a discreet one (`EventFactory.Discreet`) makes them show the same. The bound is
needed: `StandardManager.agree_needs_discreet` has a factory that tells the secret.
-/

namespace Admission

variable {σ : Type} {request t a b : Token} {c : Credentials} {n : Nat} {s : σ}
  {ps : List (Provider σ)} {e : AuthError}

/-! ## Chains -/

/-- The consultation with other credentials in a token that is given. What was done is the same. -/
def Consultation.withCredentials (x : Consultation) (c : Credentials) : Consultation :=
  { x with attempt := x.attempt.withCredentials c }

/-- What is reported of a consultation does not depend on credentials. -/
@[simp] theorem Consultation.log_withCredentials {x : Consultation} :
    (x.withCredentials c).log = x.log := by
  obtain ⟨position, name, answer, notes⟩ := x
  cases answer <;> rfl

/-- If every provider that is asked treats two secrets alike, so does the chain. -/
theorem consult_withCredentials (h : ∀ i p, Asked request ps s i p →
      p.attempt (request.withCredentials c) (turnState request ps s i) =
        ((p.attempt request (turnState request ps s i)).1.withCredentials c,
          (p.attempt request (turnState request ps s i)).2)) :
    consult (request.withCredentials c) n ps s =
      ((consult request n ps s).1.map fun x => x.withCredentials c,
        (consult request n ps s).2) := by
  induction ps generalizing n s with
  | nil => rfl
  | cons p ps ih =>
    -- Unless the first provider proves the request, the chain asks whom the others ask.
    have hrest : ¬ p.Proves request s →
        consult (request.withCredentials c) (n + 1) ps (p.turn request s) =
          ((consult request (n + 1) ps (p.turn request s)).1.map fun x => x.withCredentials c,
            (consult request (n + 1) ps (p.turn request s)).2) :=
      fun hp => ih fun i q hq => h (i + 1) q (asked_succ.2 ⟨hp, hq⟩)
    by_cases hs : p.supports request.kind = true
    · have hs' : p.supports (request.withCredentials c).kind = true := hs
      have hfirst := h 0 p (asked_zero.2 ⟨rfl, hs⟩)
      rw [turnState_zero] at hfirst
      have hturn : p.turn (request.withCredentials c) s = p.turn request s := by
        rw [Provider.turn_of_supports hs, Provider.turn_of_supports hs', hfirst]
      have hproves : p.Proves (request.withCredentials c) s ↔ p.Proves request s := by
        simp [Provider.Proves, hfirst, Attempt.withCredentials]
      by_cases hp : p.Proves request s
      · rw [consult_of_proves hp, consult_of_proves (hproves.2 hp), hturn, hfirst]
        rfl
      · have hp' := fun hp' => hp (hproves.1 hp')
        rw [consult_of_not_proves hs hp, consult_of_not_proves hs' hp', hturn, hfirst, hrest hp]
        rfl
    · have hs' : ¬ p.supports (request.withCredentials c).kind = true := hs
      have hturn : p.turn (request.withCredentials c) s = p.turn request s := by
        rw [Provider.turn_of_unsupported hs, Provider.turn_of_unsupported hs']
      rw [consult_of_unsupported hs, consult_of_unsupported hs', hturn, hrest fun hp => hs hp.1]

/-- A verdict hands on the credentials of the token that it is taken from. -/
theorem verdict_withCredentials {kind : TokenKind} (cs : List Consultation) :
    verdict kind (cs.map fun x => x.withCredentials c) =
      (verdict kind cs).map fun t => t.withCredentials c := by
  have hproven : (cs.map fun x => x.withCredentials c).findSome?
        (fun x => x.attempt.answer.proven?) =
      (cs.findSome? fun x => x.attempt.answer.proven?).map fun t => t.withCredentials c := by
    rw [List.findSome?_map, List.map_findSome?]
    exact congrArg (cs.findSome? ·) (funext fun x => Answer.proven?_withCredentials)
  have herror : (cs.map fun x => x.withCredentials c).filterMap
        (fun x => x.attempt.answer.error?) = cs.filterMap fun x => x.attempt.answer.error? := by
    rw [List.filterMap_map]
    exact List.filterMap_congr fun x _ => Answer.error?_withCredentials
  unfold verdict
  rw [hproven, herror]
  cases cs.findSome? fun x => x.attempt.answer.proven? <;> rfl

/-! ## Receivers -/

/-- The records written are the same if nothing is announced, or events with one redaction. -/
theorem Publisher.logRecords_announced_congr {x y : Option Event} (p : Publisher)
    (h : x.map Event.redacted = y.map Event.redacted) :
    Delivery.logRecords (p.announced x).2 = Delivery.logRecords (p.announced y).2 := by
  cases x with
  | none =>
    cases y with
    | none => rfl
    | some e' => cases h
  | some e =>
    cases y with
    | none => cases h
    | some e' => exact p.logRecords_publish_congr (Option.some.inj h)

/-! ## Two decisions -/

/-- The hearing with other credentials in the tokens that were given. -/
def Hearing.withCredentials (h : Hearing σ) (c : Credentials) : Hearing σ :=
  { h with consulted := h.consulted.map fun x => x.withCredentials c }

namespace Manager

variable {m : Manager σ} {o₁ o₂ : Occasion} {h : Hearing σ}

/-- Two decisions, each on its own request and occasion, agree in everything but the credentials of
tokens, the times, the identifier of a session that no request names, and what a factory of the
table makes of the two requests. -/
structure Agree (m : Manager σ) (o₁ o₂ : Occasion) (a b : Token) (d₁ d₂ : Decision σ) : Prop where
  /-- If credentials are erased, the results are the same. -/
  erased : m.eraseCredentials = true → d₂.result = d₁.result
  /-- Otherwise a token that is handed out carries the credentials of its request. -/
  kept : m.eraseCredentials = false →
    d₂.result = d₁.result.map fun t => t.withCredentials b.credentials
  /-- The same providers are asked and do the same. -/
  consulted : d₂.consulted = d₁.consulted.map fun x => x.withCredentials b.credentials
  /-- The users, and what is remembered of them, are the same. -/
  realm : d₂.state.realm = d₁.state.realm
  /-- The same sessions are recorded. -/
  sessions : SessionRegistry.Alike o₁.now o₂.now (a.sessionId?.getD o₁.sessionId)
    (b.sessionId?.getD o₂.sessionId) d₁.state.sessions d₂.state.sessions
  /-- The same is written to the log, in the same order, before the receivers are handed the event
  and write what they write. -/
  log : ∃ own₁ own₂, d₁.log = own₁ ++ Delivery.logRecords d₁.deliveries ∧
    d₂.log = own₂ ++ Delivery.logRecords d₂.deliveries ∧
    List.Forall₂ (LogRecord.Alike (a.sessionId?.getD o₁.sessionId) (b.sessionId?.getD o₂.sessionId))
      own₁ own₂
  /-- The same is announced, or one factory of the table has made the two events of one error. -/
  event : d₁.event.map Event.redacted = d₂.event.map Event.redacted ∨
    ∃ e factory, d₁.result = .error (.authentication e) ∧ m.mappings.entry e.kind = some factory ∧
      d₁.event = some (factory o₁.stamp a e) ∧ d₂.event = some (factory o₂.stamp b e)

/-- Where the factory for the error, if there is one, is discreet, the same is announced. -/
theorem Agree.redacted_event {d₁ d₂ : Decision σ} (hagree : m.Agree o₁ o₂ a b d₁ d₂)
    (hab : a.SameButSecret b)
    (hm : ∀ e, d₁.result = .error (.authentication e) → m.mappings.DiscreetAt e.kind) :
    d₁.event.map Event.redacted = d₂.event.map Event.redacted := by
  rcases hagree.event with hsame | ⟨e, factory, hresult, hentry, h₁, h₂⟩
  · exact hsame
  · rw [h₁, h₂]
    exact congrArg some (hm e hresult factory hentry _ _ a b e hab)

/-- Where credentials are erased, a proven token is handed out whatever its credentials. -/
theorem handedOut_withCredentials_of_erased (he : m.eraseCredentials = true) :
    m.handedOut (t.withCredentials c) = m.handedOut t := by
  simp only [handedOut, he, if_true, Token.withoutCredentials_withCredentials]

/-- Where they are kept, it is handed out with them. -/
theorem handedOut_withCredentials_of_kept (he : m.eraseCredentials = false) :
    m.handedOut (t.withCredentials c) = (m.handedOut t).withCredentials c := by
  simp only [handedOut, he]
  rfl

/-- Besides the credentials, a proven token is handed out as it is. -/
theorem withoutCredentials_handedOut :
    (m.handedOut t).withoutCredentials = t.withoutCredentials := by
  unfold handedOut
  split <;> rfl

/-- An error ends two hearings alike. -/
theorem agree_fail : m.Agree o₁ o₂ a b (m.fail o₁ a e h)
    (m.fail o₂ b e (h.withCredentials b.credentials)) where
  erased _ := by rw [result_fail, result_fail]
  kept _ := by rw [result_fail, result_fail]; rfl
  consulted := by rw [consulted_fail, consulted_fail]; rfl
  realm := by rw [realm_fail, realm_fail]; rfl
  sessions := by rw [sessions_fail, sessions_fail]; exact .same _
  log := by
    cases hf : m.mappings.entry e.kind with
    | none =>
      rw [fail_of_no_entry hf, fail_of_no_entry hf]
      exact ⟨_, _, (List.append_nil _).symm, (List.append_nil _).symm, LogRecord.alike_refl _⟩
    | some factory =>
      rw [fail_of_entry hf, fail_of_entry hf]
      exact ⟨h.log, h.log, rfl, rfl, LogRecord.alike_refl _⟩
  event := by
    cases hf : m.mappings.entry e.kind with
    | none =>
      rw [fail_of_no_entry hf, fail_of_no_entry hf]
      exact .inl rfl
    | some factory =>
      rw [fail_of_entry hf, fail_of_entry hf]
      exact .inr ⟨e, factory, rfl, hf, rfl, rfl⟩

/-- A proven token ends two hearings alike, if the registry does not tell the identifiers of its
session apart. -/
theorem agree_succeed (hab : a.SameButSecret b) (ht : t.sessionId? = a.sessionId?)
    (hids : h.state.sessions.Indifferent (a.sessionId?.getD o₁.sessionId)
      (b.sessionId?.getD o₂.sessionId)) :
    m.Agree o₁ o₂ a b (m.succeed o₁ a t h)
      (m.succeed o₂ b (t.withCredentials b.credentials) (h.withCredentials b.credentials)) := by
  have hb : b.sessionId? = a.sessionId? := by rw [hab.eq_withCredentials]; rfl
  -- A control looks at the name and the session of a token, not at its credentials.
  have hregister : m.control.register (h.withCredentials b.credentials).state.sessions o₂.now
      o₂.sessionId (t.withCredentials b.credentials) =
      m.control.register h.state.sessions o₂.now o₂.sessionId t := rfl
  rcases m.control.register_alike o₁.now o₂.now (by rw [ht]) (by rw [ht, hb]) hids with
    ⟨e, h₁, h₂⟩ | ⟨r₁, log₁, r₂, log₂, h₁, h₂, hr, hlog⟩
  · rw [succeed_of_refused h₁, succeed_of_refused (hregister.trans h₂)]
    exact agree_fail
  · rw [succeed_of_registered h₁, succeed_of_registered (hregister.trans h₂)]
    have hevent : (Event.success o₁.stamp (m.handedOut t)).redacted = (Event.success o₂.stamp
        (m.handedOut (t.withCredentials b.credentials))).redacted := by
      simp only [Event.success, Event.redacted, withoutCredentials_handedOut,
        Token.withoutCredentials_withCredentials]
    exact {
      erased he := congrArg Except.ok (handedOut_withCredentials_of_erased he)
      kept he := congrArg Except.ok (handedOut_withCredentials_of_kept he)
      consulted := rfl
      realm := rfl
      sessions := hr
      log := ⟨_, _, rfl, rfl, List.rel_append (LogRecord.alike_refl _) hlog⟩
      event := .inl (congrArg some hevent) }

end Manager

/-! ## Standard providers -/

namespace StandardManager

variable {m : StandardManager σ} {o₁ o₂ : Occasion} {st : State (Realm σ)} {log : List LogRecord}

/-- The comparisons on which a decision rests: those on which the answers of the providers that are
asked rest, each when its turn comes. -/
def Compares (m : StandardManager σ) (request : Token) (s : State (Realm σ)) (k : Comparison) :
    Prop :=
  ∃ i p, m.chain[i]? = some p ∧ Asked request m.providers s.realm i p.provider ∧
    p.RestsOn request (turnState request m.providers s.realm i).users k

/-- If the only provider compares passwords and its service knows nobody but one user, they are
compared with the password of that user. -/
theorem Compares.eq_password {number : Nat} {p : PasswordProvider σ} {u : User} {k : Comparison}
    (h : m.Compares request st k) (hchain : m.chain = [.password number p])
    (hload : ∀ name users found, (p.users.load name users).1 = .ok (some found) → found = u) :
    k = .password p.encoder u.password := by
  obtain ⟨i, q, hq, -, hrests⟩ := h
  have hmem : q ∈ m.chain := List.mem_of_getElem? hq
  rw [hchain, List.mem_singleton] at hmem
  subst hmem
  cases hrests with
  | password credentials found usable => rw [hload _ _ _ found]

/-- The provider that is asked at a place is the standard provider of that place. -/
theorem exists_of_asked {i : Nat} {q : Provider (Realm σ)}
    (h : Asked request m.providers st.realm i q) : ∃ p, m.chain[i]? = some p ∧ p.provider = q := by
  have hplace := h.place
  rw [m.providers_eq, List.getElem?_map] at hplace
  exact Option.map_eq_some_iff.1 hplace

/-- A chain of standard providers treats two secrets alike if the comparisons on which the decision
rests do. -/
theorem heard_withCredentials (form : request.credentials.SameForm c)
    (hverdicts : ∀ k, m.Compares request st k → k.verdict request.credentials = k.verdict c) :
    m.heard (request.withCredentials c) st log = (m.heard request st log).withCredentials c := by
  have hconsult := consult_withCredentials (n := 0) (c := c) fun i q hq => by
    obtain ⟨p, hp, rfl⟩ := exists_of_asked hq
    exact p.attempt_withCredentials form fun k hk => hverdicts k ⟨i, p, hp, hq, hk⟩
  simp only [Manager.heard, Hearing.withCredentials, hconsult, List.flatMap_map,
    Consultation.log_withCredentials]

/-- A token that a chain of standard providers has proven names the session of the request. -/
theorem sessionId?_of_verdict
    (hv : verdict request.kind (m.heard request st log).consulted = .ok t) :
    t.sessionId? = request.sessionId? := by
  rw [Manager.heard, m.providers_eq] at hv
  obtain ⟨p, -, _, _, _, -, hfrom⟩ := StandardProvider.accepts_of_verdict hv
  rw [(Token.provenFrom_eq_ok.1 hfrom).2]
  rfl

/-- Two requests that differ in their secret alone are decided alike if the comparisons on which
the decision rests treat the secrets alike. -/
theorem agree {s : State (Realm σ)} (hab : a.SameButSecret b)
    (hverdicts : ∀ k, m.Compares a s k → k.verdict a.credentials = k.verdict b.credentials)
    (hids : a.sessionId? = none → s.sessions.Indifferent o₁.sessionId o₂.sessionId) :
    m.Agree o₁ o₂ a b (m.authenticate o₁ a s) (m.authenticate o₂ b s) := by
  have hb := hab.eq_withCredentials
  have hname : b.name = a.name := by rw [hb]; rfl
  have hkind : b.kind = a.kind := by rw [hb]; rfl
  have hsession : b.sessionId? = a.sessionId? := by rw [hb]; rfl
  have hcheck : m.control.check s.sessions b = m.control.check s.sessions a := by
    rw [hb]
    rfl
  rcases hc : m.control.check s.sessions a with ⟨e | _, log⟩
  · rw [Manager.authenticate_of_denied hc, Manager.authenticate_of_denied (hcheck.trans hc), hname]
    exact Manager.agree_fail
  · have hheard : m.heard b s log = (m.heard a s log).withCredentials b.credentials :=
      (congrArg (fun t => m.heard t s log) hb).trans (heard_withCredentials hab.form hverdicts)
    have hverdict : verdict b.kind (m.heard b s log).consulted =
        (verdict a.kind (m.heard a s log).consulted).map
          fun t => t.withCredentials b.credentials := by
      rw [hkind, hheard]
      exact verdict_withCredentials _
    rw [Manager.authenticate_of_check hc, Manager.authenticate_of_check (hcheck.trans hc), hverdict,
      hheard]
    cases hv : verdict a.kind (m.heard a s log).consulted with
    | error e => exact Manager.agree_fail
    | ok t =>
      refine Manager.agree_succeed hab (sessionId?_of_verdict hv) ?_
      rw [hsession]
      cases hid : a.sessionId? with
      | none => exact hids hid
      | some id => exact .inl rfl

/-- **Secrets influence a decision only through the verdicts of comparisons.**

Two requests that differ in their secret alone are decided alike if the comparisons on which the
decision on the first one rests say the same of both secrets: with the same result, by the same
providers after the same look-ups, encodings and comparisons, with the same users remembered, the
same sessions recorded and the same records of the manager's own. The same is announced, with one
line and one JSON text, and written to the log in all; only if the decision fails this is up to the
factory that makes the event of the error, which must be discreet. The times of the two decisions,
the stamps of their events and the identifiers that they draw for a session may differ, as long as
the registry does not tell these identifiers apart. -/
theorem authenticate_agree (m : StandardManager σ) (o₁ o₂ : Occasion) (a b : Token)
    (s : State (Realm σ)) (hab : a.SameButSecret b)
    (hverdicts : ∀ k, m.Compares a s k → k.verdict a.credentials = k.verdict b.credentials)
    (hids : a.sessionId? = none → s.sessions.Indifferent o₁.sessionId o₂.sessionId) :
    let d₁ := m.authenticate o₁ a s
    let d₂ := m.authenticate o₂ b s
    m.Agree o₁ o₂ a b d₁ d₂ ∧
      ((∀ e, d₁.result = .error (.authentication e) → m.mappings.DiscreetAt e.kind) →
        List.Forall₂ (LogRecord.Alike (a.sessionId?.getD o₁.sessionId)
          (b.sessionId?.getD o₂.sessionId)) d₁.log d₂.log ∧
        d₁.event.map Event.logLine = d₂.event.map Event.logLine ∧
        ∀ id timestamp,
          (d₁.event.map fun e => ({ e with id := id, timestamp := timestamp } : Event).json) =
            d₂.event.map fun e => ({ e with id := id, timestamp := timestamp } : Event).json) := by
  intro d₁ d₂
  have hagree : m.Agree o₁ o₂ a b d₁ d₂ := agree hab hverdicts hids
  refine ⟨hagree, fun hm => ?_⟩
  have hevent : d₁.event.map Event.redacted = d₂.event.map Event.redacted :=
    hagree.redacted_event hab hm
  have hreceived : Delivery.logRecords d₁.deliveries = Delivery.logRecords d₂.deliveries := by
    rw [(m.ending o₁ a s).deliveries_eq, (m.ending o₂ b s).deliveries_eq]
    exact s.publisher.logRecords_announced_congr hevent
  obtain ⟨own₁, own₂, hlog₁, hlog₂, hown⟩ := hagree.log
  refine ⟨?_, ?_, fun id timestamp => ?_⟩
  · rw [hlog₁, hlog₂, hreceived]
    exact List.rel_append hown (LogRecord.alike_refl _)
  · exact Event.map_congr Event.logLine_redacted hevent
  · exact Event.map_congr (Event.json_redacted id timestamp) hevent

/-- Two wrong passwords for one user, tried at different times. -/
theorem authenticate_agree_wrong_passwords :
    let alice : User := { username := "alice", password := "pw", roles := ["USER"] }
    let chain : List (StandardProvider Unit) :=
      [.password 0 { users := ⟨fun _ s => (.ok (some alice), s)⟩, salt := .replicate 16 0 }]
    let m : StandardManager Unit :=
      { providers := chain.map StandardProvider.provider, complete := rfl, chain := chain,
        providers_eq := rfl }
    let s : State (Realm Unit) := ⟨{ users := () }, .empty, m.publisher⟩
    let d₁ := m.authenticate ⟨1, "a", ⟨1, 10, 0⟩⟩ (.usernamePassword "alice" "guess") s
    let d₂ := m.authenticate ⟨2, "b", ⟨2, 20, 1⟩⟩ (.usernamePassword "alice" "other") s
    d₂.result = d₁.result ∧ d₂.state.realm = d₁.state.realm ∧
      List.Forall₂ (LogRecord.Alike "a" "b") d₁.log d₂.log ∧
      d₁.event.map Event.logLine = d₂.event.map Event.logLine := by
  intro alice chain m s d₁ d₂
  have hverdicts : ∀ k, m.Compares (.usernamePassword "alice" "guess") s k →
      k.verdict (.password "guess") = k.verdict (.password "other") := by
    intro k hk
    rw [hk.eq_password rfl fun _ _ _ hu => (Option.some.inj (Except.ok.inj hu)).symm]
    rfl
  have hlacks : ∀ id, SessionRegistry.empty.Lacks id := fun id => ⟨by simp, by simp⟩
  obtain ⟨hagree, hshown⟩ := m.authenticate_agree ⟨1, "a", ⟨1, 10, 0⟩⟩ ⟨2, "b", ⟨2, 20, 1⟩⟩
    (.usernamePassword "alice" "guess") (.usernamePassword "alice" "other") s
    ⟨rfl, .password "guess" "other"⟩ hverdicts fun _ => .inr ⟨hlacks "a", hlacks "b"⟩
  obtain ⟨hlog, hline, -⟩ := hshown fun _ _ => EventMappings.discreetAt_standard
  exact ⟨hagree.erased rfl, hagree.realm, hlog, hline⟩

/-- A factory that names its event after the secret of the request tells two wrong passwords apart,
in the log, in the line and in the JSON text of the event, though no comparison that the chain could
make in any state does. -/
theorem agree_needs_discreet :
    let alice : User := { username := "alice", password := "pw", roles := ["USER"] }
    let chain : List (StandardProvider Unit) :=
      [.password 0 { users := ⟨fun _ s => (.ok (some alice), s)⟩, salt := .replicate 16 0 }]
    let telling : EventFactory := fun stamp request error =>
      .failure stamp (.custom (request.credentials.secret?.getD "")) request error
    let m : StandardManager Unit :=
      { providers := chain.map StandardProvider.provider,
        mappings := .insert .standard .badCredentials telling, complete := rfl, chain := chain,
        providers_eq := rfl }
    let s : State (Realm Unit) := ⟨{ users := () }, .empty, m.publisher⟩
    let o : Occasion := ⟨1, "a", ⟨1, 10, 0⟩⟩
    let a := Token.usernamePassword "alice" "guess"
    let b := Token.usernamePassword "alice" "other"
    let d₁ := m.authenticate o a s
    let d₂ := m.authenticate o b s
    a.SameButSecret b ∧
      (∀ st k, m.Compares a st k → k.verdict a.credentials = k.verdict b.credentials) ∧
      d₁.log ≠ d₂.log ∧ d₁.event.map Event.logLine ≠ d₂.event.map Event.logLine ∧
      ∀ id timestamp,
        (d₁.event.map fun e => ({ e with id := id, timestamp := timestamp } : Event).json) ≠
          d₂.event.map fun e => ({ e with id := id, timestamp := timestamp } : Event).json := by
  intro alice chain telling m s o a b d₁ d₂
  let e : AuthError := ⟨.badCredentials, "Bad credentials", none⟩
  have h₁ : d₁.event = some (.failure ⟨1, 10, 0⟩ (.custom "guess") a e) := rfl
  have h₂ : d₂.event = some (.failure ⟨1, 10, 0⟩ (.custom "other") b e) := rfl
  have hkinds : (EventKind.custom "guess").display ≠ (EventKind.custom "other").display := by decide
  refine ⟨⟨rfl, .password "guess" "other"⟩, fun st k hk => ?_, ?_, ?_, fun id timestamp hjson => ?_⟩
  · rw [hk.eq_password rfl fun _ _ _ hu => (Option.some.inj (Except.ok.inj hu)).symm]
    rfl
  · decide
  · rw [h₁, h₂]
    decide
  · rw [h₁, h₂] at hjson
    have hshown := Event.shown_of_json_eq (Option.some.inj hjson)
    exact hkinds (congrArg Event.Shown.kind hshown)

end StandardManager

end Admission
