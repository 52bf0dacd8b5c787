import Admission.Manager

/-!
# The chain and the decision

What a chain of providers amounts to, and how a decision comes about, for any providers.

A provider that is asked may change the state, so the second provider does not see the state that
the first one saw. `Provider.turn` is the state after a provider had its turn. The first provider of
a chain is passed over, ends the search, or leaves the request to the others, and each time it is
known what the chain amounts to (`consult_of_unsupported`, `consult_of_proves`,
`consult_of_not_proves`). So a chain proves a request exactly if one of its providers does in the
state in which its turn comes (`exists_proven_consult`), and what every attempt preserves is
preserved by the chain (`consult_induction`).

A decision ends in one of four ways (`Manager.Outcome`): the request is denied, the chain fails, the
session of a proven token is refused, or the token is granted.
-/

namespace Admission

variable {σ : Type} {request : Token} {n : Nat} {s : σ} {kind : TokenKind}

/-! ## Chains -/

/-- A provider proves a request in a state. -/
def Provider.Proves (p : Provider σ) (request : Token) (s : σ) : Prop :=
  p.supports request.kind = true ∧ (p.attempt request s).1.answer.proven?.isSome = true

/-- The state after a provider had its turn, in which it is asked if it supports the request. -/
def Provider.turn (request : Token) (s : σ) (p : Provider σ) : σ :=
  if p.supports request.kind then (p.attempt request s).2 else s

/-! ### One provider -/

section

variable {p : Provider σ} {ps : List (Provider σ)}

/-- A provider that supports a request leaves the state as its attempt does. -/
theorem Provider.turn_of_supports (hs : p.supports request.kind = true) :
    p.turn request s = (p.attempt request s).2 :=
  if_pos hs

/-- Any other leaves it as it is. -/
theorem Provider.turn_of_unsupported (hs : ¬ p.supports request.kind = true) :
    p.turn request s = s :=
  if_neg hs

/-- A provider that does not support the request is passed over. -/
theorem consult_of_unsupported (hs : ¬ p.supports request.kind = true) :
    consult request n (p :: ps) s = consult request (n + 1) ps (p.turn request s) := by
  rw [consult, if_neg hs, Provider.turn_of_unsupported hs]

/-- A proof ends the search. -/
theorem consult_of_proves (hp : p.Proves request s) :
    consult request n (p :: ps) s =
      ([⟨n, p.name, (p.attempt request s).1⟩], p.turn request s) := by
  rw [consult, if_pos hp.1, Provider.turn_of_supports hp.1]
  exact if_pos hp.2

/-- A provider that is asked and proves nothing leaves the request to the others. -/
theorem consult_of_not_proves (hs : p.supports request.kind = true) (hp : ¬ p.Proves request s) :
    consult request n (p :: ps) s =
      (⟨n, p.name, (p.attempt request s).1⟩ ::
          (consult request (n + 1) ps (p.turn request s)).1,
        (consult request (n + 1) ps (p.turn request s)).2) := by
  rw [consult, if_pos hs, Provider.turn_of_supports hs]
  exact if_neg fun hproven => hp ⟨hs, hproven⟩

end

/-! ### All providers -/

/-- The splits of a list with a first element: at that element, or further on. -/
theorem exists_eq_append_cons {α : Type} {a : α} {l : List α} {P : List α → α → Prop} :
    (∃ before x after, a :: l = before ++ x :: after ∧ P before x) ↔
      P [] a ∨ ∃ before x after, l = before ++ x :: after ∧ P (a :: before) x := by
  constructor
  · rintro ⟨before, x, after, h, hP⟩
    cases before with
    | nil => cases h; exact .inl hP
    | cons b before => cases h; exact .inr ⟨before, x, after, rfl, hP⟩
  · rintro (hP | ⟨before, x, after, rfl, hP⟩)
    · exact ⟨[], a, l, rfl, hP⟩
    · exact ⟨a :: before, x, after, rfl, hP⟩

/-- **A chain proves a request if one of its providers does when its turn comes.** -/
theorem exists_proven_consult (ps : List (Provider σ)) :
    (∃ c ∈ (consult request n ps s).1, c.attempt.answer.proven?.isSome = true) ↔
      ∃ before p after, ps = before ++ p :: after ∧
        p.Proves request (before.foldl (Provider.turn request) s) := by
  induction ps generalizing n s with
  | nil => simp [consult]
  | cons p ps ih =>
    rw [exists_eq_append_cons]
    simp only [List.foldl_cons, List.foldl_nil]
    by_cases hp : p.supports request.kind = true
    · rw [show Provider.turn request s p = (p.attempt request s).2 from if_pos hp,
        ← ih (n := n + 1)]
      cases ha : (p.attempt request s).1.answer.proven?.isSome with
      | true => simp [consult, Provider.Proves, hp, ha]
      | false => simp [consult, Provider.Proves, hp, ha]
    · rw [show Provider.turn request s p = s from if_neg hp, ← ih (n := n + 1)]
      simp [consult, Provider.Proves, hp]

/-- What every attempt preserves is preserved by the chain, and what every attempt shows under it
is shown by every consultation. -/
theorem consult_induction {I : σ → Prop} {P : Attempt → Prop} {ps : List (Provider σ)}
    (hstep : ∀ p ∈ ps, p.supports request.kind = true → ∀ s, I s →
      P (p.attempt request s).1 ∧ I (p.attempt request s).2) (h : I s) :
    (∀ c ∈ (consult request n ps s).1, P c.attempt) ∧ I (consult request n ps s).2 := by
  induction ps generalizing n s with
  | nil => exact ⟨by simp [consult], h⟩
  | cons p ps ih =>
    have ih' := fun {n s} => ih (n := n) (s := s) fun q hq => hstep q (List.mem_cons_of_mem _ hq)
    unfold consult
    split
    · next hp =>
      obtain ⟨hP, hI⟩ := hstep p List.mem_cons_self hp s h
      dsimp only
      split
      · exact ⟨by simpa using hP, hI⟩
      · obtain ⟨hrest, hlast⟩ := ih' (n := n + 1) hI
        exact ⟨by simpa using ⟨hP, hrest⟩, hlast⟩
    · exact ih' h

/-- What every attempt shows in every state is shown by every consultation. -/
theorem forall_consult {P : Attempt → Prop} {ps : List (Provider σ)}
    (h : ∀ p ∈ ps, ∀ s, P (p.attempt request s).1) :
    ∀ c ∈ (consult request n ps s).1, P c.attempt :=
  (consult_induction (I := fun _ => True) (fun p hp _ s _ => ⟨h p hp s, trivial⟩) trivial).1

/-! ## Verdicts -/

variable {cs : List Consultation}

/-- The verdict is a token if somebody gave a proven one. -/
theorem verdict_isOk : (∃ t, verdict kind cs = .ok t) ↔
    ∃ c ∈ cs, c.attempt.answer.proven?.isSome = true := by
  rw [← List.findSome?_isSome_iff, verdict]
  cases cs.findSome? fun c => c.attempt.answer.proven? <;> simp

/-- The token of a verdict was proven in a consultation. -/
theorem verdict_eq_ok {t : Token} (h : verdict kind cs = .ok t) :
    ∃ c ∈ cs, c.attempt.answer.proven? = some t := by
  unfold verdict at h
  split at h
  · next hfind => cases h; exact List.exists_of_findSome?_eq_some hfind
  · cases h

/-- The error of a verdict was raised in a consultation, or nobody raised one. -/
theorem verdict_eq_error {e : AuthError} (h : verdict kind cs = .error e) :
    e = noProvider kind ∨ ∃ c ∈ cs, c.attempt.answer.error? = some e := by
  unfold verdict at h
  split at h
  · cases h
  · cases h
    cases hlast : (cs.filterMap fun c => c.attempt.answer.error?).getLast? with
    | none => exact .inl rfl
    | some e => exact .inr (List.mem_filterMap.1 (List.mem_of_getLast? hlast))

/-! ## Decisions -/

namespace Manager

variable {m : Manager σ} {o : Occasion} {h : Hearing σ} {e : AuthError}

/-- What is known of a request once the chain was asked. -/
def heard (m : Manager σ) (request : Token) (s : State σ) (log : List LogRecord) : Hearing σ where
  consulted := (consult request 0 m.providers s.realm).1
  log := log ++ (consult request 0 m.providers s.realm).1.flatMap Consultation.log
  state := { s with realm := (consult request 0 m.providers s.realm).2 }

@[simp] theorem sessions_heard {s : State σ} {log : List LogRecord} :
    (m.heard request s log).state.sessions = s.sessions := rfl

/-- How a decision comes about. -/
inductive Outcome (m : Manager σ) (o : Occasion) (request : Token) (s : State σ)
    (d : Decision σ) : Prop
  /-- The session control denies the request and nobody is asked. -/
  | denied (e : AuthError) (log : List LogRecord)
    (check : m.control.check s.sessions request = (.error e, log))
    (eq : d = m.fail o request e ⟨[], log ++ [.admissionDenied request.name], s⟩)
  /-- Nobody proves the request. -/
  | failed (e : AuthError) (log : List LogRecord)
    (check : m.control.check s.sessions request = (.ok (), log))
    (verdict : verdict request.kind (m.heard request s log).consulted = .error e)
    (eq : d = m.fail o request e (m.heard request s log))
  /-- The session of the proven token is refused. -/
  | refused (t : Token) (e : AuthError) (log : List LogRecord)
    (check : m.control.check s.sessions request = (.ok (), log))
    (verdict : verdict request.kind (m.heard request s log).consulted = .ok t)
    (register : m.control.register s.sessions o.now o.sessionId t = .error e)
    (eq : d = m.fail o request e (m.heard request s log))
  /-- The proven token is granted and its session registered. -/
  | granted (t : Token) (r : SessionRegistry) (log registered : List LogRecord)
    (check : m.control.check s.sessions request = (.ok (), log))
    (verdict : verdict request.kind (m.heard request s log).consulted = .ok t)
    (register : m.control.register s.sessions o.now o.sessionId t = .ok (r, registered))
    (eq : d = Hearing.announce
      { m.heard request s log with
        log := (m.heard request s log).log ++ registered
        state := { (m.heard request s log).state with sessions := r } }
      (.success o.stamp (m.handedOut t)) (.ok (m.handedOut t)))

/-- A request that the control admits is decided by the chain. -/
theorem authenticate_of_check {s : State σ} {log : List LogRecord}
    (hc : m.control.check s.sessions request = (.ok (), log)) :
    m.authenticate o request s =
      match verdict request.kind (m.heard request s log).consulted with
      | .error e => m.fail o request e (m.heard request s log)
      | .ok t => m.succeed o request t (m.heard request s log) := by
  rw [authenticate, hc]
  rfl

/-- A decision has one of the four outcomes. -/
theorem outcome (m : Manager σ) (o : Occasion) (request : Token) (s : State σ) :
    Outcome m o request s (m.authenticate o request s) := by
  rcases hc : m.control.check s.sessions request with ⟨_ | _, log⟩
  · exact .denied _ log hc (by rw [authenticate, hc])
  · have ha := authenticate_of_check (o := o) hc
    rcases hv : verdict request.kind (m.heard request s log).consulted with e | t
    · exact .failed e log hc hv (by rw [ha, hv])
    · rcases hr : m.control.register s.sessions o.now o.sessionId t with e | ⟨r, registered⟩
      · exact .refused t e log hc hv hr (by simp only [ha, hv, succeed, sessions_heard, hr])
      · exact .granted t r log registered hc hv hr
          (by simp only [ha, hv, succeed, sessions_heard, hr])

/-- What the caller is told of an error: the error itself, or the gap in the table of events. -/
def report (m : Manager σ) (e : AuthError) : ManagerError :=
  if m.mappings.contains e.kind then .authentication e
  else .configuration (.missingEventMapping e.kind)

/-- An error is reported, or the gap in the table where its event should be. -/
theorem result_fail : (m.fail o request e h).result = .error (m.report e) := by
  unfold fail EventMappings.event? report EventMappings.contains
  cases m.mappings.entry e.kind <;> rfl

/-- Failing asks nobody else. -/
theorem consulted_fail : (m.fail o request e h).consulted = h.consulted := by
  unfold fail
  split <;> rfl

/-- It leaves the users alone. -/
theorem realm_fail : (m.fail o request e h).state.realm = h.state.realm := by
  unfold fail
  split <;> rfl

/-- It leaves the sessions alone. -/
theorem sessions_fail : (m.fail o request e h).state.sessions = h.state.sessions := by
  unfold fail
  split <;> rfl

/-- A decision that gives no token leaves the sessions as they were. -/
theorem sessions_of_error {s : State σ} {e : ManagerError}
    (he : (m.authenticate o request s).result = .error e) :
    (m.authenticate o request s).state.sessions = s.sessions := by
  cases m.outcome o request s with
  | denied e log check eq => rw [eq, sessions_fail]
  | failed e log check verdict eq => rw [eq, sessions_fail, sessions_heard]
  | refused t e log check verdict register eq => rw [eq, sessions_fail, sessions_heard]
  | granted t r log registered check verdict register eq =>
    rw [eq] at he
    cases he

/-- A token that a decision gives is handed out for one that the chain proves. -/
theorem exists_verdict_of_result {s : State σ} {t : Token}
    (h : (m.authenticate o request s).result = .ok t) :
    ∃ t', verdict request.kind (consult request 0 m.providers s.realm).1 = .ok t' ∧
      m.handedOut t' = t := by
  cases m.outcome o request s with
  | denied e log check eq => rw [eq, result_fail] at h; cases h
  | failed e log check verdict eq => rw [eq, result_fail] at h; cases h
  | refused t' e log check verdict register eq => rw [eq, result_fail] at h; cases h
  | granted t' r log registered check verdict register eq =>
    rw [eq] at h
    exact ⟨t', verdict, Except.ok.inj h⟩

/-- A decision gives a token if the request is admitted, the chain proves it and its session is
registered. -/
theorem authenticate_isOk {s : State σ} :
    (∃ t, (m.authenticate o request s).result = .ok t) ↔
      (m.control.check s.sessions request).1 = .ok () ∧
      ∃ t, verdict request.kind (consult request 0 m.providers s.realm).1 = .ok t ∧
        ∃ out, m.control.register s.sessions o.now o.sessionId t = .ok out := by
  cases m.outcome o request s with
  | denied e log check eq => simp [eq, result_fail, check]
  | failed e log check verdict eq =>
    rw [heard] at verdict
    simp [eq, result_fail, verdict]
  | refused t e log check verdict register eq =>
    rw [heard] at verdict
    simp [eq, result_fail, verdict, register]
  | granted t r log registered check verdict register eq =>
    rw [heard] at verdict
    simp [eq, Hearing.announce, check, verdict, register]

end Manager

end Admission
