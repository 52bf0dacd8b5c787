import Admission.Proofs.Startup
import Admission.Provider.Scripted

/-!
# Whose word counts

Which providers of a chain are asked, in which order, and whose word decides, for any providers:
each may decline, fail, or give a token, proven or not, and change the state on the way.

A provider is asked (`Asked`) if it supports the request and none before it proves it. What it
answers depends on the state in which its turn comes (`turnState`), and so on everybody before it.
`mem_consult` and `pairwise_position_consult` say that a chain consults exactly the providers that
are asked, each once and in order of their places. From the places alone follows who decides: a
proof is the last consultation (`Asked.le_of_proves`), and without one the failure with the highest
place counts (`verdict_of_last_failure`).
-/

namespace Admission

variable {σ : Type} {request : Token} {p q : Provider σ} {ps : List (Provider σ)} {s : σ}
  {i j n : Nat} {t : Token} {e : AuthError} {kind : TokenKind} {cs : List Consultation}
  {c : Consultation}

/-! ## Turns -/

/-- The state in which the turn of a place comes. -/
def turnState (request : Token) (ps : List (Provider σ)) (s : σ) (i : Nat) : σ :=
  (ps.take i).foldl (Provider.turn request) s

@[simp] theorem turnState_zero : turnState request ps s 0 = s := rfl

@[simp] theorem turnState_cons_succ : turnState request (p :: ps) s (i + 1) =
    turnState request ps (p.turn request s) i := rfl

/-- The provider at a place is asked: it supports the request, and none before it proves it. -/
structure Asked (request : Token) (ps : List (Provider σ)) (s : σ) (i : Nat) (p : Provider σ) :
    Prop where
  place : ps[i]? = some p
  supports : p.supports request.kind = true
  pending : ∀ j < i, ∀ q, ps[j]? = some q → ¬ q.Proves request (turnState request ps s j)

/-- The provider at a place is asked and answers. -/
def Answered (request : Token) (ps : List (Provider σ)) (s : σ) (i : Nat) (a : Answer) : Prop :=
  ∃ p, Asked request ps s i p ∧ (p.attempt request (turnState request ps s i)).1.answer = a

/-- The first provider is asked if it supports the request. -/
theorem asked_zero : Asked request (p :: ps) s 0 q ↔ q = p ∧ p.supports request.kind = true := by
  constructor
  · intro h
    cases h.place
    exact ⟨rfl, h.supports⟩
  · rintro ⟨rfl, hp⟩
    exact ⟨rfl, hp, fun j hj => absurd hj (Nat.not_lt_zero j)⟩

/-- The others are asked as in their own chain, unless the first one proves the request. -/
theorem asked_succ : Asked request (p :: ps) s (i + 1) q ↔
    ¬ p.Proves request s ∧ Asked request ps (p.turn request s) i q := by
  constructor
  · intro h
    refine ⟨h.pending 0 (Nat.succ_pos i) p rfl, h.place, h.supports, fun j hj r hr => ?_⟩
    exact h.pending (j + 1) (Nat.succ_lt_succ hj) r hr
  · rintro ⟨hp, h⟩
    refine ⟨h.place, h.supports, fun j hj r hr => ?_⟩
    cases j with
    | zero => cases hr; exact hp
    | succ j => exact h.pending j (Nat.lt_of_succ_lt_succ hj) r hr

/-- Nobody after a proof is asked. -/
theorem Asked.le_of_proves (h : Asked request ps s i p)
    (hp : p.Proves request (turnState request ps s i)) (hj : Asked request ps s j q) : j ≤ i :=
  Nat.le_of_not_lt fun hlt => hj.pending i hlt p h.place hp

/-! ## Who is consulted -/

/-- A chain consults the providers that are asked, each in the state in which its turn comes. -/
theorem mem_consult : c ∈ (consult request n ps s).1 ↔ ∃ i p, Asked request ps s i p ∧
    c = ⟨n + i, p.name, (p.attempt request (turnState request ps s i)).1⟩ := by
  induction ps generalizing n s with
  | nil =>
    constructor
    · intro h
      cases h
    · rintro ⟨i, p, h, -⟩
      cases h.place
  | cons p ps ih =>
    -- Whoever is asked is the first provider, or is asked after its turn.
    have hsplit : (∃ i q, Asked request (p :: ps) s i q ∧
          c = ⟨n + i, q.name, (q.attempt request (turnState request (p :: ps) s i)).1⟩) ↔
        (p.supports request.kind = true ∧ c = ⟨n, p.name, (p.attempt request s).1⟩) ∨
          ¬ p.Proves request s ∧ c ∈ (consult request (n + 1) ps (p.turn request s)).1 := by
      rw [ih]
      constructor
      · rintro ⟨i, q, h, hc⟩
        cases i with
        | zero =>
          obtain ⟨rfl, hq⟩ := asked_zero.1 h
          exact .inl ⟨hq, hc⟩
        | succ i =>
          obtain ⟨hp, h⟩ := asked_succ.1 h
          refine .inr ⟨hp, i, q, h, ?_⟩
          rw [hc, turnState_cons_succ, Nat.add_right_comm, Nat.add_assoc]
      · rintro (⟨hp, hc⟩ | ⟨hp, i, q, h, hc⟩)
        · exact ⟨0, p, asked_zero.2 ⟨rfl, hp⟩, hc⟩
        · refine ⟨i + 1, q, asked_succ.2 ⟨hp, h⟩, ?_⟩
          rw [hc, turnState_cons_succ, Nat.add_right_comm, Nat.add_assoc]
    rw [hsplit]
    by_cases hs : p.supports request.kind = true
    · by_cases hp : p.Proves request s
      · rw [consult_of_proves hp]
        simp [hs, hp]
      · rw [consult_of_not_proves hs hp]
        simp [hs, hp]
    · rw [consult_of_unsupported hs]
      simp [hs, Provider.Proves]

/-- Providers are consulted in the order of their places, each at most once. -/
theorem pairwise_position_consult (ps : List (Provider σ)) :
    ((consult request n ps s).1.map Consultation.position).Pairwise (· < ·) := by
  induction ps generalizing n s with
  | nil => exact .nil
  | cons p ps ih =>
    by_cases hs : p.supports request.kind = true
    · by_cases hp : p.Proves request s
      · rw [consult_of_proves hp]
        exact List.pairwise_singleton _ _
      · rw [consult_of_not_proves hs hp]
        refine List.pairwise_cons.2 ⟨fun k hk => ?_, ih⟩
        obtain ⟨c, hc, rfl⟩ := List.mem_map.1 hk
        obtain ⟨i, q, -, rfl⟩ := mem_consult.1 hc
        show n < n + 1 + i
        omega
    · rw [consult_of_unsupported hs]
      exact ih

/-- Unless the first provider proves the request, a chain ends as the others end after its turn. -/
theorem snd_consult_cons (hp : ¬ p.Proves request s) :
    (consult request n (p :: ps) s).2 = (consult request (n + 1) ps (p.turn request s)).2 := by
  by_cases hs : p.supports request.kind = true
  · rw [consult_of_not_proves hs hp]
  · rw [consult_of_unsupported hs]

/-- A chain ends in the state after the turn of the provider that proves the request. -/
theorem snd_consult_of_proves (h : Asked request ps s i p)
    (hp : p.Proves request (turnState request ps s i)) :
    (consult request n ps s).2 = turnState request ps s (i + 1) := by
  induction ps generalizing n s i with
  | nil => cases h.place
  | cons q ps ih =>
    cases i with
    | zero =>
      obtain ⟨rfl, -⟩ := asked_zero.1 h
      rw [turnState_zero] at hp
      rw [consult_of_proves hp]
      rfl
    | succ i =>
      obtain ⟨hq, h⟩ := asked_succ.1 h
      rw [snd_consult_cons hq]
      exact ih h hp

/-- A chain in which nobody proves the request ends in the state after everybody's turn. -/
theorem snd_consult_of_unproven
    (h : ∀ (i : Nat) (p : Provider σ), ps[i]? = some p →
      ¬ p.Proves request (turnState request ps s i)) :
    (consult request n ps s).2 = turnState request ps s ps.length := by
  induction ps generalizing n s with
  | nil => rfl
  | cons p ps ih =>
    have hp : ¬ p.Proves request s := h 0 p rfl
    rw [snd_consult_cons hp]
    exact ih fun i q hq => h (i + 1) q hq

/-- If no token that is given is proven, nobody proves the request, asked or not. -/
theorem not_proves_of_answered
    (h : ∀ i t, Answered request ps s i (.gave t) → t.authenticated = false) (i : Nat)
    (p : Provider σ) (hp : ps[i]? = some p) : ¬ p.Proves request (turnState request ps s i) := by
  induction i using Nat.strongRecOn generalizing p with
  | ind i ih =>
    rintro ⟨hs, hproven⟩
    have hasked : Asked request ps s i p := ⟨hp, hs, ih⟩
    obtain ⟨t, ht⟩ := Option.isSome_iff_exists.1 hproven
    obtain ⟨hgave, hauth⟩ := Answer.proven?_eq_some.1 ht
    exact Bool.false_ne_true ((h i t ⟨p, hasked, hgave⟩).symm.trans hauth)

/-! ## Who decides -/

/-- Without a proof the last failure counts, or that there was none. -/
theorem verdict_of_unproven (h : ∀ c ∈ cs, c.attempt.answer.proven? = none) :
    verdict kind cs = .error
      (((cs.filterMap fun c => c.attempt.answer.error?).getLast?).getD (noProvider kind)) := by
  rw [verdict, List.findSome?_eq_none_iff.2 h]

/-- Where nobody proves the request, the last failure is the verdict. -/
theorem verdict_of_last_failure {before after : List Consultation}
    (h : ∀ d ∈ before ++ c :: after, d.attempt.answer.proven? = none)
    (hc : c.attempt.answer = .failed e) (hafter : ∀ d ∈ after, d.attempt.answer.error? = none) :
    verdict kind (before ++ c :: after) = .error e := by
  have hnone : after.filterMap (fun c => c.attempt.answer.error?) = [] :=
    List.filterMap_eq_nil_iff.2 hafter
  have herrors : (c :: after).filterMap (fun c => c.attempt.answer.error?) = [e] := by
    simp only [List.filterMap_cons, Answer.error?_eq_some.2 hc, hnone]
  rw [verdict_of_unproven h, List.filterMap_append, herrors, List.getLast?_concat,
    Option.getD_some]

/-- The first proof decides. -/
theorem verdict_consult_of_gave (h : Answered request ps s i (.gave t))
    (ht : t.authenticated = true) : verdict kind (consult request n ps s).1 = .ok t := by
  obtain ⟨p, hasked, hgave⟩ := h
  have hproven := Answer.proven?_eq_some.2 ⟨hgave, ht⟩
  have hp : p.Proves request (turnState request ps s i) :=
    ⟨hasked.supports, by rw [hproven]; rfl⟩
  obtain ⟨t', ht'⟩ : ∃ t', verdict kind (consult request n ps s).1 = .ok t' :=
    verdict_isOk.2 ⟨_, mem_consult.2 ⟨i, p, hasked, rfl⟩, hp.2⟩
  -- Whoever the verdict is taken from proves the request too, and two proofs have one place.
  obtain ⟨c, hc, hct⟩ := verdict_eq_ok ht'
  obtain ⟨j, q, hq, rfl⟩ := mem_consult.1 hc
  have hqp : q.Proves request (turnState request ps s j) := ⟨hq.supports, by rw [hct]; rfl⟩
  obtain rfl : i = j := Nat.le_antisymm (hq.le_of_proves hqp hasked) (hasked.le_of_proves hp hq)
  obtain rfl : p = q := Option.some.inj (hasked.place.symm.trans hq.place)
  rw [ht', Option.some.inj (hct.symm.trans hproven)]

/-- If no token that is given is proven, no consultation proves the request. -/
theorem proven?_consult (h : ∀ i t, Answered request ps s i (.gave t) → t.authenticated = false) :
    ∀ c ∈ (consult request n ps s).1, c.attempt.answer.proven? = none := by
  intro c hc
  obtain ⟨i, p, hasked, rfl⟩ := mem_consult.1 hc
  refine Option.eq_none_iff_forall_ne_some.2 fun t ht => ?_
  exact not_proves_of_answered h i p hasked.place ⟨hasked.supports, by rw [ht]; rfl⟩

/-- Without a proof the last failure decides. -/
theorem verdict_consult_of_failed
    (h : ∀ i t, Answered request ps s i (.gave t) → t.authenticated = false)
    (hi : Answered request ps s i (.failed e))
    (hlast : ∀ j e', i < j → ¬ Answered request ps s j (.failed e')) :
    verdict kind (consult request n ps s).1 = .error e := by
  obtain ⟨p, hasked, hfailed⟩ := hi
  have hmem : (⟨n + i, p.name, (p.attempt request (turnState request ps s i)).1⟩ : Consultation) ∈
      (consult request n ps s).1 := mem_consult.2 ⟨i, p, hasked, rfl⟩
  have hnone := proven?_consult (n := n) h
  have hplaces : ((consult request n ps s).1.map Consultation.position).Pairwise (· < ·) :=
    pairwise_position_consult ps
  have hback : ∀ c ∈ (consult request n ps s).1, ∃ j q, Asked request ps s j q ∧
      c = ⟨n + j, q.name, (q.attempt request (turnState request ps s j)).1⟩ :=
    fun c hc => mem_consult.1 hc
  obtain ⟨before, after, hsplit⟩ := List.append_of_mem hmem
  rw [hsplit] at hnone hplaces hback ⊢
  refine verdict_of_last_failure hnone hfailed fun c hc => ?_
  refine Option.eq_none_iff_forall_ne_some.2 fun e' he' => ?_
  obtain ⟨j, q, hq, rfl⟩ := hback c (by simp [hc])
  have hlt : n + i < n + j := by
    rw [List.map_append, List.map_cons] at hplaces
    have htail := (List.pairwise_append.1 hplaces).2.1
    exact (List.pairwise_cons.1 htail).1 _ (List.mem_map_of_mem hc)
  exact hlast j e' (Nat.lt_of_add_lt_add_left hlt) ⟨q, hq, Answer.error?_eq_some.1 he'⟩

/-- Without a proof and without a failure nobody was found. -/
theorem verdict_consult_of_silent
    (h : ∀ i t, Answered request ps s i (.gave t) → t.authenticated = false)
    (hsilent : ∀ i e, ¬ Answered request ps s i (.failed e)) :
    verdict kind (consult request n ps s).1 = .error (noProvider kind) := by
  have herror : (consult request n ps s).1.filterMap (fun c => c.attempt.answer.error?) = [] := by
    refine List.filterMap_eq_nil_iff.2 fun c hc => ?_
    obtain ⟨i, p, hasked, rfl⟩ := mem_consult.1 hc
    refine Option.eq_none_iff_forall_ne_some.2 fun e he => ?_
    exact hsilent i e ⟨p, hasked, Answer.error?_eq_some.1 he⟩
  rw [verdict_of_unproven (proven?_consult h), herror]
  rfl

/-! ## Decisions -/

namespace Manager

variable {m : Manager σ} {o : Occasion} {h : Hearing σ} {st : State σ} {log : List LogRecord}

/-- A proven token whose session is refused ends in that error. -/
theorem succeed_of_refused
    (hr : m.control.register h.state.sessions o.now o.sessionId t = .error e) :
    m.succeed o request t h = m.fail o request e h := by
  rw [succeed, hr]

/-- A proven token whose session is registered is handed out and announced. -/
theorem succeed_of_registered {r : SessionRegistry}
    (hr : m.control.register h.state.sessions o.now o.sessionId t = .ok (r, log)) :
    m.succeed o request t h = Hearing.announce
      { h with log := h.log ++ log, state := { h.state with sessions := r } }
      (.success o.stamp (m.handedOut t)) (.ok (m.handedOut t)) := by
  rw [succeed, hr]

/-- Succeeding asks nobody else. -/
theorem consulted_succeed : (m.succeed o request t h).consulted = h.consulted := by
  unfold succeed
  split
  · exact consulted_fail
  · rfl

/-- It leaves the users alone. -/
theorem realm_succeed : (m.succeed o request t h).state.realm = h.state.realm := by
  unfold succeed
  split
  · exact realm_fail
  · rfl

/-- An error of the session control is reported as it is. -/
theorem report_of_declared (he : e.kind ∈ m.control.declared) : m.report e = .authentication e :=
  report_of_required (List.mem_append_right _ he)

/-- A proven token is handed out if its session is registered. -/
theorem result_succeed : (m.succeed o request t h).result =
    match m.control.register h.state.sessions o.now o.sessionId t with
    | .ok _ => .ok (m.handedOut t)
    | .error e => .error (.authentication e) := by
  unfold succeed
  rcases hr : m.control.register h.state.sessions o.now o.sessionId t with e | ⟨r, registered⟩
  · have hdeclared := SessionControl.kind_of_register hr
    exact result_fail.trans (congrArg Except.error (report_of_declared hdeclared))
  · rfl

/-- A request that is denied is put to nobody. -/
theorem authenticate_of_denied (hcheck : m.control.check st.sessions request = (.error e, log)) :
    m.authenticate o request st =
      m.fail o request e ⟨[], log ++ [.admissionDenied request.name], st⟩ := by
  rw [authenticate, hcheck]

/-- A request that is admitted is put to the chain, whatever comes of it. -/
theorem consulted_of_check (hcheck : m.control.check st.sessions request = (.ok (), log)) :
    (m.authenticate o request st).consulted = (consult request 0 m.providers st.realm).1 := by
  rw [authenticate_of_check hcheck]
  split
  · exact consulted_fail
  · exact consulted_succeed

/-- A decision that is up to the chain leaves the users as the chain does. -/
theorem realm_of_check (hcheck : m.control.check st.sessions request = (.ok (), log)) :
    (m.authenticate o request st).state.realm = (consult request 0 m.providers st.realm).2 := by
  rw [authenticate_of_check hcheck]
  split
  · exact realm_fail
  · exact realm_succeed

/-- A chain without a proof ends the decision with its error. -/
theorem result_of_failed (hcheck : m.control.check st.sessions request = (.ok (), log))
    (hv : verdict request.kind (consult request 0 m.providers st.realm).1 = .error e) :
    (m.authenticate o request st).result = .error (m.report e) := by
  have hv' : verdict request.kind (m.heard request st log).consulted = .error e := hv
  rw [authenticate_of_check hcheck, hv']
  exact result_fail

/-- A chain with a proof leaves the decision to the registration of the session. -/
theorem result_of_proven (hcheck : m.control.check st.sessions request = (.ok (), log))
    (hv : verdict request.kind (consult request 0 m.providers st.realm).1 = .ok t) :
    (m.authenticate o request st).result =
      match m.control.register st.sessions o.now o.sessionId t with
      | .ok _ => .ok (m.handedOut t)
      | .error e => .error (.authentication e) := by
  have hv' : verdict request.kind (m.heard request st log).consulted = .ok t := hv
  rw [authenticate_of_check hcheck, hv']
  exact result_succeed

/-- **The first proof counts, else the last failure, else that nobody was found.**

A request that the session control denies is put to nobody and fails with that error. Any other is
put to exactly the providers that are asked, in order and once each. If one of them gives a proven
token, it is the last one asked, and the decision is on that token: it is handed out if its session
is registered. Otherwise the decision fails with the error that was raised last or, where nobody
raised one, with the error that no provider was found for the kind of token. Only the turns up to
that point change the state of the providers. Of all these errors only that of a provider may be one
that the set-up has no event for. -/
theorem authenticate_precedence (m : Manager σ) (o : Occasion) (request : Token) (s : State σ) :
    let d := m.authenticate o request s
    let answered := Answered request m.providers s.realm
    let turn := turnState request m.providers s.realm
    (∀ e log, m.control.check s.sessions request = (.error e, log) →
      d.consulted = [] ∧ d.state.realm = s.realm ∧ d.result = .error (.authentication e)) ∧
    ∀ log, m.control.check s.sessions request = (.ok (), log) →
      (d.consulted.map Consultation.position).Pairwise (· < ·) ∧
      (∀ c, c ∈ d.consulted ↔ ∃ p, Asked request m.providers s.realm c.position p ∧
        c.provider = p.name ∧ c.attempt = (p.attempt request (turn c.position)).1) ∧
      (∀ i t, answered i (.gave t) → t.authenticated = true →
        (∀ c ∈ d.consulted, c.position ≤ i) ∧ d.state.realm = turn (i + 1) ∧
        d.result = match m.control.register s.sessions o.now o.sessionId t with
          | .ok _ => .ok (m.handedOut t)
          | .error e => .error (.authentication e)) ∧
      ((∀ i t, answered i (.gave t) → t.authenticated = false) →
        d.state.realm = turn m.providers.length ∧
        (∀ i e, answered i (.failed e) → (∀ j e', i < j → ¬ answered j (.failed e')) →
          d.result = .error (m.report e)) ∧
        ((∀ i e, ¬ answered i (.failed e)) →
          d.result = .error (.authentication ⟨.providerNotFound,
            "No authentication provider found for " ++ request.kind.display, none⟩))) := by
  intro d answered turn
  refine ⟨?_, ?_⟩
  · intro e log hcheck
    have hd : d = m.fail o request e ⟨[], log ++ [.admissionDenied request.name], s⟩ :=
      authenticate_of_denied hcheck
    rw [hd, ← report_of_declared (SessionControl.kind_of_check hcheck)]
    exact ⟨consulted_fail, realm_fail, result_fail⟩
  · intro log hcheck
    have hconsulted : d.consulted = (consult request 0 m.providers s.realm).1 :=
      consulted_of_check hcheck
    have hrealm : d.state.realm = (consult request 0 m.providers s.realm).2 :=
      realm_of_check hcheck
    rw [hconsulted, hrealm]
    refine ⟨pairwise_position_consult _, ?_, ?_, ?_⟩
    · intro c
      rw [mem_consult]
      constructor
      · rintro ⟨i, p, hasked, rfl⟩
        have hi : 0 + i = i := Nat.zero_add i
        exact ⟨p, hi.symm ▸ hasked, rfl, by rw [hi]⟩
      · rintro ⟨p, hasked, hname, hattempt⟩
        refine ⟨c.position, p, hasked, ?_⟩
        rw [← hname, ← hattempt, Nat.zero_add]
    · rintro i t hgave ht
      obtain ⟨p, hasked, hp⟩ := id hgave
      have hproves : p.Proves request (turnState request m.providers s.realm i) :=
        ⟨hasked.supports, by rw [Answer.proven?_eq_some.2 ⟨hp, ht⟩]; rfl⟩
      refine ⟨fun c hc => ?_, snd_consult_of_proves hasked hproves, ?_⟩
      · obtain ⟨j, q, hq, rfl⟩ := mem_consult.1 hc
        show 0 + j ≤ i
        rw [Nat.zero_add]
        exact hasked.le_of_proves hproves hq
      · exact result_of_proven hcheck (verdict_consult_of_gave hgave ht)
    · intro hnone
      refine ⟨snd_consult_of_unproven (not_proves_of_answered hnone), ?_, ?_⟩
      · intro i e hfailed hlast
        exact result_of_failed hcheck (verdict_consult_of_failed hnone hfailed hlast)
      · intro hsilent
        have hrequired : (noProvider request.kind).kind ∈ m.required :=
          List.mem_append_left _ List.mem_cons_self
        exact (result_of_failed hcheck (verdict_consult_of_silent hnone hsilent)).trans
          (congrArg Except.error (report_of_required hrequired))

/-- A chain of one provider for another kind of token, one that fails, one that gives the request
back, and two that would grant it. -/
theorem authenticate_precedence_mixed :
    let login : List TokenKind := [.usernamePassword]
    let chain : List (Provider Unit) := [
      .scripted "ticket" [.cas] [] .decline,
      .scripted "remote" login [] (.fail ⟨.badCredentials, "Bad credentials", none⟩),
      .scripted "echo" login [] .echo,
      .scripted "local" login [] (.grant ["ROLE_USER"] none false),
      .scripted "spare" login [] (.grant ["ROLE_ADMIN"] none false)]
    let m : Manager Unit := { providers := chain, complete := rfl }
    let request := Token.usernamePassword "alice" "pw"
    let granted : Token :=
      { request with
        credentials := .absent, authorities := .ofList ["ROLE_USER"], authenticated := true }
    let d := m.authenticate ⟨0, "1", ⟨0, 0, 0⟩⟩ request ⟨(), .empty, m.publisher⟩
    (d.consulted.map Consultation.position).Pairwise (· < ·) ∧
      (∀ c ∈ d.consulted, c.position ≤ 3) ∧ d.result = .ok granted := by
  intro login chain m request granted d
  obtain ⟨-, hadmitted⟩ := m.authenticate_precedence ⟨0, "1", ⟨0, 0, 0⟩⟩ request
    ⟨(), .empty, m.publisher⟩
  obtain ⟨hplaces, -, hproof, -⟩ := hadmitted [] rfl
  have hasked : Asked request chain () 3
      (.scripted "local" login [] (.grant ["ROLE_USER"] none false)) := by
    refine ⟨rfl, rfl, fun j hj q hq => ?_⟩
    match j with
    | 0 => cases hq; rintro ⟨hsupports, -⟩; cases hsupports
    | 1 => cases hq; rintro ⟨-, hproven⟩; cases hproven
    | 2 => cases hq; rintro ⟨-, hproven⟩; cases hproven
    | j + 3 => omega
  obtain ⟨hle, -, hresult⟩ := hproof 3 { granted with credentials := .password "pw" }
    ⟨_, hasked, rfl⟩ rfl
  exact ⟨hplaces, hle, hresult⟩

end Manager

end Admission
