import Mathlib.Data.List.Forall2
import Admission.Proofs.Precedence

/-!
# Errors that are discarded

While a later provider may still prove the request, the error of a provider is only kept in mind. If
somebody proves the request, or fails later, that error is discarded (`Discarded`), and then nothing
shows what it was: the decision is the same, to the log records and the events, as if the provider
had raised any other error in its place (`Manager.authenticate_discarded`).

A chain in which one provider raises another error consults the same providers in the same states
(`consult_set`). So the consultations of both chains split at the place of that provider and agree
before and after it, and the verdict is taken from elsewhere (`verdict_of_discarded`).
-/

namespace Admission

variable {σ : Type} {request t : Token} {p q : Provider σ} {ps : List (Provider σ)} {s : σ}
  {i n : Nat} {e e' : AuthError} {kind : TokenKind} {cs : List Consultation} {c c' : Consultation}

/-! ## One provider -/

/-- In a state two providers raise an error each, and do the same otherwise: they have one name,
declare and support the same, take the same notes and leave the same state. -/
structure Provider.RaiseAlike (p q : Provider σ) (request : Token) (s : σ) (e e' : AuthError) :
    Prop where
  name : q.name = p.name
  declared : q.declared = p.declared
  supports : q.supports = p.supports
  raised : ∃ notes s', p.attempt request s = (⟨.failed e, notes⟩, s') ∧
    q.attempt request s = (⟨.failed e', notes⟩, s')

/-- Two consultations of one provider are the same but for the error that it raised. -/
inductive Consultation.SameButError : Consultation → Consultation → Prop
  | same (c : Consultation) : SameButError c c
  | raised (position : Nat) (provider : String) (notes : List Note) (e e' : AuthError) :
    SameButError ⟨position, provider, .failed e, notes⟩ ⟨position, provider, .failed e', notes⟩

/-- Consultations differ from themselves in no error. -/
theorem Consultation.sameButError_refl (cs : List Consultation) :
    List.Forall₂ Consultation.SameButError cs cs :=
  List.forall₂_same.2 fun c _ => .same c

/-- What is reported of a consultation does not depend on an error that was raised. -/
theorem Consultation.SameButError.log_eq (h : c.SameButError c') : c'.log = c.log := by
  cases h <;> rfl

/-- Consultations that differ in their errors prove the same. -/
theorem Consultation.SameButError.proven?_eq (h : c.SameButError c') :
    c'.attempt.answer.proven? = c.attempt.answer.proven? := by
  cases h <;> rfl

namespace Provider.RaiseAlike

/-- Who raises an error proves nothing. -/
theorem not_proves (h : p.RaiseAlike q request s e e') :
    ¬ p.Proves request s ∧ ¬ q.Proves request s := by
  obtain ⟨notes, s', hp, hq⟩ := h.raised
  constructor
  · rintro ⟨-, hproven⟩
    rw [hp] at hproven
    cases hproven
  · rintro ⟨-, hproven⟩
    rw [hq] at hproven
    cases hproven

/-- A provider that raises one error in place of another leaves the same state. -/
theorem turn_eq (h : p.RaiseAlike q request s e e') : q.turn request s = p.turn request s := by
  obtain ⟨notes, s', hp, hq⟩ := h.raised
  unfold Provider.turn
  rw [h.supports, hp, hq]

end Provider.RaiseAlike

/-! ## The chain -/

/-- A chain in which one of the providers that are asked raises another error consults the same
providers, to the same effect but for that error. -/
theorem consult_set (hasked : Asked request ps s i p)
    (h : p.RaiseAlike q request (turnState request ps s i) e e') :
    ∃ before c c' after, (consult request n ps s).1 = before ++ c :: after ∧
      consult request n (ps.set i q) s = (before ++ c' :: after, (consult request n ps s).2) ∧
      c.position = n + i ∧ c.SameButError c' := by
  induction ps generalizing n s i with
  | nil => cases hasked.place
  | cons r ps ih =>
    cases i with
    | zero =>
      obtain ⟨rfl, hs⟩ := asked_zero.1 hasked
      rw [turnState_zero] at h
      have hs' : q.supports request.kind = true := by rw [h.supports, hs]
      obtain ⟨notes, s', hp, hq⟩ := h.raised
      rw [List.set_cons_zero, consult_of_not_proves hs h.not_proves.1,
        consult_of_not_proves hs' h.not_proves.2, h.turn_eq, h.name, hp, hq]
      exact ⟨[], _, _, _, rfl, rfl, rfl, .raised ..⟩
    | succ i =>
      obtain ⟨hr, hasked⟩ := asked_succ.1 hasked
      obtain ⟨before, c, c', after, heq, heq', hposition, hsame⟩ :=
        ih (n := n + 1) hasked h
      rw [List.set_cons_succ]
      have hplace : c.position = n + (i + 1) := by omega
      by_cases hs : r.supports request.kind = true
      · rw [consult_of_not_proves hs hr, consult_of_not_proves hs hr, heq', heq]
        exact ⟨_ :: before, c, c', after, rfl, rfl, hplace, hsame⟩
      · rw [consult_of_unsupported hs, consult_of_unsupported hs, heq', heq]
        exact ⟨before, c, c', after, rfl, rfl, hplace, hsame⟩

/-- The error raised at a place is not the one that a chain ends with: somebody proves the request,
or a provider with a higher place fails too. -/
def Discarded (request : Token) (ps : List (Provider σ)) (s : σ) (i : Nat) : Prop :=
  (∃ j t, Answered request ps s j (.gave t) ∧ t.authenticated = true) ∨
    ∃ j e, i < j ∧ Answered request ps s j (.failed e)

/-- Where somebody fails after a consultation, the last error is raised after it. -/
theorem getLast?_errors {before after : List Consultation}
    (h : ∃ d ∈ after, d.attempt.answer.error?.isSome = true) :
    ((before ++ c :: after).filterMap fun d => d.attempt.answer.error?).getLast? =
      (after.filterMap fun d => d.attempt.answer.error?).getLast? := by
  obtain ⟨d, hd, herror⟩ := h
  obtain ⟨e, he⟩ := Option.isSome_iff_exists.1 herror
  have hne : after.filterMap (fun d => d.attempt.answer.error?) ≠ [] :=
    List.ne_nil_of_mem (List.mem_filterMap.2 ⟨d, hd, he⟩)
  rw [List.append_cons, List.filterMap_append, List.getLast?_append,
    Option.or_of_isSome (List.getLast?_isSome.2 hne)]

/-- If the request is proven, or somebody fails after a consultation, then the error that was raised
in that consultation does not count. -/
theorem verdict_of_discarded {before after : List Consultation} (hsame : c.SameButError c')
    (h : (∃ t, verdict kind (before ++ c :: after) = .ok t) ∨
      ∃ d ∈ after, d.attempt.answer.error?.isSome = true) :
    verdict kind (before ++ c' :: after) = verdict kind (before ++ c :: after) := by
  have hproven : (before ++ c' :: after).findSome? (fun d => d.attempt.answer.proven?) =
      (before ++ c :: after).findSome? fun d => d.attempt.answer.proven? := by
    simp only [List.findSome?_append, List.findSome?_cons, hsame.proven?_eq]
  unfold verdict at h ⊢
  rw [hproven]
  cases hfind : (before ++ c :: after).findSome? fun d => d.attempt.answer.proven? with
  | some t => rfl
  | none =>
    rcases h with ⟨t, ht⟩ | hlater
    · rw [hfind] at ht
      cases ht
    · simp only [getLast?_errors hlater]

/-- Where consultations are in the order of their places, one with a higher place comes after. -/
theorem mem_after_of_position_lt {before after : List Consultation}
    (hplaces : ((before ++ c :: after).map Consultation.position).Pairwise (· < ·))
    (hc' : c' ∈ before ++ c :: after) (hlt : c.position < c'.position) : c' ∈ after := by
  rw [List.map_append, List.map_cons, List.pairwise_append] at hplaces
  obtain ⟨-, -, hbefore⟩ := hplaces
  rcases List.mem_append.1 hc' with hmem | hmem
  · have hgt := hbefore _ (List.mem_map_of_mem hmem) _ List.mem_cons_self
    exact absurd hlt (Nat.lt_asymm hgt)
  · rcases List.mem_cons.1 hmem with rfl | hmem
    · exact absurd hlt (Nat.lt_irrefl _)
    · exact hmem

/-- An error that is discarded does not change the verdict of the chain. -/
theorem verdict_consult_set (hasked : Asked request ps s i p)
    (h : p.RaiseAlike q request (turnState request ps s i) e e')
    (hdiscarded : Discarded request ps s i) : verdict kind (consult request n (ps.set i q) s).1 =
      verdict kind (consult request n ps s).1 := by
  obtain ⟨before, c, c', after, heq, heq', hposition, hsame⟩ := consult_set (n := n) hasked h
  have hplaces : ((consult request n ps s).1.map Consultation.position).Pairwise (· < ·) :=
    pairwise_position_consult ps
  rw [heq', heq]
  refine verdict_of_discarded hsame ?_
  rcases hdiscarded with ⟨j, t, hgave, ht⟩ | ⟨j, e, hlt, r, hr, hfailed⟩
  · exact .inl ⟨t, heq ▸ verdict_consult_of_gave hgave ht⟩
  · have hmem : ⟨n + j, r.name, (r.attempt request (turnState request ps s j)).1⟩ ∈
        (consult request n ps s).1 := mem_consult.2 ⟨j, r, hr, rfl⟩
    rw [heq] at hplaces hmem
    have hgt : c.position < n + j := by omega
    have hafter := mem_after_of_position_lt hplaces hmem hgt
    exact .inr ⟨_, hafter, Option.isSome_iff_exists.2 ⟨e, Answer.error?_eq_some.2 hfailed⟩⟩

/-! ## Managers -/

/-- The set-up with another provider at a place. -/
def Setup.replace (m : Setup σ) (i : Nat) (q : Provider σ) : Setup σ :=
  { m with providers := m.providers.set i q }

/-- A set-up stays complete if a provider is replaced by one that declares the same errors. -/
theorem Setup.check_replace {m : Setup σ} (hp : m.providers[i]? = some p)
    (hq : q.declared = p.declared) : (m.replace i q).check = m.check := by
  obtain ⟨hlt, hget⟩ := List.getElem?_eq_some_iff.1 hp
  have hlt' : i < (m.providers.map Provider.declared).length := by simpa using hlt
  have hplace : (m.providers.map Provider.declared)[i] = q.declared := by
    rw [List.getElem_map, hget, hq]
  have hdeclared : (m.providers.set i q).map Provider.declared =
      m.providers.map Provider.declared := by
    rw [List.map_set, ← hplace, List.set_getElem_self]
  have hrequired : (m.replace i q).required = m.required := by
    simp only [required, replace, List.flatMap_def, hdeclared]
  have hempty : (m.providers.set i q).isEmpty = m.providers.isEmpty := by
    rw [Bool.eq_iff_iff]
    simp
  unfold check
  rw [hrequired]
  exact ite_congr (congrArg (· = true) hempty) (fun _ => rfl) fun _ => rfl

/-- The decision with other consultations. -/
def Decision.withConsulted (d : Decision σ) (cs : List Consultation) : Decision σ :=
  { d with consulted := cs }

/-- The hearing with other consultations. -/
def Hearing.withConsulted (h : Hearing σ) (cs : List Consultation) : Hearing σ :=
  { h with consulted := cs }

namespace Manager

variable {m : Manager σ} {o : Occasion} {h : Hearing σ} {st : State σ}

/-- The manager with a provider replaced by one that declares the same errors. -/
def replace (m : Manager σ) (i : Nat) (p q : Provider σ) (hp : m.providers[i]? = some p)
    (hq : q.declared = p.declared) : Manager σ :=
  ⟨m.toSetup.replace i q, (Setup.check_replace hp hq).trans m.complete⟩

/-! ### Endings -/

/-- How a hearing fails does not depend on who was asked. -/
theorem fail_withConsulted : m.fail o request e (h.withConsulted cs) =
    (m.fail o request e h).withConsulted cs := by
  unfold fail
  split <;> rfl

/-- Nor does how it succeeds. -/
theorem succeed_withConsulted : m.succeed o request t (h.withConsulted cs) =
    (m.succeed o request t h).withConsulted cs := by
  have hsessions : (h.withConsulted cs).state.sessions = h.state.sessions := rfl
  rcases hr : m.control.register h.state.sessions o.now o.sessionId t with e | ⟨r, log⟩
  · rw [succeed_of_refused hr, succeed_of_refused (hsessions ▸ hr), fail_withConsulted]
  · rw [succeed_of_registered hr, succeed_of_registered (hsessions ▸ hr)]
    rfl

/-! ### Two decisions -/

/-- Two consultations that differ in an error only are reported alike. -/
theorem flatMap_log_eq {cs' : List Consultation}
    (h : List.Forall₂ Consultation.SameButError cs cs') :
    cs'.flatMap Consultation.log = cs.flatMap Consultation.log := by
  induction h with
  | nil => rfl
  | cons hc _ ih => rw [List.flatMap_cons, List.flatMap_cons, hc.log_eq, ih]

/-- What is known of a request once the chain was asked depends on the error of a provider in the
consultations alone. -/
theorem heard_replace (log : List LogRecord) (hp : Asked request m.providers st.realm i p)
    (hq : p.RaiseAlike q request (turnState request m.providers st.realm i) e e') :
    ∃ cs, List.Forall₂ Consultation.SameButError (m.heard request st log).consulted cs ∧
      (m.replace i p q hp.place hq.declared).heard request st log =
        (m.heard request st log).withConsulted cs := by
  obtain ⟨before, c, c', after, heq, heq', -, hsame⟩ := consult_set (n := 0) hp hq
  have hconsulted : List.Forall₂ Consultation.SameButError (m.heard request st log).consulted
      (before ++ c' :: after) := by
    show List.Forall₂ _ (consult request 0 m.providers st.realm).1 _
    rw [heq]
    exact List.rel_append (Consultation.sameButError_refl before)
      (.cons hsame (Consultation.sameButError_refl after))
  refine ⟨_, hconsulted, ?_⟩
  have hlog : (before ++ c' :: after).flatMap Consultation.log =
      (consult request 0 m.providers st.realm).1.flatMap Consultation.log :=
    flatMap_log_eq hconsulted
  have hproviders : (m.replace i p q hp.place hq.declared).providers =
      m.providers.set i q := rfl
  unfold heard
  rw [hproviders, heq', hlog]
  rfl

/-- **Errors that are discarded are unobservable.** A provider of the chain is asked and raises an
error, and somebody proves the request or fails later. Then the decision is the same whatever error
it raises in place of that one: the same result, the same event and deliveries, the same log
records, and the same state of the providers, the sessions and the receivers. The same providers are
consulted, to the same effect but for that error. -/
theorem authenticate_discarded (m : Manager σ) (o : Occasion) (request : Token) (s : State σ)
    (i : Nat) (p q : Provider σ) (e e' : AuthError) (hp : Asked request m.providers s.realm i p)
    (hq : p.RaiseAlike q request (turnState request m.providers s.realm i) e e')
    (hdiscarded : Discarded request m.providers s.realm i) :
    let d := m.authenticate o request s
    let d' := (m.replace i p q hp.place hq.declared).authenticate o request s
    d'.result = d.result ∧ d'.event = d.event ∧ d'.deliveries = d.deliveries ∧ d'.log = d.log ∧
      d'.state = d.state ∧ List.Forall₂ Consultation.SameButError d.consulted d'.consulted := by
  intro d d'
  suffices hd : ∃ cs, List.Forall₂ Consultation.SameButError d.consulted cs ∧
      d' = d.withConsulted cs by
    obtain ⟨cs, hcs, hd'⟩ := hd
    rw [hd']
    exact ⟨rfl, rfl, rfl, rfl, rfl, hcs⟩
  have hcontrol : (m.replace i p q hp.place hq.declared).control = m.control := rfl
  have hfail : ∀ e h, (m.replace i p q hp.place hq.declared).fail o request e h =
      m.fail o request e h := fun _ _ => rfl
  have hsucceed : ∀ t h, (m.replace i p q hp.place hq.declared).succeed o request t h =
      m.succeed o request t h := fun _ _ => rfl
  rcases hc : m.control.check s.sessions request with ⟨e | _, log⟩
  · have hd : d = m.fail o request e ⟨[], log ++ [.admissionDenied request.name], s⟩ :=
      authenticate_of_denied hc
    have hd' : d' = d := (authenticate_of_denied (hcontrol ▸ hc)).trans (hd ▸ hfail e _)
    exact ⟨d.consulted, Consultation.sameButError_refl _, hd'⟩
  · obtain ⟨cs, hcs, hheard⟩ := heard_replace log hp hq
    have hverdict : verdict request.kind ((m.heard request s log).withConsulted cs).consulted =
        verdict request.kind (m.heard request s log).consulted := by
      rw [← hheard]
      exact verdict_consult_set hp hq hdiscarded
    have hd : d = _ := authenticate_of_check hc
    have hd' : d' = _ := authenticate_of_check (hcontrol ▸ hc)
    rw [hheard, hverdict] at hd'
    have hconsulted : d.consulted = (m.heard request s log).consulted := consulted_of_check hc
    refine ⟨cs, hconsulted ▸ hcs, ?_⟩
    rw [hd', hd]
    cases verdict request.kind (m.heard request s log).consulted with
    | error e => exact (hfail e _).trans fail_withConsulted
    | ok t => exact (hsucceed t _).trans succeed_withConsulted

/-- A provider that finds an account locked before another one grants the request, and the same
provider with an error that it does not declare. -/
theorem authenticate_discarded_lock :
    let login : List TokenKind := [.usernamePassword]
    let locked : AuthError := ⟨.accountLocked, "User account is locked", none⟩
    let unreachable : AuthError := ⟨.providerUnavailable, "Provider unavailable",
      some (.storage "connection refused")⟩
    let remote (e : AuthError) : Provider Unit :=
      .scripted "remote" login [.accountLocked] (.fail e)
    let m : Manager Unit :=
      { providers := [remote locked, .scripted "local" login [] (.grant ["ROLE_USER"] none false)],
        complete := rfl }
    let request := Token.usernamePassword "alice" "pw"
    let o : Occasion := ⟨0, "1", ⟨0, 0, 0⟩⟩
    let s : State Unit := ⟨(), .empty, m.publisher⟩
    let d := m.authenticate o request s
    let d' := (m.replace 0 (remote locked) (remote unreachable) rfl rfl).authenticate o request s
    (∃ t, d.result = .ok t) ∧ d'.result = d.result ∧ d'.event = d.event ∧ d'.log = d.log := by
  intro login locked unreachable remote m request o s d d'
  have hasked : Asked request m.providers () 0 (remote locked) := asked_zero.2 ⟨rfl, rfl⟩
  have halike : (remote locked).RaiseAlike (remote unreachable) request () locked unreachable :=
    ⟨rfl, rfl, rfl, [], (), rfl, rfl⟩
  have hgranted : Asked request m.providers () 1
      (.scripted "local" login [] (.grant ["ROLE_USER"] none false)) :=
    asked_succ.2 ⟨halike.not_proves.1, asked_zero.2 ⟨rfl, rfl⟩⟩
  obtain ⟨hresult, hevent, -, hlog, -⟩ := m.authenticate_discarded o request s 0 (remote locked)
    (remote unreachable) locked unreachable hasked halike (.inl ⟨1, _, ⟨_, hgranted, rfl⟩, rfl⟩)
  exact ⟨⟨_, rfl⟩, hresult, hevent, hlog⟩

end Manager

end Admission
