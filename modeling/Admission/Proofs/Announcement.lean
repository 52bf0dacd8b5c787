import Admission.Proofs.Chain
import Admission.Proofs.Session.Room
import Admission.Provider.Scripted

/-!
# One event for each outcome

Every decision ends in a granted token or in one error (`Manager.EndsIn`): that of the session
control, of the chain, or of the registration of a token that was already proven. Only an error
without an event in the table is not announced; anything else is announced once
(`Manager.authenticate_announces`).

Both endings hand the event to the receivers by `Hearing.announce`, and what precedes it differs in
one point: before a token is announced its session is registered (`SessionRegistry.Adds`), while an
error leaves the sessions as they were, also where it comes late.
-/

namespace Admission

variable {σ : Type}

/-! ## Receivers -/

/-- The receivers after an event was handed to them, if there is one, and what they did with it. -/
def Publisher.announced (p : Publisher) : Option Event → Publisher × List Delivery
  | some e => p.publish e
  | none => (p, [])

/-! ## Registration -/

/-- A registry has one record more, at the end of those of its principal. The records before it are
as they were but for marks of expiry, and nobody else has a new one. -/
structure SessionRegistry.Adds (r r' : SessionRegistry) (record : Session) : Prop where
  last : ∃ l, r'.all record.principal = l ++ [record] ∧
    l.map (fun s => { s with expired := true }) =
      (r.all record.principal).map fun s => { s with expired := true }
  others : ∀ q, q ≠ record.principal → (r'.all q).Sublist (r.all q)
  owner : r'.owners[record.id]? = some record.principal

namespace SessionControl

variable {limit : SessionLimit} {valid : limit.validate = .ok ()} {r r' : SessionRegistry}
  {now : Nat} {fresh : String} {proven : Token} {log : List LogRecord}

/-- A registration under a limit adds a live record of the session. -/
theorem adds_of_register (h : register (.limited limit valid) r now fresh proven = .ok (r', log)) :
    r.Adds r' ⟨proven.name, proven.sessionId?.getD fresh, now, false⟩ := by
  obtain ⟨l, ids, hroom, rfl⟩ := register_eq_ok h
  have hall : ∀ q, (r.modify proven.name fun _ => l).all q =
      if proven.name = q then l else r.all q := fun _ => SessionRegistry.all_modify _
  refine ⟨⟨l, ?_, map_makeRoom (fun _ => rfl) hroom⟩, fun q hq => ?_, ?_⟩
  · rw [SessionRegistry.all_register, if_pos rfl, hall, if_pos rfl]
  · have hne : proven.name ≠ q := Ne.symm hq
    rw [SessionRegistry.all_register, if_neg hne, hall, if_neg hne]
    split
    · exact List.filter_sublist
    · exact List.Sublist.refl _
  · rw [SessionRegistry.owners_register, if_pos rfl]

/-- A registration under a limit is reported. -/
theorem sessionRegistered_mem_of_register
    (h : register (.limited limit valid) r now fresh proven = .ok (r', log)) :
    .sessionRegistered proven.name (proven.sessionId?.getD fresh) ∈ log := by
  simp only [register] at h
  split at h
  · cases h
  · cases h
    simp [SessionRegistry.registerLog]

end SessionControl

/-! ## Endings -/

namespace Manager

variable {m : Manager σ} {o : Occasion} {request t : Token} {s : State σ} {h : Hearing σ}
  {e : AuthError} {factory : EventFactory}

/-- The error in which a request ends. -/
inductive EndsIn (m : Manager σ) (o : Occasion) (request : Token) (s : State σ) : AuthError → Prop
  /-- The session control denies the request. -/
  | denied {e : AuthError} {log : List LogRecord}
    (check : m.control.check s.sessions request = (.error e, log)) : EndsIn m o request s e
  /-- Nobody proves the request. -/
  | failed {e : AuthError} {log : List LogRecord}
    (check : m.control.check s.sessions request = (.ok (), log))
    (verdict : verdict request.kind (consult request 0 m.providers s.realm).1 = .error e) :
    EndsIn m o request s e
  /-- The session of the proven token is refused. -/
  | refused {t : Token} {e : AuthError} {log : List LogRecord}
    (check : m.control.check s.sessions request = (.ok (), log))
    (verdict : verdict request.kind (consult request 0 m.providers s.realm).1 = .ok t)
    (register : m.control.register s.sessions o.now o.sessionId t = .error e) :
    EndsIn m o request s e

/-- The proven token of a request is granted: its session is registered. -/
def Grants (m : Manager σ) (o : Occasion) (s : State σ) (t : Token) (h : Hearing σ) : Prop :=
  ∃ log registered, h.log = log ++ registered ∧
    m.control.register s.sessions o.now o.sessionId t = .ok (h.state.sessions, registered)

@[simp] theorem name_handedOut : (m.handedOut t).name = t.name := by
  unfold handedOut
  split <;> rfl

@[simp] theorem sessionId?_handedOut : (m.handedOut t).sessionId? = t.sessionId? := by
  unfold handedOut
  split <;> rfl

/-- Where credentials are erased none are handed out. -/
theorem credentials_handedOut (he : m.eraseCredentials = true) :
    (m.handedOut t).credentials = .absent := by
  rw [handedOut, if_pos he]
  rfl

/-- When a token is announced, its session is recorded if sessions are. -/
theorem Grants.recorded (hg : m.Grants o s t h) :
    match m.control with
    | .unrestricted => h.state.sessions = s.sessions
    | .limited .. =>
      s.sessions.Adds h.state.sessions ⟨t.name, t.sessionId?.getD o.sessionId, o.now, false⟩ ∧
        .sessionRegistered t.name (t.sessionId?.getD o.sessionId) ∈ h.log := by
  obtain ⟨log, registered, hlog, hregister⟩ := hg
  cases hc : m.control with
  | unrestricted =>
    rw [hc] at hregister
    exact (congrArg Prod.fst (Except.ok.inj hregister)).symm
  | limited limit valid =>
    rw [hc] at hregister
    have hmem := SessionControl.sessionRegistered_mem_of_register hregister
    exact ⟨SessionControl.adds_of_register hregister, hlog ▸ List.mem_append_right _ hmem⟩

/-- An error with an event in the table is announced by it. -/
theorem fail_of_entry (hf : m.mappings.entry e.kind = some factory) :
    m.fail o request e h =
      h.announce (factory o.stamp request e) (.error (.authentication e)) := by
  rw [fail, EventMappings.event?, hf]
  rfl

/-- An error without an event ends the decision unannounced. -/
theorem fail_of_no_entry (hf : m.mappings.entry e.kind = none) :
    m.fail o request e h = h.abort e := by
  rw [fail, EventMappings.event?, hf]
  rfl

/-- How a decision ends, from a hearing in which the receivers are still as they were. -/
inductive Ending (m : Manager σ) (o : Occasion) (request : Token) (s : State σ)
    (d : Decision σ) : Prop
  /-- An error is announced by its event. -/
  | announced (e : AuthError) (factory : EventFactory) (h : Hearing σ)
    (ends : m.EndsIn o request s e) (entry : m.mappings.entry e.kind = some factory)
    (publisher : h.state.publisher = s.publisher)
    (eq : d = h.announce (factory o.stamp request e) (.error (.authentication e)))
  /-- An error has no event. -/
  | unannounced (e : AuthError) (h : Hearing σ) (ends : m.EndsIn o request s e)
    (entry : m.mappings.entry e.kind = none) (publisher : h.state.publisher = s.publisher)
    (eq : d = h.abort e)
  /-- A token is granted, and announced after its session was registered. -/
  | granted (t : Token) (h : Hearing σ) (grants : m.Grants o s t h)
    (publisher : h.state.publisher = s.publisher)
    (eq : d = h.announce (.success o.stamp (m.handedOut t)) (.ok (m.handedOut t)))

/-- A hearing that fails ends in its error, announced or not. -/
theorem ending_fail (ends : m.EndsIn o request s e)
    (publisher : h.state.publisher = s.publisher) :
    Ending m o request s (m.fail o request e h) := by
  cases hf : m.mappings.entry e.kind with
  | some factory => exact .announced e factory h ends hf publisher (fail_of_entry hf)
  | none => exact .unannounced e h ends hf publisher (fail_of_no_entry hf)

/-- A decision has one of the three endings. -/
theorem ending (m : Manager σ) (o : Occasion) (request : Token) (s : State σ) :
    Ending m o request s (m.authenticate o request s) := by
  cases m.outcome o request s with
  | denied e log check eq => exact eq ▸ ending_fail (.denied check) rfl
  | failed e log check verdict eq => exact eq ▸ ending_fail (.failed check verdict) rfl
  | refused t e log check verdict register eq =>
    exact eq ▸ ending_fail (.refused check verdict register) rfl
  | granted t r log registered check verdict register eq =>
    exact .granted t _ ⟨_, registered, rfl, register⟩ rfl eq

namespace Ending

variable {d : Decision σ}

/-- The receivers are handed the event of the decision, if it has one, and nothing else. -/
theorem publisher_eq (hd : Ending m o request s d) :
    (d.state.publisher, d.deliveries) = s.publisher.announced d.event := by
  cases hd with
  | announced e factory h ends entry publisher eq => rw [eq, ← publisher]; rfl
  | unannounced e h ends entry publisher eq => rw [eq, ← publisher]; rfl
  | granted t h grants publisher eq => rw [eq, ← publisher]; rfl

/-- What the receivers did is what they do with the event. -/
theorem deliveries_eq (hd : Ending m o request s d) :
    d.deliveries = (s.publisher.announced d.event).2 :=
  congrArg Prod.snd hd.publisher_eq

/-- A decision that gives a token has announced that token, with its session recorded. -/
theorem of_ok (hd : Ending m o request s d) (ht : d.result = .ok t) :
    ∃ h : Hearing σ, d = h.announce (.success o.stamp t) (.ok t) ∧
      (m.eraseCredentials = true → t.credentials = .absent) ∧
      match m.control with
      | .unrestricted => h.state.sessions = s.sessions
      | .limited .. =>
        s.sessions.Adds h.state.sessions ⟨t.name, t.sessionId?.getD o.sessionId, o.now, false⟩ ∧
          .sessionRegistered t.name (t.sessionId?.getD o.sessionId) ∈ h.log := by
  cases hd with
  | announced e factory h ends entry publisher eq => rw [eq] at ht; cases ht
  | unannounced e h ends entry publisher eq => rw [eq] at ht; cases ht
  | granted t' h grants publisher eq =>
    have htoken : m.handedOut t' = t := by rw [eq] at ht; exact Except.ok.inj ht
    rw [← htoken, name_handedOut, sessionId?_handedOut]
    exact ⟨h, eq, credentials_handedOut, grants.recorded⟩

/-- A decision that reports an error has announced it as the table says. -/
theorem of_authentication (hd : Ending m o request s d)
    (he : d.result = .error (.authentication e)) : m.EndsIn o request s e ∧
      ∃ factory, m.mappings.entry e.kind = some factory ∧
        d.event = some (factory o.stamp request e) := by
  cases hd with
  | announced e' factory h ends entry publisher eq =>
    subst eq
    cases he
    exact ⟨ends, factory, entry, rfl⟩
  | unannounced e' h ends entry publisher eq => rw [eq] at he; cases he
  | granted t h grants publisher eq => rw [eq] at he; cases he

/-- A decision that reports a gap in the table has announced nothing. -/
theorem of_configuration {c : ConfigError} (hd : Ending m o request s d)
    (hc : d.result = .error (.configuration c)) : d.event = none ∧
      ∃ e, m.EndsIn o request s e ∧ m.mappings.entry e.kind = none ∧
        c = .missingEventMapping e.kind := by
  cases hd with
  | announced e factory h ends entry publisher eq => rw [eq] at hc; cases hc
  | unannounced e h ends entry publisher eq =>
    subst eq
    cases hc
    exact ⟨rfl, e, ends, entry, rfl⟩
  | granted t h grants publisher eq => rw [eq] at hc; cases hc

end Ending

/-- **One outcome, one event, and failures leave the sessions alone.**

The receivers are handed the event of the decision, if it has one, and nothing else. A decision that
gives a token announces a success with that very token; under a limit its session was recorded, and
reported, before that. A decision that fails announces the event that the table makes of the
request and the error in which it ends; if the table has none, nothing is announced, and the gap
that is reported is at the kind of that error. Whatever the error, the sessions are as before. -/
theorem authenticate_announces (m : Manager σ) (o : Occasion) (request : Token) (s : State σ) :
    let d := m.authenticate o request s
    (d.state.publisher, d.deliveries) = s.publisher.announced d.event ∧
    (∀ t, d.result = .ok t → ∃ (event : Event) (h : Hearing σ),
      d.event = some event ∧ event.kind = .success ∧ event.error = none ∧ event.token = t ∧
      (m.eraseCredentials = true → t.credentials = .absent) ∧
      d = h.announce event (.ok t) ∧
      match m.control with
      | .unrestricted => h.state.sessions = s.sessions
      | .limited .. =>
        s.sessions.Adds h.state.sessions ⟨t.name, t.sessionId?.getD o.sessionId, o.now, false⟩ ∧
          .sessionRegistered t.name (t.sessionId?.getD o.sessionId) ∈ h.log) ∧
    (∀ e, d.result = .error (.authentication e) → m.EndsIn o request s e ∧
      ∃ factory, m.mappings.entry e.kind = some factory ∧
        d.event = some (factory o.stamp request e)) ∧
    (∀ c, d.result = .error (.configuration c) → d.event = none ∧
      ∃ e, m.EndsIn o request s e ∧ m.mappings.entry e.kind = none ∧
        c = .missingEventMapping e.kind) ∧
    ∀ e, d.result = .error e → d.state.sessions = s.sessions := by
  intro d
  have hd : Ending m o request s d := m.ending o request s
  refine ⟨hd.publisher_eq, ?_, fun e he => hd.of_authentication he,
    fun c hc => hd.of_configuration hc, fun e he => sessions_of_error he⟩
  intro t ht
  obtain ⟨h, heq, herased, hrecorded⟩ := hd.of_ok ht
  exact ⟨_, h, by rw [heq]; rfl, rfl, rfl, rfl, herased, heq, hrecorded⟩

/-- A login under a limit, and one that fails with an error of a kind that nobody declared and that
has no event. -/
theorem authenticate_announces_two_logins :
    let login : List TokenKind := [.usernamePassword]
    let untrusted : AuthError := ⟨.proxyUntrusted, "Proxy not trusted", none⟩
    let granting : Manager Unit :=
      { providers := [.scripted "local" login [] (.grant ["ROLE_USER"] none false)],
        control := .limited ⟨some 1, true⟩ rfl, complete := rfl }
    let failing : Manager Unit :=
      { providers := [.scripted "remote" login [] (.fail untrusted)],
        mappings := .erase .standard .proxyUntrusted, complete := rfl }
    let request := (Token.usernamePassword "alice" "pw").withDetails { sessionId := some "a" }
    let granted : Token :=
      { request with
        credentials := .absent, authorities := .ofList ["ROLE_USER"], authenticated := true }
    let o : Occasion := ⟨1, "2", ⟨0, 0, 0⟩⟩
    let s : State Unit := ⟨(), .empty, .store 0 {}⟩
    let d := granting.authenticate o request s
    let d' := failing.authenticate o request s
    (d.result = .ok granted ∧ ∃ event h, d.event = some event ∧ event.token = granted ∧
      d = Hearing.announce h event (.ok granted) ∧
      SessionRegistry.empty.Adds h.state.sessions ⟨"alice", "a", 1, false⟩) ∧
    (d'.result = .error (.configuration (.missingEventMapping .proxyUntrusted)) ∧
      d'.event = none ∧ d'.state.sessions = .empty) := by
  intro login untrusted granting failing request granted o s d d'
  have hresult : d.result = .ok granted := rfl
  have hresult' : d'.result = .error (.configuration (.missingEventMapping .proxyUntrusted)) := rfl
  obtain ⟨-, hgranted, -⟩ := granting.authenticate_announces o request s
  obtain ⟨-, -, -, hgap, hsessions⟩ := failing.authenticate_announces o request s
  obtain ⟨event, h, hevent, -, -, htoken, -, hd, hadds, -⟩ := hgranted granted hresult
  exact ⟨⟨hresult, event, h, hevent, htoken, hd, hadds⟩,
    hresult', (hgap _ hresult').1, hsessions _ hresult'⟩

end Manager

end Admission
