import Admission.Event.Mapping
import Admission.Event.Publisher
import Admission.Provider.Basic
import Admission.Session.Control

/-!
# Decisions

The manager decides a token in this order.

1. The session control may refuse the request. Then no provider is asked.
2. The providers that support the kind of the token are asked in order (`consult`). The first
   proven token ends the search. A failure is kept and the next provider is asked; a provider that
   declines, or gives a token that is not proven, is passed over.
3. If there is a proven token, its session is registered, which may still be refused; its
   credentials are erased, unless the installation wants to keep them; and the success is announced.
4. Otherwise the last failure counts, or that no provider was found (`verdict`). Its event is
   announced. A kind of error without an event is a fault of the set-up, and nothing is announced.

A manager is made from a set-up that was found complete (`Setup.check`): there is a provider, and
every kind of error that somebody declares has an event.
-/

namespace Admission

variable {σ : Type}

/-! ## Set-up -/

/-- The parts of a manager. What is not given has a default: sessions are not controlled, events go
to the log, every failure has its standard event, and credentials are erased. -/
structure Setup (σ : Type) where
  providers : List (Provider σ) := []
  control : SessionControl := .unrestricted
  publisher : Publisher := .log true
  mappings : EventMappings := .standard
  eraseCredentials : Bool := true

namespace Setup

/-- The kinds of errors that need an event, in the order in which they are looked for. -/
def required (s : Setup σ) : List ErrorKind :=
  .providerNotFound :: s.providers.flatMap Provider.declared ++ s.control.declared

/-- Whether the set-up is complete. -/
def check (s : Setup σ) : Except ConfigError Unit :=
  if s.providers.isEmpty then .error .emptyProviderList
  else
    match s.mappings.firstUnmapped s.required with
    | some kind => .error (.missingEventMapping kind)
    | none => .ok ()

end Setup

/-- A complete set-up. -/
structure Manager (σ : Type) extends Setup σ where
  complete : toSetup.check = .ok ()

namespace Setup

/-- The manager of a set-up, if it is complete. -/
def build (s : Setup σ) : Except ConfigError (Manager σ) :=
  match h : s.check with
  | .error e => .error e
  | .ok () => .ok ⟨s, h⟩

/-- What is reported when a manager was built. -/
def buildLog (s : Setup σ) : List LogRecord :=
  [.managerConfigured s.providers.length s.eraseCredentials]

end Setup

/-! ## Chain of providers -/

/-- A provider was asked: its place in the chain, its name and what came of it. -/
structure Consultation where
  position : Nat
  provider : String
  attempt : Attempt
  deriving DecidableEq

/-- What is reported while a provider is asked. -/
def Consultation.log (c : Consultation) : List LogRecord :=
  .attempt c.provider :: Note.logRecords c.attempt.notes ++
    match c.attempt.answer with
    | .declined => []
    | .failed _ => [.providerRejected c.provider]
    | .gave t => if t.authenticated then [] else [.unprovenToken c.provider]

/-- Asks the providers that support the token, up to the first proven token. `position` is the
place of the first of them in the whole chain. -/
def consult (request : Token) : (position : Nat) → List (Provider σ) → σ → List Consultation × σ
  | _, [], s => ([], s)
  | n, p :: ps, s =>
    if p.supports request.kind then
      let (a, s) := p.attempt request s
      if a.answer.proven?.isSome then ([⟨n, p.name, a⟩], s)
      else
        let (others, s) := consult request (n + 1) ps s
        (⟨n, p.name, a⟩ :: others, s)
    else consult request (n + 1) ps s

/-- The failure of a chain in which nobody failed. -/
def noProvider (kind : TokenKind) : AuthError :=
  ⟨.providerNotFound, "No authentication provider found for " ++ kind.display, none⟩

/-- What the consultations amount to: the proven token, else the last error, else that no provider
was found. -/
def verdict (kind : TokenKind) (consulted : List Consultation) : Except AuthError Token :=
  match consulted.findSome? fun c => c.attempt.answer.proven? with
  | some t => .ok t
  | none =>
    .error (((consulted.filterMap fun c => c.attempt.answer.error?).getLast?).getD
      (noProvider kind))

/-! ## Decisions -/

/-- What a decision reads and changes: the state of the providers, the sessions, and the receivers
of events. -/
structure State (σ : Type) where
  realm : σ
  sessions : SessionRegistry
  publisher : Publisher

/-- What the surroundings supply to one decision: the time, an identifier for a session that the
request does not name, and the stamp of the event. -/
structure Occasion where
  now : Nat
  sessionId : String
  stamp : Stamp
  deriving Repr, DecidableEq

/-- A decision: its result, who was asked, the event announced and what became of it, the records
written in order, and the state afterwards. -/
structure Decision (σ : Type) where
  result : Except ManagerError Token
  consulted : List Consultation
  event : Option Event
  deliveries : List Delivery
  log : List LogRecord
  state : State σ

/-- A decision in the making. -/
structure Hearing (σ : Type) where
  consulted : List Consultation
  log : List LogRecord
  state : State σ

namespace Hearing

/-- Ends with a result that is announced by an event. -/
def announce (h : Hearing σ) (event : Event) (result : Except ManagerError Token) : Decision σ :=
  let (publisher, deliveries) := h.state.publisher.publish event
  { result := result
    consulted := h.consulted
    event := some event
    deliveries := deliveries
    log := h.log ++ Delivery.logRecords deliveries
    state := { h.state with publisher := publisher } }

/-- Ends with an error that has no event. -/
def abort (h : Hearing σ) (error : AuthError) : Decision σ where
  result := .error (.configuration (.missingEventMapping error.kind))
  consulted := h.consulted
  event := none
  deliveries := []
  log := h.log ++ [.noEventMapping error.kind error.message]
  state := h.state

end Hearing

namespace Manager

/-- Ends a hearing with a failure. -/
def fail (m : Manager σ) (o : Occasion) (request : Token) (error : AuthError) (h : Hearing σ) :
    Decision σ :=
  match m.mappings.event? o.stamp request error with
  | some event => h.announce event (.error (.authentication error))
  | none => h.abort error

/-- The token handed out for a proven one. -/
def handedOut (m : Manager σ) (proven : Token) : Token :=
  if m.eraseCredentials then proven.withoutCredentials else proven

/-- Ends a hearing with a proven token, if its session can be registered. -/
def succeed (m : Manager σ) (o : Occasion) (request proven : Token) (h : Hearing σ) :
    Decision σ :=
  match m.control.register h.state.sessions o.now o.sessionId proven with
  | .error e => m.fail o request e h
  | .ok (sessions, log) =>
    let token := m.handedOut proven
    { h with log := h.log ++ log, state := { h.state with sessions := sessions } }.announce
      (.success o.stamp token) (.ok token)

/-- Decides a token. -/
def authenticate (m : Manager σ) (o : Occasion) (request : Token) (s : State σ) : Decision σ :=
  match m.control.check s.sessions request with
  | (.error e, log) => m.fail o request e ⟨[], log ++ [.admissionDenied request.name], s⟩
  | (.ok (), log) =>
    let (consulted, realm) := consult request 0 m.providers s.realm
    let h : Hearing σ :=
      ⟨consulted, log ++ consulted.flatMap Consultation.log, { s with realm := realm }⟩
    match verdict request.kind consulted with
    | .error e => m.fail o request e h
    | .ok proven => m.succeed o request proven h

end Manager

end Admission
