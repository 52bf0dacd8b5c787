import Std.Data.TreeMap.Basic
import Admission.Log

/-!
# Session registry

The registry keeps the sessions of every principal in order of registration, and beside them the
principal to whom each session identifier belongs. An identifier belongs to one principal at a
time: when another one registers it, the former owner loses its records of it. One principal may
have several records of one identifier, for nothing is merged.

An expired session stays listed until it is removed. Times are ticks of a clock; only their order
matters.
-/

namespace Admission

/-- One session of a principal. -/
structure Session where
  principal : String
  id : String
  lastRequest : Nat
  expired : Bool := false
  deriving Repr, DecidableEq

/-- The sessions by principal and the owner of each session identifier. -/
structure SessionRegistry where
  sessions : Std.TreeMap String (List Session) := ∅
  owners : Std.TreeMap String String := ∅

namespace SessionRegistry

/-- The registry of a system that has just started. -/
def empty : SessionRegistry := {}

/-! ## Queries -/

/-- All records of a principal, oldest registration first. -/
def all (r : SessionRegistry) (principal : String) : List Session :=
  r.sessions.getD principal []

/-- The records of a principal that are not expired. -/
def live (r : SessionRegistry) (principal : String) : List Session :=
  (r.all principal).filter fun s => !s.expired

/-- The records of a principal, with or without expired ones. -/
def list (r : SessionRegistry) (principal : String) (includeExpired : Bool) : List Session :=
  if includeExpired then r.all principal else r.live principal

/-- How many records of a principal are not expired. -/
def activeCount (r : SessionRegistry) (principal : String) : Nat :=
  (r.live principal).length

/-- The first record of a session identifier. -/
def find? (r : SessionRegistry) (id : String) : Option Session :=
  match r.owners[id]? with
  | some owner => (r.all owner).find? fun s => s.id == id
  | none => none

/-- The principals with at least one record, in ascending order. -/
def principals (r : SessionRegistry) : List String :=
  (r.sessions.toList.filter fun (_, sessions) => !sessions.isEmpty).map Prod.fst

/-! ## Changes -/

/-- Applies a change to the records of a principal. -/
def modify (r : SessionRegistry) (principal : String) (f : List Session → List Session) :
    SessionRegistry :=
  { r with sessions := r.sessions.insert principal (f (r.all principal)) }

/-- The principal who loses a session identifier when another one registers it. -/
def formerOwner (r : SessionRegistry) (id principal : String) : Option String :=
  r.owners[id]?.filter (· != principal)

/-- Gives a session identifier to a principal. A former owner loses its records of it. -/
def assign (r : SessionRegistry) (id principal : String) : SessionRegistry :=
  let cleared :=
    match r.formerOwner id principal with
    | some former => r.modify former fun sessions => sessions.filter fun s => s.id != id
    | none => r
  { cleared with owners := cleared.owners.insert id principal }

/-- Records a new session of a principal. -/
def register (r : SessionRegistry) (now : Nat) (id principal : String) : SessionRegistry :=
  (r.modify principal fun sessions => sessions ++ [⟨principal, id, now, false⟩]).assign id principal

/-- Applies a change to every record of a session identifier. -/
def update (r : SessionRegistry) (id : String) (f : Session → Session) : SessionRegistry :=
  match r.owners[id]? with
  | some owner => r.modify owner fun sessions => sessions.map fun s => if s.id == id then f s else s
  | none => r

/-- Notes a request in a session. -/
def refresh (r : SessionRegistry) (now : Nat) (id : String) : SessionRegistry :=
  r.update id fun s => { s with lastRequest := now }

/-- Marks a session as expired. -/
def expire (r : SessionRegistry) (id : String) : SessionRegistry :=
  r.update id fun s => { s with expired := true }

/-- Forgets a session, as on logout or when its container destroys it. -/
def remove (r : SessionRegistry) (id : String) : SessionRegistry :=
  match r.owners[id]? with
  | some owner =>
    { r.modify owner fun sessions => sessions.filter fun s => s.id != id with
      owners := r.owners.erase id }
  | none => r

/-! ## Records of the changes -/

/-- What is reported when a session is registered in a state of the registry. -/
def registerLog (r : SessionRegistry) (id principal : String) : List LogRecord :=
  ((r.formerOwner id principal).map fun former => .sessionMoved id former principal).toList ++
    [.sessionRegistered principal id]

/-- What is reported when a session is removed in a state of the registry. -/
def removeLog (r : SessionRegistry) (id : String) : List LogRecord :=
  if r.owners.contains id then [.sessionRemoved id] else []

end SessionRegistry

end Admission
