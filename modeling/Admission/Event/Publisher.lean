import Admission.Event.Basic
import Admission.Log

/-!
# Publishing events

Events go to a tree of receivers: stores that remember the latest events up to a bound, listeners
outside the library, log writers, and multicasters that pass an event on to their branches in order
unless they are switched off. Publishing changes the stores and yields what was delivered, in order
of delivery.
-/

namespace Admission

/-! ## Event stores -/

/-- The latest events, oldest first, of which at most `bound` are kept. -/
structure EventStore where
  bound : Nat := 10000
  events : List Event := []
  deriving DecidableEq

namespace EventStore

/-- Remembers an event and forgets the oldest ones beyond the bound. -/
def push (s : EventStore) (e : Event) : EventStore :=
  let events := s.events ++ [e]
  { s with events := events.drop (events.length - s.bound) }

def clear (s : EventStore) : EventStore :=
  { s with events := [] }

/-- The remembered events of a kind. -/
def ofKind (s : EventStore) (kind : EventKind) : List Event :=
  s.events.filter fun e => e.kind == kind

/-- The remembered events of a principal. -/
def ofPrincipal (s : EventStore) (name : String) : List Event :=
  s.events.filter fun e => e.token.name == name

end EventStore

/-! ## Receivers -/

/-- What a receiver did with an event. -/
inductive Delivery
  /-- A store remembered it. -/
  | stored (store : Nat) (event : Event)
  /-- A listener outside the library was called. -/
  | heard (listener : Nat) (event : Event)
  /-- A log writer wrote a record. -/
  | logged (record : LogRecord)
  deriving DecidableEq

/-- The record that a log writer makes of an event. -/
def Event.logRecord? (logSuccesses : Bool) (e : Event) : Option LogRecord :=
  match e.error with
  | some error => some (.loginFailed e.kind e.token.name error.message)
  | none => if logSuccesses then some (.loginSucceeded e.kind e.token.name) else none

/-- A tree of receivers. Stores and listeners are told apart by number. -/
inductive Publisher
  | store (number : Nat) (store : EventStore)
  | listener (number : Nat)
  | log (successes : Bool)
  | multicast (enabled : Bool) (branches : List Publisher)

namespace Publisher

mutual

/-- Hands an event to a tree. -/
def publish (e : Event) : Publisher → Publisher × List Delivery
  | .store n s => (.store n (s.push e), [.stored n e])
  | .listener n => (.listener n, [.heard n e])
  | .log successes => (.log successes, ((e.logRecord? successes).map .logged).toList)
  | .multicast true branches =>
    let (branches, deliveries) := publishAll e branches
    (.multicast true branches, deliveries)
  | .multicast false branches => (.multicast false branches, [])

/-- Hands an event to one tree after the other. -/
def publishAll (e : Event) : List Publisher → List Publisher × List Delivery
  | [] => ([], [])
  | p :: ps =>
    let (p, first) := publish e p
    let (ps, others) := publishAll e ps
    (p :: ps, first ++ others)

end

mutual

/-- The stores of a tree with their numbers, depth first. -/
def stores : Publisher → List (Nat × EventStore)
  | .store n s => [(n, s)]
  | .listener _ | .log _ => []
  | .multicast _ branches => storesAll branches

/-- The stores of several trees. -/
def storesAll : List Publisher → List (Nat × EventStore)
  | [] => []
  | p :: ps => stores p ++ storesAll ps

end

mutual

/-- Empties the stores with a number. -/
def clearStore (number : Nat) : Publisher → Publisher
  | .store n s => .store n (if n = number then s.clear else s)
  | .listener n => .listener n
  | .log successes => .log successes
  | .multicast enabled branches => .multicast enabled (clearStores number branches)

/-- Empties the stores with a number in several trees. -/
def clearStores (number : Nat) : List Publisher → List Publisher
  | [] => []
  | p :: ps => clearStore number p :: clearStores number ps

end

/-- The store with a number. -/
def store? (p : Publisher) (number : Nat) : Option EventStore :=
  p.stores.lookup number

end Publisher

/-- The log records among deliveries. -/
def Delivery.logRecords (ds : List Delivery) : List LogRecord :=
  ds.filterMap fun
    | .logged record => some record
    | _ => none

end Admission
