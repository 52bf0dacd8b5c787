import Admission.Event.Basic

/-!
# Events for failures

A table says which event a failed decision is announced by, for each kind of error. A kind without
an entry cannot be announced. The standard table has an entry for every kind (`standard`).
-/

namespace Admission

/-- Makes the event for a failed request. -/
abbrev EventFactory := Stamp → Token → AuthError → Event

/-- Makes failure events of one kind. -/
def EventFactory.ofKind (kind : EventKind) : EventFactory :=
  fun stamp request error => Event.failure stamp kind request error

/-- Makes the standard event for a kind of error. -/
def EventFactory.standard (kind : ErrorKind) : EventFactory :=
  .ofKind (.failureFor kind)

/-- The events by kind of error. -/
structure EventMappings where
  entry : ErrorKind → Option EventFactory

namespace EventMappings

/-- No entry at all. -/
def empty : EventMappings :=
  ⟨fun _ => none⟩

/-- The standard event for every kind. -/
def standard : EventMappings :=
  ⟨fun kind => some (.standard kind)⟩

def contains (m : EventMappings) (kind : ErrorKind) : Bool :=
  (m.entry kind).isSome

/-- Sets the entry of a kind. -/
def insert (m : EventMappings) (kind : ErrorKind) (factory : EventFactory) : EventMappings :=
  ⟨fun k => if k = kind then some factory else m.entry k⟩

/-- Sets the entry of a kind to the standard event. -/
def insertStandard (m : EventMappings) (kind : ErrorKind) : EventMappings :=
  m.insert kind (.standard kind)

/-- Takes the entry of a kind away. -/
def erase (m : EventMappings) (kind : ErrorKind) : EventMappings :=
  ⟨fun k => if k = kind then none else m.entry k⟩

/-- The kinds with an entry, in order. -/
def kinds (m : EventMappings) : List ErrorKind :=
  ErrorKind.all.filter m.contains

/-- The first of the required kinds that has no entry. -/
def firstUnmapped (m : EventMappings) (required : List ErrorKind) : Option ErrorKind :=
  required.find? fun kind => !m.contains kind

/-- The event for a failed request, if its kind of error has an entry. -/
def event? (m : EventMappings) (stamp : Stamp) (request : Token) (error : AuthError) :
    Option Event :=
  (m.entry error.kind).map fun factory => factory stamp request error

/-- The table as a line of text. -/
def display (m : EventMappings) : String :=
  "ExceptionMappings \x7b kinds: [" ++ ", ".intercalate (m.kinds.map ErrorKind.name) ++ "] \x7d"

end EventMappings

end Admission
