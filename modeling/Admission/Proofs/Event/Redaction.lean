import Admission.Event.Mapping
import Admission.Event.Publisher
import Admission.Proofs.Provider.Secrets

/-!
# What events show

An event holds the token of a decision with its credentials, but what it shows depends on its
redaction alone (`Event.redacted`): the line for a log, the record that a log writer makes of it,
and, up to identifier and time, the JSON text. Whatever the tree of receivers, the records written
for two events with one redaction are the same (`Publisher.logRecords_publish_congr`).

The events of failures are made by the factories of a table, which may come from outside. A factory
is discreet (`EventFactory.Discreet`) if it makes events with one redaction of requests that differ
in their secret alone, as the factories of events of one kind do. So the standard table is discreet
at every kind of error, and a changed one wherever no other factory was put in.
-/

namespace Admission

/-! ## Redaction -/

namespace Event

/-- What there is to an event besides the credentials, the identifier and the time. -/
def redacted (e : Event) : Event :=
  { e with id := "", timestamp := 0, token := e.token.withoutCredentials }

/-- The log line shows no credentials. -/
theorem logLine_redacted (e : Event) : e.redacted.logLine = e.logLine := rfl

/-- Nor does the JSON text, given the identifier and the time. -/
theorem json_redacted (id : String) (timestamp : Nat) (e : Event) :
    ({ e.redacted with id := id, timestamp := timestamp } : Event).json =
      ({ e with id := id, timestamp := timestamp } : Event).json := rfl

/-- Nor does the record of a log writer. -/
theorem logRecord?_redacted (successes : Bool) (e : Event) :
    e.redacted.logRecord? successes = e.logRecord? successes := rfl

/-- What depends on the redaction alone is the same for events with one redaction. -/
theorem map_congr {β : Type} {f : Event → β} (hf : ∀ e : Event, f e.redacted = f e)
    {x y : Option Event} (h : x.map redacted = y.map redacted) : x.map f = y.map f := by
  have hmap : ∀ z : Option Event, z.map f = (z.map redacted).map f := by
    intro z
    rw [Option.map_map]
    exact Option.map_congr fun e _ => (hf e).symm
  rw [hmap x, h, ← hmap y]

end Event

/-! ## Receivers -/

/-- The records among deliveries are in the order of the deliveries. -/
theorem Delivery.logRecords_append (ds ds' : List Delivery) :
    logRecords (ds ++ ds') = logRecords ds ++ logRecords ds' :=
  List.filterMap_append

namespace Publisher

variable {e₁ e₂ : Event}

mutual

/-- The records written for an event depend on its redaction alone. -/
theorem logRecords_publish_redacted (e : Event) (p : Publisher) :
    Delivery.logRecords (p.publish e.redacted).2 = Delivery.logRecords (p.publish e).2 := by
  cases p with
  | store | listener => rfl
  | log successes => simp only [publish, Event.logRecord?_redacted]
  | multicast enabled branches =>
    cases enabled with
    | false => rfl
    | true => exact logRecords_publishAll_redacted e branches

/-- The same over several trees. -/
theorem logRecords_publishAll_redacted (e : Event) (ps : List Publisher) :
    Delivery.logRecords (publishAll e.redacted ps).2 =
      Delivery.logRecords (publishAll e ps).2 := by
  cases ps with
  | nil => rfl
  | cons p ps =>
    simp only [publishAll, Delivery.logRecords_append, logRecords_publish_redacted e p,
      logRecords_publishAll_redacted e ps]

end

/-- The records written for events with one redaction are the same. -/
theorem logRecords_publish_congr (p : Publisher) (h : e₁.redacted = e₂.redacted) :
    Delivery.logRecords (p.publish e₁).2 = Delivery.logRecords (p.publish e₂).2 := by
  rw [← logRecords_publish_redacted e₁, h, logRecords_publish_redacted e₂]

end Publisher

/-! ## Factories -/

/-- A factory makes events with one redaction of requests that differ in their secret alone,
whenever it makes them. It is handed the request with its secret, and nothing else keeps a factory
from outside from showing it. -/
def EventFactory.Discreet (factory : EventFactory) : Prop :=
  ∀ stamp₁ stamp₂ a b error, Token.SameButSecret a b →
    (factory stamp₁ a error).redacted = (factory stamp₂ b error).redacted

/-- The failure events of one kind, whichever kind it is, show nothing of a secret. -/
theorem EventFactory.discreet_ofKind (kind : EventKind) : Discreet (ofKind kind) := by
  intro stamp₁ stamp₂ a b error hab
  simp only [ofKind, Event.failure, Event.redacted, hab.rest]

/-- The factory of a table for a kind of error, if there is one, is discreet. -/
def EventMappings.DiscreetAt (m : EventMappings) (kind : ErrorKind) : Prop :=
  ∀ factory, m.entry kind = some factory → EventFactory.Discreet factory

namespace EventMappings

variable {m : EventMappings} {kind k : ErrorKind}

/-- The standard table is discreet at every kind. -/
theorem discreetAt_standard : standard.DiscreetAt kind := by
  rintro _ ⟨⟩
  exact EventFactory.discreet_ofKind _

/-- An entry that is set may be anything at other kinds, and must be discreet at its own. -/
theorem DiscreetAt.insert {factory : EventFactory} (h : m.DiscreetAt k)
    (hf : k = kind → EventFactory.Discreet factory) : (m.insert kind factory).DiscreetAt k := by
  intro g hg
  simp only [EventMappings.insert] at hg
  split at hg
  · next hk =>
    cases hg
    exact hf hk
  · exact h g hg

/-- Without an entry nothing is shown. -/
theorem DiscreetAt.erase (h : m.DiscreetAt k) : (m.erase kind).DiscreetAt k := by
  intro g hg
  simp only [EventMappings.erase] at hg
  split at hg
  · cases hg
  · exact h g hg

end EventMappings

end Admission
