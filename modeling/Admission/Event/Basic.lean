import Admission.Event.Kind
import Admission.Text.Hex
import Admission.Token.Basic

/-!
# Events

An event is the record of one decision: what it announces, the token in question, the error if it
failed, and when and under which identifier it was made. It is written as a line for a log and as a
JSON object for machines. Neither shows the credentials.
-/

namespace Admission

/-- When an event is made, by two readings of the clock, and the random part of its identifier. -/
structure Stamp where
  millis : Nat
  micros : Nat
  random : UInt32
  deriving Repr, DecidableEq

/-- The identifier: the time in microseconds and eight random digits, both hexadecimal. -/
def Stamp.id (s : Stamp) : String :=
  String.ofList (Text.hex s.micros ++ '-' :: Text.hexPadded 8 s.random.toNat)

/-- The record of one decision. -/
structure Event where
  id : String
  timestamp : Nat
  kind : EventKind
  token : Token
  error : Option AuthError
  deriving DecidableEq

namespace Event

/-- The record of a success, with the proven token. -/
def success (stamp : Stamp) (token : Token) : Event :=
  ⟨stamp.id, stamp.millis, .success, token, none⟩

/-- The record of a failure, with the token of the request. -/
def failure (stamp : Stamp) (kind : EventKind) (request : Token) (error : AuthError) : Event :=
  ⟨stamp.id, stamp.millis, kind, request, some error⟩

/-- Whether the event records an error. -/
def isFailure (e : Event) : Bool :=
  e.error.isSome

/-- The event as a line of a log. The values are written as they are. -/
def logLine (e : Event) : String :=
  " ".intercalate <|
    ["[" ++ e.kind.display ++ "]", "principal=" ++ e.token.name,
      "token=" ++ e.token.kind.display] ++
    (e.token.remoteAddress?.map ("ip=" ++ ·)).toList ++
    (e.error.map fun err => "error=\"" ++ err.message ++ "\"").toList

/-- The event as data. -/
def toJson (e : Event) : Json.Value :=
  .ofMembers [
    ("id", .text e.id),
    ("timestamp", .natural e.timestamp),
    ("event_type", .text e.kind.display),
    ("principal", .text e.token.name),
    ("token_kind", .text e.token.kind.display),
    ("authenticated", .bool e.token.authenticated),
    ("authorities", .array (e.token.authorities.toList.map .text)),
    ("remote_address", .text? e.token.remoteAddress?),
    ("error_kind", .text? (e.error.map fun err => err.kind.name)),
    ("error", .text? (e.error.map AuthError.message))]

/-- The event as the text of a JSON object. -/
def json (e : Event) : String :=
  e.toJson.compact

end Event

end Admission
