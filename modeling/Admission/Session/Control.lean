import Admission.Session.Limit
import Admission.Session.Registry
import Admission.Token.Basic

/-!
# Session control

Before anybody is asked, the session control says whether a principal may open another session
(`check`); after a success it records the session (`register`), and there decides again, for the
state may have changed in between. A request from a session that the principal already has is
always admitted. Where one more session is too many, either it is refused or the least recently used
ones expire until there is room.

The identifier of a session is the one that the request names, or a fresh one.
-/

namespace Admission

/-- Whether sessions are controlled, and by what limit. -/
inductive SessionControl
  /-- Everybody is admitted and nothing is recorded. -/
  | unrestricted
  /-- Sessions are recorded and limited. -/
  | limited (limit : SessionLimit) (valid : limit.validate = .ok ())
  deriving DecidableEq

namespace SessionControl

/-- The control by a limit, which must be valid. -/
def ofLimit (limit : SessionLimit) : Except ConfigError SessionControl :=
  match h : limit.validate with
  | .error e => .error e
  | .ok () => .ok (.limited limit h)

/-- The errors that the control may raise. -/
def declared : SessionControl → List ErrorKind
  | unrestricted => []
  | limited .. => [.concurrentLoginLimitExceeded]

/-- The refusal of one session too many. -/
def limitExceeded (maximum : Nat) : AuthError :=
  ⟨.concurrentLoginLimitExceeded,
    "Maximum sessions of " ++ toString maximum ++ " for this principal exceeded", none⟩

/-! ## Admission -/

/-- Whether a principal has a live session with an identifier. -/
def owns (sessions : List Session) (id : String) : Bool :=
  sessions.any fun s => !s.expired && s.id == id

/-- Whether a request may go on to the providers. -/
def check (c : SessionControl) (r : SessionRegistry) (request : Token) :
    Except AuthError Unit × List LogRecord :=
  match c with
  | unrestricted => (.ok (), [])
  | limited ⟨none, _⟩ _ => (.ok (), [])
  | limited ⟨some maximum, rejectNew⟩ _ =>
    let live := r.live request.name
    if (request.sessionId?.map (owns live)).getD false then (.ok (), [])
    else if live.length < maximum.toNat || !rejectNew then (.ok (), [])
    else
      (.error (limitExceeded maximum.toNat), [.sessionLimitReached request.name maximum.toNat])

/-! ## Registration -/

/-- The time of the oldest last request among the live sessions. -/
def oldest? (sessions : List Session) : Option Nat :=
  ((sessions.filter fun s => !s.expired).map Session.lastRequest).min?

/-- Whether a session is live and had its last request at a time. -/
def isLiveAt (time : Nat) (s : Session) : Bool :=
  !s.expired && s.lastRequest == time

/-- Expires the first live session whose last request was at a time. -/
def expireFirst (time : Nat) : List Session → List Session
  | [] => []
  | s :: rest =>
    if isLiveAt time s then { s with expired := true } :: rest else s :: expireFirst time rest

/-- Expires the least recently used live session, `count` times over, and names the sessions
expired. -/
def expireOldest : (count : Nat) → List Session → List Session × List String
  | 0, sessions => (sessions, [])
  | count + 1, sessions =>
    match oldest? sessions with
    | none => (sessions, [])
    | some time =>
      let id := (sessions.find? (isLiveAt time)).map Session.id
      let (rest, ids) := expireOldest count (expireFirst time sessions)
      (rest, id.toList ++ ids)

/-- Makes room for a session among the sessions of a principal, or refuses it. -/
def makeRoom (limit : SessionLimit) (id : String) (sessions : List Session) :
    Except AuthError (List Session × List String) :=
  match limit.maximum with
  | none => .ok (sessions, [])
  | some maximum =>
    let active := (sessions.filter fun s => !s.expired).length
    if owns sessions id || active < maximum.toNat then .ok (sessions, [])
    else if limit.rejectNew then .error (limitExceeded maximum.toNat)
    else .ok (expireOldest (active + 1 - maximum.toNat) sessions)

/-- Records the session of a proven token. `fresh` is the identifier of a session that the request
does not name. A refusal changes nothing. -/
def register (c : SessionControl) (r : SessionRegistry) (now : Nat) (fresh : String)
    (proven : Token) : Except AuthError (SessionRegistry × List LogRecord) :=
  match c with
  | unrestricted => .ok (r, [])
  | limited limit _ =>
    let principal := proven.name
    let id := proven.sessionId?.getD fresh
    match makeRoom limit id (r.all principal) with
    | .error e => .error e
    | .ok (sessions, expired) =>
      .ok ((r.modify principal fun _ => sessions).register now id principal,
        expired.map (.sessionExpired principal) ++ r.registerLog id principal)

end SessionControl

end Admission
