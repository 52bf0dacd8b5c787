import Admission.Event.Basic
import Admission.Proofs.Json.RoundTrip

/-!
# What the JSON of an event tells

An event shows ten facts in its JSON (`Event.shown`), and they can be read off it again: the text is
read as JSON and its members are looked up by name, wherever they stand (`Event.Shown.read?`).
Reading gives back what was shown, whatever texts occur in the event, so two events have the same
text exactly if they show the same (`Event.json_faithful`). The secret of the token is not among the
facts.
-/

namespace Admission

/-! ## Reading values -/

namespace Json.Value

/-- The value of the first member of an object with a name. -/
def member? (name : String) : Value → Option Value
  | .object members => (members.find? fun m => m.1 == some name).map Prod.snd
  | _ => none

/-- The text that a string denotes. -/
def string? : Value → Option String
  | .string text => text
  | _ => none

def bool? : Value → Option Bool
  | .bool b => some b
  | _ => none

/-- What an array holds, if each of its elements can be read. -/
def list? {α : Type} (read : Value → Option α) : Value → Option (List α)
  | .array elements => elements.mapM read
  | _ => none

/-- Null, or what a value says. -/
def nullable? {α : Type} (read : Value → Option α) : Value → Option (Option α)
  | .null => some none
  | v => (read v).map some

@[simp] theorem string?_text (s : String) : (text s).string? = some s := rfl

@[simp] theorem bool?_bool (b : Bool) : (Value.bool b).bool? = some b := rfl

@[simp] theorem nullable?_text? (s : Option String) : (text? s).nullable? string? = some s := by
  cases s <;> rfl

/-- A list of texts is read as it is written. -/
@[simp] theorem list?_texts (texts : List String) :
    (array (texts.map text)).list? string? = some texts := by
  show (texts.map text).mapM string? = some texts
  induction texts with
  | nil => rfl
  | cons s texts ih => simp [ih]

end Json.Value

/-- The kind of error with a name. -/
def ErrorKind.ofName? (name : String) : Option ErrorKind :=
  all.find? fun kind => kind.name == name

/-- A kind of error is known by its name. -/
@[simp] theorem ErrorKind.ofName?_name (kind : ErrorKind) : ofName? kind.name = some kind := by
  cases kind <;> decide

/-! ## What is shown -/

namespace Event

/-- The facts that the JSON of an event shows. -/
structure Shown where
  id : String
  timestamp : Nat
  kind : String
  principal : String
  tokenKind : String
  authenticated : Bool
  authorities : List String
  remoteAddress : Option String
  errorKind : Option ErrorKind
  error : Option String
  deriving Repr, DecidableEq

/-- What an event shows. -/
def shown (e : Event) : Shown where
  id := e.id
  timestamp := e.timestamp
  kind := e.kind.display
  principal := e.token.name
  tokenKind := e.token.kind.display
  authenticated := e.token.authenticated
  authorities := e.token.authorities.toList
  remoteAddress := e.token.remoteAddress?
  errorKind := e.error.map AuthError.kind
  error := e.error.map AuthError.message

open Json.Value in
/-- The facts in a JSON object, by the names of its members. -/
def Shown.ofJson? (v : Json.Value) : Option Shown := do
  let id ← (← v.member? "id").string?
  let timestamp ← (← v.member? "timestamp").natural?
  let kind ← (← v.member? "event_type").string?
  let principal ← (← v.member? "principal").string?
  let tokenKind ← (← v.member? "token_kind").string?
  let authenticated ← (← v.member? "authenticated").bool?
  let authorities ← (← v.member? "authorities").list? string?
  let remoteAddress ← (← v.member? "remote_address").nullable? string?
  let errorKind ← (← v.member? "error_kind").nullable? fun v => v.string?.bind ErrorKind.ofName?
  let error ← (← v.member? "error").nullable? string?
  return ⟨id, timestamp, kind, principal, tokenKind, authenticated, authorities, remoteAddress,
    errorKind, error⟩

/-- The facts that a text shows. -/
def Shown.read? (text : String) : Option Shown :=
  (Json.read text).bind Shown.ofJson?

/-! ## Reading what is shown -/

open Json.Value in
/-- All numbers in an event are natural. -/
theorem natural_toJson (e : Event) : e.toJson.Natural := by
  have hauthorities : (Json.Value.array (e.token.authorities.toList.map text)).Natural := by
    refine .array fun v hv => ?_
    obtain ⟨authority, -, rfl⟩ := List.mem_map.1 hv
    exact natural_text authority
  refine natural_ofMembers ?_
  simp only [List.forall_mem_cons, List.not_mem_nil, false_imp_iff, implies_true, and_true]
  exact ⟨natural_text _, .number _, natural_text _, natural_text _, natural_text _, .bool _,
    hauthorities, natural_text? _, natural_text? _, natural_text? _⟩

open Json.Value in
/-- The members of the object say what the event shows. -/
theorem ofJson?_toJson (e : Event) : Shown.ofJson? e.toJson = some e.shown := by
  have hkind : (text? (e.error.map fun err => err.kind.name)).nullable?
      (fun v => v.string?.bind ErrorKind.ofName?) = some (e.error.map AuthError.kind) := by
    cases e.error with
    | none => rfl
    | some err => exact congrArg (Option.map some) (ErrorKind.ofName?_name err.kind)
  simp [Shown.ofJson?, toJson, member?, ofMembers, hkind, shown]

/-- The text of an event is read as the object that was written. -/
theorem read_json (e : Event) : Json.read e.json = some e.toJson :=
  Json.read_compact e.natural_toJson

/-- **What an event shows is read off its text.** -/
theorem read?_json (e : Event) : Shown.read? e.json = some e.shown := by
  rw [Shown.read?, read_json, Option.bind_some, ofJson?_toJson]

/-- Events with one text show the same. -/
theorem shown_of_json_eq {e e' : Event} (h : e.json = e'.json) : e.shown = e'.shown := by
  have hread : Shown.read? e.json = Shown.read? e'.json := congrArg Shown.read? h
  rw [read?_json, read?_json] at hread
  exact Option.some.inj hread

/-- The object depends on what is shown alone. -/
theorem toJson_congr {e e' : Event} (h : e.shown = e'.shown) : e.toJson = e'.toJson := by
  have hname : ∀ e : Event, (e.error.map fun err => err.kind.name) =
      e.shown.errorKind.map ErrorKind.name := by
    intro e
    rw [shown, Option.map_map]
    rfl
  simp only [toJson, hname, h]
  simp only [shown, Shown.mk.injEq] at h
  simp only [h]

/-- **The JSON of an event is faithful and free of secrets.**

The text of an event is one JSON object without a raw control, and reading it gives back what the
event shows: the ten facts, of which the authorities ascend without repetition. So two events have
the same text exactly if they show the same, and another secret in the token changes nothing. -/
theorem json_faithful (e : Event) :
    (∃ members, Json.read e.json = some (.object members) ∧
      members.map Prod.fst = ["id", "timestamp", "event_type", "principal", "token_kind",
        "authenticated", "authorities", "remote_address", "error_kind", "error"].map some) ∧
    (∀ c ∈ e.json.toList, ' ' ≤ c) ∧
    Shown.read? e.json = some e.shown ∧
    e.shown.authorities.Pairwise (· < ·) ∧
    (∀ e' : Event, e.json = e'.json ↔ e.shown = e'.shown) ∧
    ∀ credentials, ({ e with token := { e.token with credentials := credentials } } : Event).json =
      e.json := by
  refine ⟨⟨_, e.read_json, rfl⟩, Json.le_of_mem_compact e.natural_toJson, e.read?_json,
    e.token.authorities.ascending, fun e' => ⟨shown_of_json_eq, fun h => ?_⟩, fun _ => rfl⟩
  exact congrArg Json.Value.compact (toJson_congr h)

end Event

end Admission
