import Mathlib.Data.List.Forall2
import Admission.Proofs.Session.Room

/-!
# Drawn identifiers

A session is recorded with the time, and if the request does not name it, under an identifier that
is drawn for it. What the registry does with a session does not depend on either: registered at two
times and under two identifiers that are both new to the registry (`SessionRegistry.Indifferent`), a
session is refused both times or recorded both times, and the two outcomes differ in that time and
identifier alone (`SessionControl.register_alike`).
-/

namespace Admission

variable {now₁ now₂ : Nat} {id₁ id₂ : String} {r : SessionRegistry} {l : List Session}
  {limit : SessionLimit}

/-! ## Agreement -/

/-- An identifier is new to a registry: it belongs to nobody, and nobody has a record of it. -/
structure SessionRegistry.Lacks (r : SessionRegistry) (id : String) : Prop where
  owner : r.owners[id]? = none
  record : ∀ p, ∀ s ∈ r.all p, s.id ≠ id

/-- To a registry one identifier is like another: they are the same, or both are new to it. -/
def SessionRegistry.Indifferent (r : SessionRegistry) (id₁ id₂ : String) : Prop :=
  id₁ = id₂ ∨ r.Lacks id₁ ∧ r.Lacks id₂

/-- Two registries are the same, or they were before each recorded a session of one principal, at
its own time and under its own identifier. -/
inductive SessionRegistry.Alike (now₁ now₂ : Nat) (id₁ id₂ : String) :
    SessionRegistry → SessionRegistry → Prop
  | same (r : SessionRegistry) : Alike now₁ now₂ id₁ id₂ r r
  | registered (r : SessionRegistry) (p : String) :
    Alike now₁ now₂ id₁ id₂ (r.register now₁ id₁ p) (r.register now₂ id₂ p)

/-- Two log records are the same, or they report a new session of one principal, each under its own
identifier. -/
inductive LogRecord.Alike (id₁ id₂ : String) : LogRecord → LogRecord → Prop
  | same (r : LogRecord) : Alike id₁ id₂ r r
  | registered (p : String) :
    Alike id₁ id₂ (.sessionRegistered p id₁) (.sessionRegistered p id₂)

/-- A log differs from itself in nothing. -/
theorem LogRecord.alike_refl (log : List LogRecord) :
    List.Forall₂ (LogRecord.Alike id₁ id₂) log log :=
  List.forall₂_same.2 fun r _ => .same r

/-! ## Registration -/

/-- Nobody owns a session under an identifier that is new. -/
theorem SessionRegistry.Lacks.owns {id p : String} (h : r.Lacks id) :
    SessionControl.owns (r.all p) id = false := by
  refine Bool.eq_false_iff.2 fun howns => ?_
  obtain ⟨s, hs, hid⟩ := SessionControl.owns_iff.1 howns
  exact h.record p s (SessionControl.mem_live.1 hs).1 hid

/-- Whoever has a live session has it under both identifiers or under neither. -/
theorem SessionRegistry.Indifferent.owns {p : String} (h : r.Indifferent id₁ id₂) :
    SessionControl.owns (r.all p) id₁ = SessionControl.owns (r.all p) id₂ := by
  rcases h with rfl | ⟨h₁, h₂⟩
  · rfl
  · rw [h₁.owns, h₂.owns]

/-- Registrations under the two identifiers are reported alike. -/
theorem SessionRegistry.Indifferent.registerLog {p : String} (h : r.Indifferent id₁ id₂) :
    List.Forall₂ (LogRecord.Alike id₁ id₂) (r.registerLog id₁ p) (r.registerLog id₂ p) := by
  rcases h with rfl | ⟨h₁, h₂⟩
  · exact LogRecord.alike_refl _
  · simp only [SessionRegistry.registerLog, SessionRegistry.formerOwner, h₁.owner, h₂.owner]
    exact .cons (.registered p) .nil

namespace SessionControl

/-- Room is made for the principal, whatever the session is called, unless it has it already. -/
theorem makeRoom_congr (h : owns l id₁ = owns l id₂) :
    makeRoom limit id₁ l = makeRoom limit id₂ l := by
  simp only [makeRoom, h]

/-- **The time and a drawn identifier decide nothing.** -/
theorem register_alike (c : SessionControl) (now₁ now₂ : Nat) {proven : Token}
    {fresh₁ fresh₂ : String}
    (h₁ : proven.sessionId?.getD fresh₁ = id₁) (h₂ : proven.sessionId?.getD fresh₂ = id₂)
    (h : r.Indifferent id₁ id₂) :
    (∃ e, c.register r now₁ fresh₁ proven = .error e ∧
      c.register r now₂ fresh₂ proven = .error e) ∨
    ∃ r₁ log₁ r₂ log₂, c.register r now₁ fresh₁ proven = .ok (r₁, log₁) ∧
      c.register r now₂ fresh₂ proven = .ok (r₂, log₂) ∧
      SessionRegistry.Alike now₁ now₂ id₁ id₂ r₁ r₂ ∧
      List.Forall₂ (LogRecord.Alike id₁ id₂) log₁ log₂ := by
  cases c with
  | unrestricted => exact .inr ⟨r, [], r, [], rfl, rfl, .same r, .nil⟩
  | limited limit valid =>
    simp only [register, h₁, h₂, makeRoom_congr h.owns]
    rcases makeRoom limit id₂ (r.all proven.name) with e | ⟨sessions, expired⟩
    · exact .inl ⟨e, rfl, rfl⟩
    · refine .inr ⟨_, _, _, _, rfl, rfl, .registered _ _, ?_⟩
      exact List.rel_append (LogRecord.alike_refl _) h.registerLog

end SessionControl

end Admission
