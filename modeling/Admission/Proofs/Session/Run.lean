import Admission.Proofs.Session.Room

/-!
# Runs of the registry

The registry is shared: several controls may register sessions in it, and others record, refresh,
expire and remove sessions directly, in any order. `RegistryCall` names one such call, with the
clock and the identifier drawn for it, `RegistryCall.step` is what it does, and
`SessionRegistry.run` does a sequence of calls. What every call preserves holds after every run
(`run_induction`); the first such property is that the registry is consistent (`consistent_run`).
-/

namespace Admission

/-- A call that reaches the registry. -/
inductive RegistryCall
  /-- A session is recorded without any control. -/
  | record (now : Nat) (id principal : String)
  /-- A control is asked for admission. -/
  | check (control : SessionControl) (request : Token)
  /-- A control registers the session of a proven token, with an identifier drawn in case the token
  names none. -/
  | register (control : SessionControl) (now : Nat) (fresh : String) (proven : Token)
  /-- A request was seen in a session. -/
  | refresh (now : Nat) (id : String)
  | expire (id : String)
  /-- A session ends, by logout or because its container destroys it. -/
  | remove (id : String)

/-- The registry after a registration under a control. A refusal leaves it as it was. -/
def SessionControl.registered (c : SessionControl) (r : SessionRegistry) (now : Nat)
    (fresh : String) (proven : Token) : SessionRegistry :=
  match c.register r now fresh proven with
  | .ok (r', _) => r'
  | .error _ => r

namespace RegistryCall

/-- What a call does to the registry. -/
def step (r : SessionRegistry) : RegistryCall → SessionRegistry
  | record now id principal => r.register now id principal
  | check .. => r
  | register control now fresh proven => control.registered r now fresh proven
  | refresh now id => r.refresh now id
  | expire id => r.expire id
  | remove id => r.remove id

/-- The call is no direct record, and the control it asks is the given one. -/
def Under (c : SessionControl) : RegistryCall → Prop
  | record .. => False
  | check control _ => control = c
  | register control .. => control = c
  | refresh .. | expire _ | remove _ => True

end RegistryCall

namespace SessionRegistry

variable {r : SessionRegistry}

/-- Does one call after the other. -/
def run (calls : List RegistryCall) (r : SessionRegistry) : SessionRegistry :=
  calls.foldl RegistryCall.step r

/-- What every call of a run preserves holds after the run. -/
theorem run_induction {P : SessionRegistry → Prop} {calls : List RegistryCall}
    (hstep : ∀ call ∈ calls, ∀ r, P r → P (call.step r)) (h : P r) : P (run calls r) := by
  induction calls generalizing r with
  | nil => exact h
  | cons call rest ih =>
    exact ih (fun c hc => hstep c (List.mem_cons_of_mem _ hc)) (hstep call List.mem_cons_self r h)

/-- Registration under a control keeps the registry consistent, refused or not. -/
theorem Consistent.registered (h : Consistent r) (c : SessionControl) (now : Nat) (fresh : String)
    (proven : Token) : Consistent (c.registered r now fresh proven) := by
  unfold SessionControl.registered
  split
  · next hok => exact SessionControl.consistent_register h hok
  · exact h

/-- A call keeps the registry consistent. -/
theorem Consistent.step (h : Consistent r) (call : RegistryCall) : Consistent (call.step r) := by
  cases call with
  | record now id principal => exact h.register
  | check control request => exact h
  | register control now fresh proven => exact h.registered control now fresh proven
  | refresh now id => exact h.refresh
  | expire id => exact h.expire
  | remove id => exact h.remove

/-- Every run leads to a consistent registry. -/
theorem consistent_run (calls : List RegistryCall) : Consistent (run calls .empty) :=
  run_induction (fun call _ _ h => h.step call) .empty

end SessionRegistry

end Admission
