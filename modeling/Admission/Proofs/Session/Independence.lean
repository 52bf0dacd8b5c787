import Admission.Proofs.Session.Run

/-!
# Logins of different principals

A registration looks at the sessions of one principal, and what it answers depends on these and on
the limit alone (`SessionControl.answer_congr`). It adds to them, and it takes the records of its
identifier from everybody else, which only the owner of that identifier can feel
(`SessionControl.all_after_of_not_owner`).

So two logins of different principals, of which neither takes the identifier of a session from the
principal of the other one (`Login.Apart`), may be registered in either order
(`SessionControl.after_comm`). Each principal finds its sessions as they were before the other
login, and whoever loses records to both loses the same ones.
-/

namespace Admission

/-- A proven token, with the identifier that is drawn for its session if it names none. -/
structure Login where
  proven : Token
  fresh : String

namespace Login

def principal (x : Login) : String :=
  x.proven.name

def id (x : Login) : String :=
  x.proven.sessionId?.getD x.fresh

/-- Two logins are of different principals and in different sessions, and neither takes the
identifier of a session from the principal of the other one. -/
structure Apart (r : SessionRegistry) (x y : Login) : Prop where
  principal : x.principal ≠ y.principal
  id : x.id ≠ y.id
  left : r.owners[x.id]? ≠ some y.principal
  right : r.owners[y.id]? ≠ some x.principal

theorem Apart.symm {r : SessionRegistry} {x y : Login} (h : Apart r x y) : Apart r y x :=
  ⟨h.principal.symm, h.id.symm, h.right, h.left⟩

end Login

/-- The session without the time of its last request. -/
def Session.timeless (s : Session) : Session :=
  { s with lastRequest := 0 }

/-- Two registries list the same sessions for everybody and name the same owners of identifiers, the
times of last requests aside. -/
structure SessionRegistry.SameButTimes (r r' : SessionRegistry) : Prop where
  sessions : ∀ p, (r.all p).map Session.timeless = (r'.all p).map Session.timeless
  owner : ∀ id : String, r.owners[id]? = r'.owners[id]?

namespace SessionControl

/-- What the registration of a login answers: nothing, or the error by which it is refused. -/
def answer (c : SessionControl) (r : SessionRegistry) (now : Nat) (x : Login) :
    Except AuthError Unit :=
  (c.register r now x.fresh x.proven).map fun _ => ()

/-- The registry after the registration of a login. A refusal leaves it as it was. -/
def after (c : SessionControl) (r : SessionRegistry) (now : Nat) (x : Login) : SessionRegistry :=
  c.registered r now x.fresh x.proven

/-- The sessions of a principal once there is room for a login, if it is to be recorded. -/
def room? (c : SessionControl) (x : Login) (l : List Session) : Option (List Session) :=
  match c with
  | unrestricted => none
  | limited limit _ => (makeRoom limit x.id l).toOption.map Prod.fst

variable {c : SessionControl} {r r' : SessionRegistry} {x y : Login} {now now' : Nat}
  {q i : String}

/-! ## One login -/

/-- A registration is answered the same at another time, and in another registry with the same
sessions of the principal. -/
theorem answer_congr (h : r'.all x.principal = r.all x.principal) :
    c.answer r' now' x = c.answer r now x := by
  have hname : r'.all x.proven.name = r.all x.proven.name := h
  cases c with
  | unrestricted => rfl
  | limited limit valid =>
    unfold answer register
    simp only [hname]
    cases makeRoom limit (x.proven.sessionId?.getD x.fresh) (r.all x.proven.name) <;> rfl

/-- A registration changes nothing, or it records the session after those of its principal. -/
theorem after_eq : c.after r now x =
    match c.room? x (r.all x.principal) with
    | none => r
    | some l => (r.modify x.principal fun _ => l).register now x.id x.principal := by
  cases c with
  | unrestricted => rfl
  | limited limit valid =>
    simp only [after, registered, register, room?, Login.id, Login.principal]
    cases makeRoom limit (x.proven.sessionId?.getD x.fresh) (r.all x.proven.name) <;> rfl

/-- What a registration makes of the sessions of its principal depends on these alone. -/
theorem all_after_congr (h : r'.all x.principal = r.all x.principal) :
    ((c.after r' now' x).all x.principal).map Session.timeless =
      ((c.after r now x).all x.principal).map Session.timeless := by
  rw [after_eq, after_eq, h]
  cases c.room? x (r.all x.principal) with
  | none => rw [h]
  | some l =>
    simp only [SessionRegistry.all_register, SessionRegistry.all_modify, if_true, List.map_append]
    rfl

/-- Nobody but the owner of an identifier loses a session when another principal registers it. -/
theorem all_after_of_not_owner (hq : x.principal ≠ q) (howner : r.owners[x.id]? ≠ some q) :
    (c.after r now x).all q = r.all q := by
  rw [after_eq]
  cases c.room? x (r.all x.principal) with
  | none => rfl
  | some l =>
    have hformer : (r.modify x.principal fun _ => l).formerOwner x.id x.principal ≠ some q :=
      fun hf => howner (SessionRegistry.formerOwner_eq_some.1 hf).1
    simp only [SessionRegistry.all_register, SessionRegistry.all_modify, if_neg hq, if_neg hformer]

/-- A login that is recorded takes the records of its identifier from everybody else. -/
theorem all_after_of_ne (hr : r.Consistent) (hq : x.principal ≠ q) :
    (c.after r now x).all q =
      if (c.room? x (r.all x.principal)).isSome then (r.all q).filter fun s => s.id != x.id
      else r.all q := by
  by_cases howner : r.owners[x.id]? = some q
  · have hformer : r.formerOwner x.id x.principal = some q :=
      SessionRegistry.formerOwner_eq_some.2 ⟨howner, hq.symm⟩
    rw [after_eq]
    cases c.room? x (r.all x.principal) with
    | none => rfl
    | some l =>
      have hformer' : (r.modify x.principal fun _ => l).formerOwner x.id x.principal = some q :=
        hformer
      simp [SessionRegistry.all_register, SessionRegistry.all_modify, hq, hformer']
  · rw [all_after_of_not_owner hq howner, hr.filter_id_ne howner, ite_self]

/-- A login that is recorded makes its principal the owner of its identifier. -/
theorem owners_after : (c.after r now x).owners[i]? =
    if (c.room? x (r.all x.principal)).isSome ∧ i = x.id then some x.principal
    else r.owners[i]? := by
  rw [after_eq]
  cases c.room? x (r.all x.principal) with
  | none => simp
  | some l => simp [SessionRegistry.owners_register]

/-! ## Two logins -/

section

variable {t₁ t₂ t₃ t₄ : Nat}

/-- A registration leaves the sessions of the other principal as they were. -/
theorem all_after_of_apart (h : Login.Apart r x y) :
    (c.after r now x).all y.principal = r.all y.principal :=
  all_after_of_not_owner h.principal h.left

/-- A principal has the same sessions whether its login is registered first or last. -/
theorem all_after_comm_self (h : Login.Apart r x y) :
    ((c.after (c.after r t₁ x) t₂ y).all x.principal).map Session.timeless =
      ((c.after (c.after r t₃ y) t₄ x).all x.principal).map Session.timeless := by
  have howner : (c.after r t₁ x).owners[y.id]? ≠ some x.principal := by
    rw [owners_after, if_neg fun hid => h.id.symm hid.2]
    exact h.right
  rw [all_after_of_not_owner h.principal.symm howner]
  exact (all_after_congr (all_after_of_apart h.symm)).symm

/-- Everybody else loses the same sessions in either order. -/
theorem all_after_comm_of_ne (hr : r.Consistent) (h : Login.Apart r x y) (hx : x.principal ≠ q)
    (hy : y.principal ≠ q) :
    (c.after (c.after r t₁ x) t₂ y).all q = (c.after (c.after r t₃ y) t₄ x).all q := by
  have hrx : (c.after r t₁ x).Consistent := hr.registered c t₁ x.fresh x.proven
  have hry : (c.after r t₃ y).Consistent := hr.registered c t₃ y.fresh y.proven
  rw [all_after_of_ne hrx hy, all_after_of_ne hry hx, all_after_of_apart h,
    all_after_of_apart h.symm, all_after_of_ne hr hx, all_after_of_ne hr hy]
  split
  · split
    · simp only [List.filter_filter, Bool.and_comm]
    · rfl
  · rfl

/-- Identifiers have the same owners in either order. -/
theorem owners_after_comm (h : Login.Apart r x y) :
    (c.after (c.after r t₁ x) t₂ y).owners[i]? = (c.after (c.after r t₃ y) t₄ x).owners[i]? := by
  simp only [owners_after, all_after_of_apart h, all_after_of_apart h.symm]
  by_cases hx : i = x.id
  · have hy : i ≠ y.id := fun hi => h.id (hx.symm.trans hi)
    simp only [hy, and_false, if_false]
  · simp only [hx, and_false, if_false]

end

/-- **Logins of different principals are independent.** In the registry after any run, two logins of
different principals are registered, in different sessions, and neither takes the identifier of a
session from the principal of the other one. Then in either order, and at any times, each of them is
answered the same, and everybody is left with the same sessions, expired or not, in the same order,
and every identifier with the same owner. -/
theorem after_comm (calls : List RegistryCall) (c : SessionControl) (x y : Login)
    (t₁ t₂ t₃ t₄ : Nat) (principals : x.principal ≠ y.principal) (ids : x.id ≠ y.id)
    (left : (SessionRegistry.run calls .empty).owners[x.id]? ≠ some y.principal)
    (right : (SessionRegistry.run calls .empty).owners[y.id]? ≠ some x.principal) :
    let r := SessionRegistry.run calls .empty
    c.answer (c.after r t₃ y) t₄ x = c.answer r t₁ x ∧
      c.answer (c.after r t₁ x) t₂ y = c.answer r t₃ y ∧
      SessionRegistry.SameButTimes (c.after (c.after r t₁ x) t₂ y)
        (c.after (c.after r t₃ y) t₄ x) := by
  intro r
  have hr : r.Consistent := SessionRegistry.consistent_run calls
  have h : Login.Apart r x y := ⟨principals, ids, left, right⟩
  refine ⟨answer_congr (all_after_of_apart h.symm), answer_congr (all_after_of_apart h), ?_, ?_⟩
  · intro p
    by_cases hx : x.principal = p
    · subst hx
      exact all_after_comm_self h
    · by_cases hy : y.principal = p
      · subst hy
        exact (all_after_comm_self h.symm).symm
      · rw [all_after_comm_of_ne hr h hx hy]
  · intro id
    exact owners_after_comm h

/-- Two users take over the sessions of a third one, where a new session makes an older one expire.
-/
theorem after_comm_takeovers :
    let calls : List RegistryCall :=
      [.record 0 "x" "carol", .record 1 "y" "carol", .record 2 "z" "alice"]
    let c : SessionControl := .limited ⟨some 1, false⟩ rfl
    let alice : Login :=
      ⟨(Token.usernamePassword "alice" "pw").withDetails { sessionId := some "x" }, ""⟩
    let bob : Login :=
      ⟨(Token.usernamePassword "bob" "pw").withDetails { sessionId := some "y" }, ""⟩
    let r := SessionRegistry.run calls .empty
    c.answer (c.after r 3 bob) 4 alice = c.answer r 3 alice ∧
      SessionRegistry.SameButTimes (c.after (c.after r 3 alice) 4 bob)
        (c.after (c.after r 3 bob) 4 alice) := by
  intro calls c alice bob r
  have hprincipals : alice.principal ≠ bob.principal := by
    show "alice" ≠ "bob"
    simp
  have hids : alice.id ≠ bob.id := by
    show "x" ≠ "y"
    simp
  have hleft : r.owners[alice.id]? ≠ some bob.principal := by
    show r.owners["x"]? ≠ some "bob"
    simp [r, calls, SessionRegistry.run, RegistryCall.step, SessionRegistry.owners_register]
  have hright : r.owners[bob.id]? ≠ some alice.principal := by
    show r.owners["y"]? ≠ some "alice"
    simp [r, calls, SessionRegistry.run, RegistryCall.step, SessionRegistry.owners_register]
  obtain ⟨halice, -, hsame⟩ := after_comm calls c alice bob 3 4 3 4 hprincipals hids hleft hright
  exact ⟨halice, hsame⟩

end SessionControl

end Admission
