import Admission.Proofs.Session.Run

/-!
# Admission and registration

The limit is looked at twice, before the providers are asked and when the session is recorded
(`SessionControl.check`, `SessionControl.register`). The first look goes to a copy of the live
sessions, the second to all records of the principal, and the second decides about an identifier
even where the request names none. Both come to the same result
(`SessionControl.check_isOk_iff_register_isOk`), unless an identifier drawn for the registration is
by accident that of a live session of the same principal; even then a request that was admitted is
registered (`SessionControl.register_isOk_of_check`).
-/

namespace Admission.SessionControl

variable {limit : SessionLimit} {valid : limit.validate = .ok ()} {r : SessionRegistry}
  {request proven : Token} {now : Nat} {id fresh : String} {l : List Session}

/-- Under a maximum there is room for a session that is owned already, and else below the maximum.
-/
theorem hasRoom_iff {maximum : UInt64} (hm : limit.maximum = some maximum) :
    HasRoom limit id l ↔ owns l id = true ∨ (live l).length < maximum.toNat := by
  constructor
  · intro h
    exact h maximum hm
  · intro h maximum' hm'
    cases hm.symm.trans hm'
    exact h

/-- A request is admitted if new sessions are not refused, the request comes from a live session of
the principal, or the maximum is not reached. -/
theorem check_isOk {maximum : UInt64} (hm : limit.maximum = some maximum) :
    (check (.limited limit valid) r request).1 = .ok () ↔
      limit.rejectNew = false ∨
        (∃ id, request.sessionId? = some id ∧ owns (r.all request.name) id = true) ∨
        (live (r.all request.name)).length < maximum.toNat := by
  obtain ⟨_, rejectNew⟩ := limit
  cases hm
  have hlive : r.live request.name = live (r.all request.name) := rfl
  have howns : (request.sessionId?.map (owns (live (r.all request.name)))).getD false = true ↔
      ∃ id, request.sessionId? = some id ∧ owns (r.all request.name) id = true := by
    cases request.sessionId? <;> simp [owns_live]
  simp only [check, hlive]
  split
  · next h => exact ⟨fun _ => .inr (.inl (howns.1 h)), fun _ => rfl⟩
  · next h =>
    rw [← howns]
    split
    · next hroom =>
      simp only [Bool.or_eq_true, decide_eq_true_eq, Bool.not_eq_true'] at hroom
      exact ⟨fun _ => hroom.symm.imp_right .inr, fun _ => rfl⟩
    · next hroom =>
      simp only [Bool.or_eq_true, decide_eq_true_eq, Bool.not_eq_true', not_or] at hroom
      simp [h, hroom]

/-- **Admission and registration agree.** A request is admitted if and only if the registration of a
token proven from it succeeds in the same state. Where the request names no session, the identifier
drawn for it must not be that of a live session of the principal. -/
theorem check_isOk_iff_register_isOk (hname : proven.name = request.name)
    (hid : proven.sessionId? = request.sessionId?)
    (hfresh : request.sessionId? = none → owns (r.all request.name) fresh = false) :
    (check (.limited limit valid) r request).1 = .ok () ↔
      ∃ out, register (.limited limit valid) r now fresh proven = .ok out := by
  rw [register_isOk, hname, hid]
  cases hm : limit.maximum with
  | none =>
    have hroom : HasRoom limit (request.sessionId?.getD fresh) (r.all request.name) :=
      fun _ h => nomatch hm.symm.trans h
    obtain ⟨_, rejectNew⟩ := limit
    cases hm
    exact ⟨fun _ => .inr hroom, fun _ => rfl⟩
  | some maximum =>
    rw [check_isOk hm, hasRoom_iff hm]
    cases hr : request.sessionId? with
    | none => simp [hfresh hr]
    | some id => simp

/-- A request that is admitted is registered, whatever identifier is drawn. -/
theorem register_isOk_of_check (hname : proven.name = request.name)
    (hid : proven.sessionId? = request.sessionId?)
    (h : (check (.limited limit valid) r request).1 = .ok ()) :
    ∃ out, register (.limited limit valid) r now fresh proven = .ok out := by
  rw [register_isOk, hname, hid]
  cases hm : limit.maximum with
  | none => exact .inr fun _ h => nomatch hm.symm.trans h
  | some maximum =>
    rw [hasRoom_iff hm]
    rcases (check_isOk hm).1 h with hnew | ⟨id, hr, howned⟩ | hlt
    · exact .inl hnew
    · exact .inr (.inl (by rw [hr]; exact howned))
    · exact .inr (.inr hlt)

end Admission.SessionControl
