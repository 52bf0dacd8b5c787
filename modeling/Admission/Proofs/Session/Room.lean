import Admission.Session.Control
import Admission.Proofs.Session.Consistent

/-!
# Making room

Before a session is recorded, the sessions of the principal are looked at, and some of them may
expire (`SessionControl.makeRoom`). Expiry sets marks and nothing else: whatever does not depend on
the mark is as before (`map_makeRoom`). Each round of `expireOldest` finds a live session as long as
there is one, so that the number of live sessions falls by exactly the number of rounds
(`length_live_expireOldest`).

Either there is room already (`HasRoom`) or the session would be one too many (`Full`), and each of
the two says what `makeRoom` does. A registration makes room and records the session
(`register_eq_ok`), unless it is refused (`register_isOk`).
-/

namespace Admission.SessionControl

variable {limit : SessionLimit} {valid : limit.validate = .ok ()} {id fresh : String}
  {l l' : List Session} {ids : List String} {now time : Nat} {r r' : SessionRegistry}
  {proven : Token} {log : List LogRecord}

/-- The sessions of a list that are not expired. -/
def live (l : List Session) : List Session :=
  l.filter fun s => !s.expired

/-- The live records are those that have not expired. -/
theorem mem_live {s : Session} : s ∈ live l ↔ s ∈ l ∧ s.expired = false := by
  simp [live]

/-! ## Ownership -/

/-- A session is owned if there is a live record of its identifier. -/
theorem owns_iff : owns l id = true ↔ ∃ s ∈ live l, s.id = id := by
  simp [owns, mem_live, and_assoc]

/-- A session is owned if a live one has its identifier. -/
theorem any_live : (live l).any (fun s => s.id == id) = owns l id := by
  simp [live, owns]

/-- Expired sessions do not count for ownership. -/
theorem owns_live : owns (live l) id = owns l id := by
  simp [live, owns]

/-! ## Expiry -/

/-- The oldest last request is that of a live session. -/
theorem exists_isLiveAt (h : oldest? l = some time) : ∃ s ∈ l, isLiveAt time s = true := by
  obtain ⟨s, hs, hst⟩ := List.mem_map.1 (List.min?_mem h)
  obtain ⟨hmem, hlive⟩ := List.mem_filter.1 hs
  exact ⟨s, hmem, by simp [isLiveAt, hst, hlive]⟩

/-- There is a least recently used record as long as one is live. -/
theorem oldest?_eq_none : oldest? l = none ↔ live l = [] := by
  simp [oldest?, live]

/-- Expiry changes nothing in a record but its mark. -/
theorem map_expireFirst {β : Type} {f : Session → β}
    (hf : ∀ s : Session, f { s with expired := true } = f s) :
    (expireFirst time l).map f = l.map f := by
  induction l with
  | nil => rfl
  | cons s rest ih =>
    unfold expireFirst
    split
    · simp [hf]
    · simp [ih]

/-- Expiring a session takes one session from the live ones. -/
theorem length_live_expireFirst (h : ∃ s ∈ l, isLiveAt time s = true) :
    (live (expireFirst time l)).length + 1 = (live l).length := by
  induction l with
  | nil => simp at h
  | cons s rest ih =>
    unfold expireFirst
    split
    · next hs =>
      have hlive : s.expired = false := by
        simp only [isLiveAt, Bool.and_eq_true, Bool.not_eq_true'] at hs
        exact hs.1
      simp [live, hlive]
    · next hs =>
      obtain ⟨t, ht, htl⟩ := h
      rcases List.mem_cons.1 ht with rfl | ht
      · exact absurd htl hs
      · have := ih ⟨t, ht, htl⟩
        simp only [live, List.filter_cons] at this ⊢
        split
        · simp [this]
        · exact this

/-- However many records expire, nothing else in them changes. -/
theorem map_expireOldest {β : Type} {f : Session → β}
    (hf : ∀ s : Session, f { s with expired := true } = f s) (n : Nat) :
    (expireOldest n l).1.map f = l.map f := by
  induction n generalizing l with
  | zero => rfl
  | succ n ih =>
    unfold expireOldest
    split
    · rfl
    · exact ih.trans (map_expireFirst hf)

/-- Each round expires a live session as long as there is one. -/
theorem length_live_expireOldest (n : Nat) :
    (live (expireOldest n l).1).length = (live l).length - n := by
  induction n generalizing l with
  | zero => rfl
  | succ n ih =>
    unfold expireOldest
    split
    · next h => simp [oldest?_eq_none.1 h]
    · next time h =>
      have := length_live_expireFirst (exists_isLiveAt h)
      show (live (expireOldest n (expireFirst time l)).1).length = _
      rw [ih]
      omega

/-- Expiring a session revives none. -/
theorem live_expireFirst_sublist : (live (expireFirst time l)).Sublist (live l) := by
  induction l with
  | nil => exact .refl _
  | cons s rest ih =>
    unfold expireFirst
    split
    · simp only [live, List.filter_cons, Bool.not_true, Bool.false_eq_true, if_false]
      split
      · exact .cons _ (.refl _)
      · exact .refl _
    · simp only [live, List.filter_cons] at ih ⊢
      split
      · exact ih.cons_cons _
      · exact ih

/-- Expiry makes no record live. -/
theorem live_expireOldest_sublist (n : Nat) : (live (expireOldest n l).1).Sublist (live l) := by
  induction n generalizing l with
  | zero => exact .refl _
  | succ n ih =>
    unfold expireOldest
    split
    · exact .refl _
    · exact ih.trans live_expireFirst_sublist

/-! ## Outcomes -/

/-- There is room for a session as things are: sessions are not limited, or it is owned already, or
the maximum is not reached. -/
def HasRoom (limit : SessionLimit) (id : String) (l : List Session) : Prop :=
  ∀ maximum, limit.maximum = some maximum → owns l id = true ∨ (live l).length < maximum.toNat

/-- The session would be one too many. -/
structure Full (limit : SessionLimit) (id : String) (l : List Session) (maximum : UInt64) :
    Prop where
  limited : limit.maximum = some maximum
  owned : owns l id = false
  reached : maximum.toNat ≤ (live l).length

/-- There is room for a session, or the limit is reached. -/
theorem hasRoom_or_full (limit : SessionLimit) (id : String) (l : List Session) :
    HasRoom limit id l ∨ ∃ maximum, Full limit id l maximum := by
  cases hm : limit.maximum with
  | none => exact .inl fun _ h => by rw [hm] at h; cases h
  | some maximum =>
    cases ho : owns l id with
    | true => exact .inl fun _ _ => .inl ho
    | false =>
      rcases Nat.lt_or_ge (live l).length maximum.toNat with hlt | hge
      · refine .inl fun _ h => .inr ?_
        rw [hm] at h
        cases h
        exact hlt
      · exact .inr ⟨maximum, hm, ho, hge⟩

/-- There is no room where the limit is reached. -/
theorem Full.not_hasRoom {maximum : UInt64} (h : Full limit id l maximum) :
    ¬ HasRoom limit id l := by
  intro hroom
  rcases hroom maximum h.limited with ho | hlt
  · exact Bool.false_ne_true (h.owned.symm.trans ho)
  · exact Nat.not_lt.2 h.reached hlt

/-- Where there is room none is made. -/
theorem makeRoom_of_hasRoom (h : HasRoom limit id l) : makeRoom limit id l = .ok (l, []) := by
  unfold makeRoom
  cases hm : limit.maximum with
  | none => rfl
  | some maximum =>
    have hroom := h maximum hm
    simp only [live] at hroom
    simp [hroom]

/-- Where the limit is reached the session is refused, or so many of the least recently used records
expire that one more is within the limit. -/
theorem makeRoom_of_full {maximum : UInt64} (h : Full limit id l maximum) :
    makeRoom limit id l =
      if limit.rejectNew then .error (limitExceeded maximum.toNat)
      else .ok (expireOldest ((live l).length + 1 - maximum.toNat) l) := by
  have hlt : ¬ (l.filter fun s => !s.expired).length < maximum.toNat := Nat.not_lt.2 h.reached
  simp [makeRoom, h.limited, h.owned, hlt, live]

/-- A session is refused only if new sessions are refused and there is no room. -/
theorem makeRoom_isOk : (∃ out, makeRoom limit id l = .ok out) ↔
    limit.rejectNew = false ∨ HasRoom limit id l := by
  rcases hasRoom_or_full limit id l with h | ⟨maximum, h⟩
  · exact ⟨fun _ => .inr h, fun _ => ⟨_, makeRoom_of_hasRoom h⟩⟩
  · rw [makeRoom_of_full h]
    cases limit.rejectNew with
    | true => simp [h.not_hasRoom]
    | false => simp

/-- Making room changes nothing but marks of expiry. -/
theorem map_makeRoom {β : Type} {f : Session → β}
    (hf : ∀ s : Session, f { s with expired := true } = f s)
    (h : makeRoom limit id l = .ok (l', ids)) : l'.map f = l.map f := by
  rcases hasRoom_or_full limit id l with hroom | ⟨maximum, hfull⟩
  · rw [makeRoom_of_hasRoom hroom] at h
    cases h
    rfl
  · rw [makeRoom_of_full hfull] at h
    split at h
    · cases h
    · have hl : (expireOldest _ l).1 = l' := congrArg Prod.fst (Except.ok.inj h)
      exact hl ▸ map_expireOldest hf _

/-- Where a session is not owned, making room does not change that. -/
theorem owns_makeRoom (h : makeRoom limit id l = .ok (l', ids)) : owns l' id = owns l id := by
  rcases hasRoom_or_full limit id l with hroom | ⟨maximum, hfull⟩
  · rw [makeRoom_of_hasRoom hroom] at h
    cases h
    rfl
  · rw [makeRoom_of_full hfull] at h
    split at h
    · cases h
    · have hl' : (expireOldest _ l).1 = l' := congrArg Prod.fst (Except.ok.inj h)
      rw [hfull.owned, ← hl', Bool.eq_false_iff]
      intro howns
      obtain ⟨s, hs, hid⟩ := owns_iff.1 howns
      have howned : owns l id = true :=
        owns_iff.2 ⟨s, (live_expireOldest_sublist _).subset hs, hid⟩
      exact Bool.false_ne_true (hfull.owned.symm.trans howned)

/-- Room that is made for a principal changes nothing but marks of expiry in the registry. -/
theorem map_all_makeRoom {β : Type} {f : Session → β} {p q : String}
    (hf : ∀ s : Session, f { s with expired := true } = f s)
    (h : makeRoom limit id (r.all p) = .ok (l, ids)) :
    ((r.modify p fun _ => l).all q).map f = (r.all q).map f := by
  rw [SessionRegistry.all_modify]
  split
  · next hpq => rw [map_makeRoom hf h, hpq]
  · rfl

/-- Making room for a principal keeps the registry consistent. -/
theorem consistent_makeRoom {p : String} (hr : r.Consistent)
    (h : makeRoom limit id (r.all p) = .ok (l, ids)) : (r.modify p fun _ => l).Consistent :=
  hr.of_holding rfl fun _ => map_all_makeRoom (fun _ => rfl) h

/-! ## Registration -/

/-- A registration under a limit makes room and then records the session. -/
theorem register_eq_ok
    (h : register (.limited limit valid) r now fresh proven = .ok (r', log)) :
    ∃ l ids, makeRoom limit (proven.sessionId?.getD fresh) (r.all proven.name) = .ok (l, ids) ∧
      r' = (r.modify proven.name fun _ => l).register now (proven.sessionId?.getD fresh)
        proven.name := by
  simp only [register] at h
  split at h
  · cases h
  · next l ids hroom =>
    cases h
    exact ⟨l, ids, hroom, rfl⟩

/-- A session is registered unless there is no room for it and none is to be made. -/
theorem register_isOk : (∃ out, register (.limited limit valid) r now fresh proven = .ok out) ↔
    limit.rejectNew = false ∨
      HasRoom limit (proven.sessionId?.getD fresh) (r.all proven.name) := by
  rw [← makeRoom_isOk]
  constructor
  · rintro ⟨⟨r', log⟩, h⟩
    obtain ⟨l, ids, hroom, -⟩ := register_eq_ok h
    exact ⟨_, hroom⟩
  · rintro ⟨⟨l, ids⟩, hroom⟩
    simp only [register, hroom]
    exact ⟨_, rfl⟩

/-- Registration keeps the registry consistent. -/
theorem consistent_register {c : SessionControl} (hr : r.Consistent)
    (h : c.register r now fresh proven = .ok (r', log)) : r'.Consistent := by
  cases c with
  | unrestricted => cases h; exact hr
  | limited limit valid =>
    obtain ⟨l, ids, hroom, rfl⟩ := register_eq_ok h
    exact (consistent_makeRoom hr hroom).register

end Admission.SessionControl
