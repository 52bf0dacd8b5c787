import Mathlib.Data.List.Find
import Admission.Proofs.Session.Run

/-!
# The registry as one list

A registry keeps its records by principal, with a second table that leads from an identifier to its
owner. A `SessionLog` is the plain account of the same: one list of records in order of
registration, in which everything is found by looking at each record. This module states every
query and every call on the list and shows that after any run the registry answers as the list does.

What carries the proof is `Mirrors`: the registry is consistent and lists for every principal what
the list has of it. By consistency a call that reaches the records through the owner's table does to
them what the same call does to the records of everybody, and that is what it does to the list.
-/

namespace Admission

/-- All records in order of registration. -/
abbrev SessionLog := List Session

namespace SessionLog

/-! ## Queries -/

/-- The records of a principal. -/
def of (log : SessionLog) (principal : String) : List Session :=
  log.filter fun s => s.principal == principal

/-- The records of a principal, with or without expired ones. -/
def list (log : SessionLog) (principal : String) (includeExpired : Bool) : List Session :=
  log.filter fun s => s.principal == principal && (includeExpired || !s.expired)

/-- The first record of an identifier. -/
def first? (log : SessionLog) (id : String) : Option Session :=
  log.find? fun s => s.id == id

/-! ## Calls -/

/-- Records a live session, after the records of its identifier that others hold are deleted. -/
def record (log : SessionLog) (now : Nat) (id principal : String) : SessionLog :=
  (log.filter fun s => !(s.id == id && s.principal != principal)) ++ [⟨principal, id, now, false⟩]

/-- Changes all records of an identifier. -/
def update (log : SessionLog) (id : String) (f : Session → Session) : SessionLog :=
  log.map fun s => if s.id == id then f s else s

/-- Deletes all records of an identifier. -/
def remove (log : SessionLog) (id : String) : SessionLog :=
  log.filter fun s => s.id != id

/-- Expires the first live record of a principal whose last request was at a time. -/
def expireFirst (principal : String) (time : Nat) : SessionLog → SessionLog
  | [] => []
  | s :: rest =>
    if s.principal == principal && SessionControl.isLiveAt time s then
      { s with expired := true } :: rest
    else s :: expireFirst principal time rest

/-- Expires the least recently used live record of a principal, `count` times over. -/
def expireOldest (principal : String) : (count : Nat) → SessionLog → SessionLog
  | 0, log => log
  | count + 1, log =>
    match SessionControl.oldest? (log.of principal) with
    | none => log
    | some time => expireOldest principal count (log.expireFirst principal time)

/-- Registers a session under a limit: where the principal has as many live records as are allowed
and none of the identifier, nothing is recorded, or the least recently used records expire. -/
def register (log : SessionLog) (limit : SessionLimit) (now : Nat) (id principal : String) :
    SessionLog :=
  match limit.maximum with
  | none => log.record now id principal
  | some maximum =>
    let live := log.list principal false
    if live.any (fun s => s.id == id) || live.length < maximum.toNat then
      log.record now id principal
    else if limit.rejectNew then log
    else
      (log.expireOldest principal (live.length + 1 - maximum.toNat)).record now id principal

/-- What a call does to the list. -/
def step (log : SessionLog) : RegistryCall → SessionLog
  | .record now id principal => log.record now id principal
  | .check .. => log
  | .register .unrestricted .. => log
  | .register (.limited limit _) now fresh proven =>
    log.register limit now (proven.sessionId?.getD fresh) proven.name
  | .refresh now id => log.update id fun s => { s with lastRequest := now }
  | .expire id => log.update id fun s => { s with expired := true }
  | .remove id => log.remove id

/-- Does one call after the other. -/
def run (calls : List RegistryCall) (log : SessionLog) : SessionLog :=
  calls.foldl step log

/-! ## The records of one principal -/

variable {log : SessionLog} {p q id : String} {now time : Nat} {s : Session}

/-- A principal's records are those in the list that name it. -/
theorem mem_of : s ∈ log.of p ↔ s ∈ log ∧ s.principal = p := by
  simp [of]

/-- Listing looks at the records of one principal only. -/
theorem list_eq (includeExpired : Bool) :
    log.list p includeExpired = (log.of p).filter fun s => includeExpired || !s.expired := by
  simp only [list, of, List.filter_filter, Bool.and_comm]

/-- Without expired records, the live ones are listed. -/
theorem list_false : log.list p false = SessionControl.live (log.of p) := by
  simp [list_eq, SessionControl.live]

/-- To leave out records is to leave them out for each principal. -/
theorem of_filter (f : Session → Bool) : of (log.filter f) p = (log.of p).filter f := by
  simp only [of, List.filter_filter, Bool.and_comm]

/-- A change of the records of an identifier, to which principal they belong apart, changes each
principal's records of it. -/
theorem of_update {f : Session → Session} (hf : ∀ s, (f s).principal = s.principal) :
    (log.update id f).of p = (log.of p).map fun s => if s.id == id then f s else s := by
  unfold update of
  rw [List.filter_map]
  refine congrArg _ (List.filter_congr fun s _ => ?_)
  simp only [Function.comp_apply]
  split
  · rw [hf]
  · rfl

/-- Deleting the records of an identifier deletes each principal's records of it. -/
theorem of_remove : (log.remove id).of p = (log.of p).filter fun s => s.id != id :=
  of_filter _

/-- A record counts for its own principal. -/
theorem of_cons : of (s :: log) q = if s.principal = q then s :: of log q else of log q := by
  simp [of, List.filter_cons]

/-- A registration adds a record for its principal and deletes those of its identifier for anybody
else. -/
theorem of_record : (log.record now id p).of q =
    if p = q then log.of q ++ [⟨p, id, now, false⟩]
    else (log.of q).filter fun s => s.id != id := by
  have happend : (log.record now id p).of q =
      (log.of q).filter (fun s => !(s.id == id && s.principal != p)) ++
        of [⟨p, id, now, false⟩] q := by
    rw [← of_filter]
    exact List.filter_append ..
  rw [happend, of_cons]
  split
  · next hpq =>
    subst hpq
    refine congrArg (· ++ _) (List.filter_eq_self.2 fun s hs => ?_)
    simp [(mem_of.1 hs).2]
  · next hpq =>
    refine (List.append_nil _).trans (List.filter_congr fun s hs => ?_)
    have hsp : s.principal ≠ p := (mem_of.1 hs).2 ▸ Ne.symm hpq
    simp [hsp, bne]

/-- Expiry of one record in the list is expiry of one record of the principal. -/
theorem of_expireFirst_self : (log.expireFirst p time).of p =
    SessionControl.expireFirst time (log.of p) := by
  induction log with
  | nil => rfl
  | cons s rest ih =>
    unfold expireFirst
    by_cases hp : s.principal = p
    · by_cases hl : SessionControl.isLiveAt time s = true
      · simp [hp, hl, of_cons, SessionControl.expireFirst]
      · simp [hp, hl, of_cons, SessionControl.expireFirst, ih]
    · simp [hp, of_cons, ih]

/-- Nobody else's records expire. -/
theorem of_expireFirst_of_ne (hpq : p ≠ q) : (log.expireFirst p time).of q = log.of q := by
  induction log with
  | nil => rfl
  | cons s rest ih =>
    unfold expireFirst
    split
    · next hs =>
      have hp : s.principal = p := by simpa using (Bool.and_eq_true_iff.1 hs).1
      simp [of_cons, hp, hpq]
    · simp [of_cons, ih]

/-- Expiry in the list is expiry among the records of the principal. -/
theorem of_expireOldest_self (count : Nat) : (log.expireOldest p count).of p =
    (SessionControl.expireOldest count (log.of p)).1 := by
  induction count generalizing log with
  | zero => rfl
  | succ count ih =>
    unfold expireOldest SessionControl.expireOldest
    cases SessionControl.oldest? (log.of p) with
    | none => rfl
    | some time => exact ih.trans (by rw [of_expireFirst_self])

/-- However many records of one principal expire, nobody else's do. -/
theorem of_expireOldest_of_ne (hpq : p ≠ q) (count : Nat) :
    (log.expireOldest p count).of q = log.of q := by
  induction count generalizing log with
  | zero => rfl
  | succ count ih =>
    unfold expireOldest
    split
    · rfl
    · exact ih.trans (of_expireFirst_of_ne hpq)

/-! ## Registration under a limit -/

variable {limit : SessionLimit}

/-- Where there is room, registering under a limit is recording. -/
theorem register_of_hasRoom (h : SessionControl.HasRoom limit id (log.of p)) :
    log.register limit now id p = log.record now id p := by
  unfold register
  cases hm : limit.maximum with
  | none => rfl
  | some maximum =>
    have hroom := h maximum hm
    simp only [list_false, SessionControl.any_live, Bool.or_eq_true, decide_eq_true_eq,
      if_pos hroom]

/-- Where there is none, nothing is recorded, or so many of the least recently used records expire
first that one more is within the limit. -/
theorem register_of_full {maximum : UInt64}
    (h : SessionControl.Full limit id (log.of p) maximum) :
    log.register limit now id p =
      if limit.rejectNew then log
      else (log.expireOldest p
        ((SessionControl.live (log.of p)).length + 1 - maximum.toNat)).record now id p := by
  have hlt := Nat.not_lt.2 h.reached
  simp [register, h.limited, list_false, SessionControl.any_live, h.owned, hlt]

end SessionLog

namespace SessionRegistry

/-! ## The registry and the list -/

/-- The registry is consistent and lists for every principal what the list has of it. -/
structure Mirrors (r : SessionRegistry) (log : SessionLog) : Prop where
  consistent : r.Consistent
  all : ∀ p, r.all p = log.of p

namespace Mirrors

variable {r : SessionRegistry} {log : SessionLog} {p id : String} {now : Nat}

/-- The empty registry mirrors the empty list. -/
theorem empty : Mirrors .empty [] where
  consistent := .empty
  all p := all_empty p

/-! ### Queries -/

/-- The registry lists the records that the list has. -/
theorem list (h : Mirrors r log) (includeExpired : Bool) :
    r.list p includeExpired = log.list p includeExpired := by
  rw [SessionLog.list_eq, SessionRegistry.list, live, h.all]
  cases includeExpired with
  | true => exact (List.filter_eq_self.2 fun _ _ => rfl).symm
  | false => rfl

/-- Whoever holds a record in the list owns its identifier. -/
theorem owner_of_mem (h : Mirrors r log) {s : Session} (hs : s ∈ log) :
    r.owners[s.id]? = some s.principal := by
  refine h.consistent.owner_of_mem ?_
  rw [h.all]
  exact SessionLog.mem_of.2 ⟨hs, rfl⟩

/-- Looking up an identifier through its owner finds the first record of it in the list. -/
theorem find? (h : Mirrors r log) : r.find? id = log.first? id := by
  unfold SessionRegistry.find? SessionLog.first?
  cases ho : r.owners[id]? with
  | none =>
    refine (List.find?_eq_none.2 fun s hs hid => ?_).symm
    have := h.owner_of_mem hs
    rw [beq_iff_eq.1 hid, ho] at this
    cases this
  | some owner =>
    show (r.all owner).find? _ = _
    rw [h.all, SessionLog.of, List.find?_filter]
    -- Every record of the identifier is the owner's, so the filter drops none of them.
    refine List.find?_congr fun s hs => ?_
    by_cases hid : s.id = id
    · have hown := h.owner_of_mem hs
      rw [hid, ho] at hown
      simp [Option.some.inj hown, hid]
    · simp [hid]

/-- The registry shows the principals that occur in the list. -/
theorem mem_principals (h : Mirrors r log) : p ∈ r.principals ↔ ∃ s ∈ log, s.principal = p := by
  rw [SessionRegistry.mem_principals, h.all]
  simp only [ne_eq, List.eq_nil_iff_forall_not_mem, not_forall, not_not, SessionLog.mem_of]

/-! ### Calls -/

/-- A registration does to the registry what it does to the list. -/
theorem record (h : Mirrors r log) : Mirrors (r.register now id p) (log.record now id p) where
  consistent := h.consistent.register
  all q := by rw [h.consistent.all_register, SessionLog.of_record, h.all]

/-- So does a change of records that leaves principal and identifier alone. -/
theorem update (h : Mirrors r log) {f : Session → Session}
    (hf : ∀ s, (f s).holding = s.holding) : Mirrors (r.update id f) (log.update id f) where
  consistent := h.consistent.update hf
  all q := by
    rw [h.consistent.all_update, h.all, SessionLog.of_update fun s => congrArg Prod.fst (hf s)]

/-- So does deletion: the owner's records of the identifier are all there are. -/
theorem remove (h : Mirrors r log) : Mirrors (r.remove id) (log.remove id) where
  consistent := h.consistent.remove
  all q := by rw [h.consistent.all_remove, SessionLog.of_remove, h.all]

/-- New marks for the sessions of one principal, in the registry and in the list. -/
theorem modify (h : Mirrors r log) {l : List Session} {log' : SessionLog}
    (hl : l.map Session.holding = (r.all p).map Session.holding)
    (hself : log'.of p = l) (hother : ∀ q, p ≠ q → log'.of q = log.of q) :
    Mirrors (r.modify p fun _ => l) log' := by
  have hall : ∀ q, (r.modify p fun _ => l).all q = if p = q then l else r.all q :=
    fun _ => all_modify _
  refine ⟨h.consistent.of_holding rfl fun q => ?_, fun q => ?_⟩
  · rw [hall]
    split
    · next hq => exact hq ▸ hl
    · rfl
  · rw [hall]
    split
    · next hq => exact hq ▸ hself.symm
    · next hq => exact (h.all q).trans (hother q hq).symm

/-- So does a registration under a limit, whether or not there is room. -/
theorem registered (h : Mirrors r log) (limit : SessionLimit) (valid : limit.validate = .ok ())
    (fresh : String) (proven : Token) :
    Mirrors (SessionControl.registered (.limited limit valid) r now fresh proven)
      (log.register limit now (proven.sessionId?.getD fresh) proven.name) := by
  unfold SessionControl.registered SessionControl.register
  simp only [h.all]
  rcases SessionControl.hasRoom_or_full limit (proven.sessionId?.getD fresh)
    (log.of proven.name) with hroom | ⟨maximum, hfull⟩
  · rw [SessionControl.makeRoom_of_hasRoom hroom, SessionLog.register_of_hasRoom hroom]
    exact (h.modify (by rw [h.all]) rfl fun _ _ => rfl).record
  · rw [SessionControl.makeRoom_of_full hfull, SessionLog.register_of_full hfull]
    cases limit.rejectNew with
    | true => exact h
    | false =>
      refine (h.modify ?_ (SessionLog.of_expireOldest_self _) fun _ hq =>
        SessionLog.of_expireOldest_of_ne hq _).record
      rw [h.all]
      exact SessionControl.map_expireOldest (fun _ => rfl) _

/-- A call does to the registry what it does to the list. -/
theorem step (h : Mirrors r log) (call : RegistryCall) :
    Mirrors (call.step r) (log.step call) := by
  cases call with
  | record now id principal => exact h.record
  | check control request => exact h
  | register control now fresh proven =>
    cases control with
    | unrestricted => exact h
    | limited limit valid => exact h.registered limit valid fresh proven
  | refresh now id => exact h.update fun _ => rfl
  | expire id => exact h.update fun _ => rfl
  | remove id => exact h.remove

/-- So does a whole run. -/
theorem run (h : Mirrors r log) (calls : List RegistryCall) :
    Mirrors (r.run calls) (log.run calls) := by
  induction calls generalizing r log with
  | nil => exact h
  | cons call rest ih => exact ih (h.step call)

end Mirrors

/-- **The registry behaves as one list of records.** After any run every query is answered as by
looking through the list; every record is indexed under the principal who lists it, every indexed
identifier has a record, and a removed identifier has none. -/
theorem run_answers (calls : List RegistryCall) :
    let r := run calls .empty
    let log := SessionLog.run calls []
    (∀ p includeExpired, r.list p includeExpired = log.list p includeExpired) ∧
    (∀ p, r.activeCount p = (log.list p false).length) ∧
    (∀ id, r.find? id = log.first? id) ∧
    (∀ p, p ∈ r.principals ↔ ∃ s ∈ log, s.principal = p) ∧
    (∀ p, ∀ s ∈ r.all p, r.owners[s.id]? = some p) ∧
    (∀ id p, r.owners[id]? = some p → ∃ s ∈ r.all p, s.id = id) ∧
    ∀ id p, ∀ s ∈ (r.remove id).all p, s.id ≠ id := by
  intro r log
  have h : Mirrors r log := Mirrors.empty.run calls
  refine ⟨fun p b => h.list b, fun p => ?_, fun id => h.find?, fun p => h.mem_principals,
    fun p s hs => h.consistent.owner_of_mem hs, fun id p => h.consistent.owner.1, ?_⟩
  · exact congrArg List.length (h.list false)
  · intro id p s hs
    rw [h.consistent.all_remove] at hs
    exact bne_iff_ne.1 (List.mem_filter.1 hs).2

end SessionRegistry

end Admission
