import Admission.Proofs.Session.FlatLog

/-!
# The record that a lookup gives

Nothing is merged when a session is recorded, so a principal may have several records of one
identifier, some expired and some not. Such an identifier is looked at in two ways: the admission
asks if any record of it is live (`SessionControl.owns`), a lookup gives the first record
(`SessionRegistry.find?`). They differ as soon as an expired record comes before a live one.

The principal that a lookup names is always the owner of the identifier
(`Consistent.owner_of_find?`). The record is that of the live session if the identifier was recorded
anew each time (`RecordedAnew`), that is, for a principal that had no record of it left. For then
nobody has two records of it (`Single`), which every call preserves. Without that, what the lookup
will say of a login is decided by the first record that its principal had of the identifier before
(`Consistent.find?_registered`).
-/

namespace Admission

variable {r r' : SessionRegistry} {p id i : String} {now : Nat} {l : List Session} {s : Session}

/-! ## Lists of records -/

/-- A record whose identifier nobody else in the list has is found by it. -/
theorem Session.find?_of_count_le_one (h : (l.map Session.id).count s.id ≤ 1) (hs : s ∈ l) :
    l.find? (fun t => t.id == s.id) = some s := by
  induction l with
  | nil => cases hs
  | cons t rest ih =>
    rw [List.map_cons] at h
    by_cases ht : t.id = s.id
    · rw [List.find?_cons_of_pos (by simpa using ht)]
      rcases List.mem_cons.1 hs with rfl | hrest
      · rfl
      · have hpos : 0 < (rest.map Session.id).count s.id :=
          List.count_pos_iff.2 (List.mem_map_of_mem hrest)
        rw [ht, List.count_cons_self] at h
        omega
    · rw [List.find?_cons_of_neg (by simpa using ht)]
      rw [List.count_cons_of_ne ht] at h
      exact ih h ((List.mem_cons.1 hs).resolve_left fun hst => ht (congrArg Session.id hst).symm)

namespace SessionControl

variable {limit : SessionLimit} {l' : List Session} {ids : List String}

/-- Every record of an identifier that is not owned has expired. -/
theorem map_expired_find?_of_not_owned (h : owns l id = false) :
    (l.find? fun s => s.id == id).map Session.expired =
      if id ∈ l.map Session.id then some true else none := by
  cases hfind : l.find? fun s => s.id == id with
  | none =>
    have hmem : id ∉ l.map Session.id := by
      rintro hmem
      obtain ⟨s, hs, hid⟩ := List.mem_map.1 hmem
      exact List.find?_eq_none.1 hfind s hs (beq_iff_eq.2 hid)
    rw [if_neg hmem]
    rfl
  | some s =>
    have hs : s ∈ l := List.mem_of_find?_eq_some hfind
    have hid : s.id = id := by simpa using List.find?_some hfind
    have hexpired : s.expired = true := by
      rw [← Bool.not_eq_false]
      intro hlive
      have howned := owns_iff.2 ⟨s, mem_live.2 ⟨hs, hlive⟩, hid⟩
      exact Bool.false_ne_true (h.symm.trans howned)
    rw [if_pos (hid ▸ List.mem_map_of_mem hs), ← hexpired]
    rfl

/-- Making room for a session leaves the mark of the first record of its identifier as it was. -/
theorem map_expired_find?_makeRoom (h : makeRoom limit id l = .ok (l', ids)) :
    (l'.find? fun s => s.id == id).map Session.expired =
      (l.find? fun s => s.id == id).map Session.expired := by
  rcases hasRoom_or_full limit id l with hroom | ⟨maximum, hfull⟩
  · rw [makeRoom_of_hasRoom hroom] at h
    cases h
    rfl
  · rw [map_expired_find?_of_not_owned hfull.owned,
      map_expired_find?_of_not_owned ((owns_makeRoom h).trans hfull.owned),
      map_makeRoom (fun _ => rfl) h]

end SessionControl

namespace SessionRegistry

/-! ## One lookup -/

/-- An identifier is looked up among the records of its owner. -/
theorem find?_of_owner (h : r.owners[id]? = some p) :
    r.find? id = (r.all p).find? fun s => s.id == id := by
  rw [find?, h]

/-- After a session was recorded the lookup gives the record that its principal had of the
identifier first, and the new one if there was none. -/
theorem find?_register : (r.register now id p).find? id =
    some (((r.all p).find? fun s => s.id == id).getD ⟨p, id, now, false⟩) := by
  rw [find?_of_owner (owners_register.trans (if_pos rfl)), all_register, if_pos rfl,
    List.find?_append, List.find?_singleton, if_pos (beq_self_eq_true id)]
  cases (r.all p).find? fun s => s.id == id <;> rfl

namespace Consistent

/-- The lookup names the owner of the identifier. -/
theorem owner_of_find? (h : r.Consistent) (hs : r.find? id = some s) :
    r.owners[id]? = some s.principal := by
  unfold find? at hs
  cases ho : r.owners[id]? with
  | none => rw [ho] at hs; cases hs
  | some owner =>
    rw [ho] at hs
    exact congrArg some (h.principal (List.mem_of_find?_eq_some hs)).symm

/-- Of an identifier with a record the lookup gives the first one, and so names its principal. -/
theorem find?_of_mem (h : r.Consistent) (hs : s ∈ r.all p) :
    ∃ first, r.find? s.id = some first ∧ first.principal = p ∧
      (r.all p).find? (fun t => t.id == s.id) = some first := by
  obtain ⟨first, hfirst⟩ : ∃ first, (r.all p).find? (fun t => t.id == s.id) = some first :=
    Option.isSome_iff_exists.1 (List.find?_isSome.2 ⟨s, hs, beq_self_eq_true s.id⟩)
  exact ⟨first, (find?_of_owner (h.owner_of_mem hs)).trans hfirst,
    h.principal (List.mem_of_find?_eq_some hfirst), hfirst⟩

/-- After a login the lookup names its principal. It shows an expired session exactly if the first
record that the principal already had of the identifier has expired. -/
theorem find?_registered {limit : SessionLimit} {valid : limit.validate = .ok ()} {fresh : String}
    {proven : Token} {log : List LogRecord} (h : r.Consistent)
    (hok : SessionControl.register (.limited limit valid) r now fresh proven = .ok (r', log)) :
    ∃ t, r'.find? (proven.sessionId?.getD fresh) = some t ∧ t.principal = proven.name ∧
      (t.expired = true ↔ ∃ first, (r.all proven.name).find?
        (fun s => s.id == proven.sessionId?.getD fresh) = some first ∧ first.expired = true) := by
  have hcons : r'.Consistent := SessionControl.consistent_register h hok
  obtain ⟨l, ids, hroom, rfl⟩ := SessionControl.register_eq_ok hok
  have hfind : ((r.modify proven.name fun _ => l).register now (proven.sessionId?.getD fresh)
      proven.name).find? (proven.sessionId?.getD fresh) = _ := find?_register
  have hown := hcons.owner_of_find? hfind
  rw [owners_register, if_pos rfl] at hown
  refine ⟨_, hfind, (Option.some.inj hown).symm, ?_⟩
  rw [all_modify, if_pos rfl, ← Option.map_eq_some_iff,
    ← SessionControl.map_expired_find?_makeRoom hroom]
  cases l.find? fun s => s.id == proven.sessionId?.getD fresh <;> simp

end Consistent

/-! ## Runs in which nothing is recorded twice -/

end SessionRegistry

namespace RegistryCall

/-- A call does not record an identifier for a principal that has a record of it already. -/
def RecordsAnew (id : String) (r : SessionRegistry) : RegistryCall → Prop
  | record _ i p => i = id → r.owners[id]? ≠ some p
  | register (.limited ..) _ fresh proven =>
    proven.sessionId?.getD fresh = id → r.owners[id]? ≠ some proven.name
  | register .unrestricted .. | check .. | refresh .. | expire _ | remove _ => True

end RegistryCall

namespace SessionRegistry

/-- In a run an identifier is never recorded for a principal that has a record of it already. -/
def RecordedAnew (id : String) : List RegistryCall → SessionRegistry → Prop
  | [], _ => True
  | call :: rest, r => call.RecordsAnew id r ∧ RecordedAnew id rest (call.step r)

/-- Nobody has two records of an identifier. -/
def Single (id : String) (r : SessionRegistry) : Prop :=
  ∀ p, ((r.all p).map Session.id).count id ≤ 1

namespace Single

/-- The empty registry has no record twice. -/
theorem empty : Single id .empty := by
  intro p
  rw [all_empty]
  exact Nat.zero_le _

/-- A change that gives nobody a new record leaves no identifier with two. -/
theorem of_sublist (h : Single id r)
    (hsub : ∀ p, ((r'.all p).map Session.id).Sublist ((r.all p).map Session.id)) :
    Single id r' :=
  fun p => Nat.le_trans ((hsub p).count_le id) (h p)

/-- A change that leaves everybody the same identifiers makes none double. -/
theorem of_ids (h : Single id r)
    (hids : ∀ p, (r'.all p).map Session.id = (r.all p).map Session.id) : Single id r' :=
  fun p => hids p ▸ h p

/-- So a change of records does not. -/
theorem update {f : Session → Session} (h : Single id r) (hf : ∀ s, (f s).id = s.id) :
    Single id (r.update i f) := by
  refine h.of_ids fun p => ?_
  rw [all_update]
  split
  · rw [List.map_map]
    refine List.map_congr_left fun s _ => ?_
    simp only [Function.comp_apply]
    split
    · exact hf s
    · rfl
  · rfl

/-- Nor does deletion. -/
theorem remove (h : Single id r) : Single id (r.remove i) := by
  refine h.of_sublist fun p => ?_
  rw [all_remove]
  split
  · exact List.filter_sublist.map _
  · exact .refl _

/-- A new record may be added if its principal had none of its identifier. -/
theorem register (h : Single id r) (hcons : r.Consistent)
    (hnew : i = id → r.owners[id]? ≠ some p) : Single id (r.register now i p) := by
  intro q
  rw [hcons.all_register]
  split
  · next hpq =>
    subst hpq
    rw [List.map_append, List.count_append]
    by_cases hi : i = id
    · have hnone : ((r.all p).map Session.id).count id = 0 := by
        refine List.count_eq_zero.2 fun hmem => ?_
        obtain ⟨s, hs, hid⟩ := List.mem_map.1 hmem
        exact hcons.id_ne_of_mem (hnew hi) hs hid
      rw [hnone, hi]
      simp
    · simpa [hi] using h p
  · exact Nat.le_trans ((List.filter_sublist.map _).count_le id) (h q)

/-- A registration under a limit does not either, if it records the identifier anew. -/
theorem registered {limit : SessionLimit} {valid : limit.validate = .ok ()} {fresh : String}
    {proven : Token} (h : Single id r) (hcons : r.Consistent)
    (hnew : proven.sessionId?.getD fresh = id → r.owners[id]? ≠ some proven.name) :
    Single id (SessionControl.registered (.limited limit valid) r now fresh proven) := by
  unfold SessionControl.registered
  split
  · next hok =>
    obtain ⟨l, ids, hroom, rfl⟩ := SessionControl.register_eq_ok hok
    have hroomed : Single id (r.modify proven.name fun _ => l) :=
      h.of_ids fun _ => SessionControl.map_all_makeRoom (fun _ => rfl) hroom
    exact hroomed.register (SessionControl.consistent_makeRoom hcons hroom) hnew
  · exact h

/-- Every call preserves it that records the identifier anew. -/
theorem step (h : Single id r) (hcons : r.Consistent) {call : RegistryCall}
    (hcall : call.RecordsAnew id r) : Single id (call.step r) := by
  cases call with
  | record now i p => exact h.register hcons hcall
  | check control request => exact h
  | register control now fresh proven =>
    cases control with
    | unrestricted => exact h
    | limited limit valid => exact h.registered hcons hcall
  | refresh now i => exact h.update fun _ => rfl
  | expire i => exact h.update fun _ => rfl
  | remove i => exact h.remove

/-- A run does not, if it records the identifier anew each time. -/
theorem run {calls : List RegistryCall} (h : Single id r) (hcons : r.Consistent)
    (hcalls : RecordedAnew id calls r) : Single id (run calls r) := by
  induction calls generalizing r with
  | nil => exact h
  | cons call rest ih => exact ih (h.step hcons hcalls.1) (hcons.step call) hcalls.2

/-- The only record of an identifier is found by it. -/
theorem find?_eq (h : Single s.id r) (hcons : r.Consistent) (hs : s ∈ r.all p) :
    r.find? s.id = some s :=
  (find?_of_owner (hcons.owner_of_mem hs)).trans (Session.find?_of_count_le_one (h p) hs)

end Single

/-! ## All runs -/

/-- **When a live session is reported live.** After any run, the identifier of a live session is
looked up to a session of the same principal, namely to its first record of that identifier. This is
the live one itself if the identifier was recorded anew each time. Of a login that was just
registered an expired session is reported exactly if its principal was already listed under the
identifier and the first of these records has expired. -/
theorem lookup_run (calls : List RegistryCall) :
    let r := run calls .empty
    (∀ p, ∀ s ∈ r.live p, ∃ first, r.find? s.id = some first ∧ first.principal = p ∧
      (r.all p).find? (fun t => t.id == s.id) = some first) ∧
    (∀ p, ∀ s ∈ r.live p, RecordedAnew s.id calls .empty → r.find? s.id = some s) ∧
    ∀ limit valid now fresh proven r' log,
      SessionControl.register (.limited limit valid) r now fresh proven = .ok (r', log) →
      ∃ t, r'.find? (proven.sessionId?.getD fresh) = some t ∧ t.principal = proven.name ∧
        (t.expired = true ↔ ∃ first, (r.all proven.name).find?
          (fun s => s.id == proven.sessionId?.getD fresh) = some first ∧ first.expired = true) := by
  intro r
  have hcons : r.Consistent := consistent_run calls
  refine ⟨?_, ?_, ?_⟩
  · intro p s hs
    exact hcons.find?_of_mem (List.mem_filter.1 hs).1
  · intro p s hs hanew
    have hsingle : Single s.id r := Single.empty.run .empty hanew
    exact hsingle.find?_eq hcons (List.mem_filter.1 hs).1
  · intro limit valid now fresh proven r' log hok
    exact hcons.find?_registered hok

/-- A user whose session was expired logs in again, after the expired session was removed. Then
somebody else logs in. -/
theorem lookup_run_returning :
    let control : SessionControl := .limited ⟨some 1, true⟩ rfl
    let login := (Token.usernamePassword "alice" "pw").withDetails { sessionId := some "a" }
    let other := (Token.usernamePassword "bob" "pw").withDetails { sessionId := some "b" }
    let register now : RegistryCall := .register control now "" login
    let r := run [register 0, .expire "a", .remove "a", register 1] .empty
    (∃ s ∈ r.live "alice", s.id = "a" ∧ r.find? "a" = some s) ∧
      ∃ r' log t, control.register r 2 "" other = .ok (r', log) ∧ r'.find? "b" = some t ∧
        t.principal = "bob" := by
  intro control login other register r
  let s : Session := ⟨"alice", "a", 1, false⟩
  have hmirrors : Mirrors r [s] := Mirrors.empty.run _
  have hlive : s ∈ r.live "alice" := by
    show _ ∈ r.list "alice" false
    rw [hmirrors.list]
    exact .head _
  have hanew : RecordedAnew "a" [register 0, .expire "a", .remove "a", register 1] .empty := by
    simp [RecordedAnew, RegistryCall.RecordsAnew, RegistryCall.step, register, control,
      owners_remove]
  have hroom : SessionControl.HasRoom ⟨some 1, true⟩ "b" (r.all "bob") := by
    rw [hmirrors.all]
    rintro _ ⟨⟩
    exact .inr Nat.zero_lt_one
  obtain ⟨⟨r', log⟩, hok⟩ : ∃ out, control.register r 2 "" other = .ok out :=
    SessionControl.register_isOk.2 (.inr hroom)
  obtain ⟨-, hfind, hlogin⟩ := lookup_run [register 0, .expire "a", .remove "a", register 1]
  obtain ⟨t, ht, hname, -⟩ := hlogin _ _ 2 "" other r' log hok
  exact ⟨⟨s, hlive, rfl, hfind "alice" s hlive hanew⟩, r', log, t, hok, ht, hname⟩

/-- A user whose session was expired logs in again, while the expired session is still listed. -/
theorem lookup_expired :
    let login := (Token.usernamePassword "alice" "pw").withDetails { sessionId := some "a" }
    let register now : RegistryCall := .register (.limited ⟨some 1, true⟩ rfl) now "" login
    let r := run [register 0, .expire "a", register 1] .empty
    (∃ s ∈ r.live "alice", s.id = "a") ∧ ∃ t, r.find? "a" = some t ∧ t.expired = true := by
  intro login register r
  have hmirrors : Mirrors r [⟨"alice", "a", 0, true⟩, ⟨"alice", "a", 1, false⟩] :=
    Mirrors.empty.run _
  have hlive : ⟨"alice", "a", 1, false⟩ ∈ r.live "alice" := by
    show _ ∈ r.list "alice" false
    rw [hmirrors.list]
    exact .head _
  have hfound : r.find? "a" = some ⟨"alice", "a", 0, true⟩ := hmirrors.find?.trans rfl
  exact ⟨⟨_, hlive, rfl⟩, _, hfound, rfl⟩

end SessionRegistry

end Admission
