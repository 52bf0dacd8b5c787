import Mathlib.Data.Finset.Card
import Admission.Proofs.Session.Run

/-!
# The limit on live sessions

Under a limit with a maximum no principal ever has more live sessions than that (`Within`), however
checks and registrations interleave and whatever else happens to the sessions meanwhile.

What is bounded is the number of different identifiers (`liveIds`), not of records: a login from a
session that the principal owns is recorded once more and adds no identifier. Registration looks at
the sessions again and does not rely on an earlier check, so the bound needs no assumption on the
order of the calls. Every other call only takes identifiers away.
-/

namespace Admission

/-- A valid maximum leaves room for a session. -/
theorem SessionLimit.maximum_pos {limit : SessionLimit} (valid : limit.validate = .ok ())
    {maximum : UInt64} (hm : limit.maximum = some maximum) : 0 < maximum.toNat := by
  refine Nat.pos_of_ne_zero fun h0 => ?_
  exact validate_eq_ok.1 valid (hm.trans (congrArg some (UInt64.toNat_inj.1 h0)))

namespace SessionControl

variable {limit : SessionLimit} {valid : limit.validate = .ok ()} {id p fresh : String}
  {l l' : List Session} {ids : List String} {now : Nat} {maximum : UInt64}

/-- The identifiers of the live sessions in a list. -/
def liveIds (l : List Session) : Finset String :=
  ((live l).map Session.id).toFinset

/-- An identifier is live if there is a live record of it. -/
theorem mem_liveIds : id ∈ liveIds l ↔ ∃ s ∈ live l, s.id = id := by
  simp [liveIds]

/-- There are at most as many live identifiers as live records. -/
theorem card_liveIds_le : (liveIds l).card ≤ (live l).length :=
  (List.toFinset_card_le _).trans_eq (List.length_map ..)

/-- A new record adds its identifier. -/
theorem liveIds_append : liveIds (l ++ [⟨p, id, now, false⟩]) = insert id (liveIds l) := by
  have h : live (l ++ [⟨p, id, now, false⟩]) = live l ++ [⟨p, id, now, false⟩] := by
    simp [live]
  rw [liveIds, h, List.map_append, List.toFinset_append, Finset.union_comm]
  rfl

/-- Records that are left out make no identifier live. -/
theorem liveIds_filter_subset (f : Session → Bool) : liveIds (l.filter f) ⊆ liveIds l := by
  intro i hi
  obtain ⟨s, hs, hsi⟩ := mem_liveIds.1 hi
  obtain ⟨hmem, hlive⟩ := mem_live.1 hs
  exact mem_liveIds.2 ⟨s, mem_live.2 ⟨(List.mem_filter.1 hmem).1, hlive⟩, hsi⟩

/-- A change that keeps identifiers and revives nothing adds no live identifier. -/
theorem liveIds_map_subset {f : Session → Session} (hid : ∀ s, (f s).id = s.id)
    (hexp : ∀ s, (f s).expired = false → s.expired = false) : liveIds (l.map f) ⊆ liveIds l := by
  intro i hi
  obtain ⟨t, ht, rfl⟩ := mem_liveIds.1 hi
  obtain ⟨hmem, hlive⟩ := mem_live.1 ht
  obtain ⟨s, hs, rfl⟩ := List.mem_map.1 hmem
  exact mem_liveIds.2 ⟨s, mem_live.2 ⟨hs, hexp s hlive⟩, (hid s).symm⟩

/-- After room was made, one more identifier keeps within the maximum. -/
theorem card_insert_makeRoom (valid : limit.validate = .ok ())
    (hm : limit.maximum = some maximum) (hl : (liveIds l).card ≤ maximum.toNat)
    (h : makeRoom limit id l = .ok (l', ids)) :
    (insert id (liveIds l')).card ≤ maximum.toNat := by
  have hpos := SessionLimit.maximum_pos valid hm
  rcases hasRoom_or_full limit id l with hroom | ⟨_, hfull⟩
  · rw [makeRoom_of_hasRoom hroom] at h
    cases h
    rcases hroom maximum hm with hown | hlt
    · rwa [Finset.insert_eq_self.2 (mem_liveIds.2 (owns_iff.1 hown))]
    · calc (insert id (liveIds l)).card
        _ ≤ (liveIds l).card + 1 := Finset.card_insert_le ..
        _ ≤ (live l).length + 1 := Nat.succ_le_succ card_liveIds_le
        _ ≤ maximum.toNat := hlt
  · cases hm.symm.trans hfull.limited
    rw [makeRoom_of_full hfull] at h
    split at h
    · cases h
    · have hl' : (expireOldest _ l).1 = l' := congrArg Prod.fst (Except.ok.inj h)
      have hlen := length_live_expireOldest (l := l) ((live l).length + 1 - maximum.toNat)
      have hreached := hfull.reached
      calc (insert id (liveIds l')).card
        _ ≤ (liveIds l').card + 1 := Finset.card_insert_le ..
        _ ≤ (live l').length + 1 := Nat.succ_le_succ card_liveIds_le
        _ ≤ maximum.toNat := by rw [← hl', hlen]; omega

end SessionControl

namespace SessionRegistry

open SessionControl (liveIds)

variable {r : SessionRegistry} {maximum now : Nat} {id p : String}

/-- No principal has more live identifiers than the maximum. -/
def Within (maximum : Nat) (r : SessionRegistry) : Prop :=
  ∀ p, (liveIds (r.all p)).card ≤ maximum

/-- The empty registry is within every limit. -/
theorem Within.empty : Within maximum .empty := by
  intro p
  rw [all_empty]
  exact Nat.zero_le _

/-- A change that adds no live identifier to anybody keeps within the maximum. -/
theorem Within.of_subset {r' : SessionRegistry} (h : Within maximum r)
    (hsub : ∀ p, liveIds (r'.all p) ⊆ liveIds (r.all p)) : Within maximum r' :=
  fun p => (Finset.card_le_card (hsub p)).trans (h p)

/-- A change that makes no record live, nor changes an identifier, keeps the registry within the
limit. -/
theorem Within.update (h : Within maximum r) {f : Session → Session} (hid : ∀ s, (f s).id = s.id)
    (hexp : ∀ s, (f s).expired = false → s.expired = false) : Within maximum (r.update id f) := by
  refine h.of_subset fun p => ?_
  rw [all_update]
  split
  · refine SessionControl.liveIds_map_subset (fun s => ?_) fun s => ?_
    · split
      · exact hid s
      · rfl
    · split
      · exact hexp s
      · exact fun hs => hs
  · exact subset_rfl

/-- So does deletion. -/
theorem Within.remove (h : Within maximum r) : Within maximum (r.remove id) := by
  refine h.of_subset fun p => ?_
  rw [all_remove]
  split
  · exact SessionControl.liveIds_filter_subset _
  · exact subset_rfl

/-- Recording a session keeps within the maximum if there is room for its identifier. -/
theorem Within.record (h : Within maximum r)
    (hroom : (insert id (liveIds (r.all p))).card ≤ maximum) :
    Within maximum (r.register now id p) := by
  intro q
  rw [all_register]
  split
  · next hq => rwa [SessionControl.liveIds_append, ← hq]
  · split
    · exact (Finset.card_le_card (SessionControl.liveIds_filter_subset _)).trans (h q)
    · exact h q

/-- Registration under the limit keeps within its maximum, whatever was checked before. -/
theorem Within.registered {limit : SessionLimit} {valid : limit.validate = .ok ()}
    {maximum : UInt64} (hm : limit.maximum = some maximum) (h : Within maximum.toNat r)
    (fresh : String) (proven : Token) :
    Within maximum.toNat (SessionControl.registered (.limited limit valid) r now fresh proven) := by
  unfold SessionControl.registered
  split
  · next hok =>
    obtain ⟨l, ids, hroom, rfl⟩ := SessionControl.register_eq_ok hok
    have hcard := SessionControl.card_insert_makeRoom valid hm (h _) hroom
    refine Within.record (fun q => ?_) ?_
    · rw [all_modify]
      split
      · exact (Finset.card_le_card (Finset.subset_insert ..)).trans hcard
      · exact h q
    · rwa [all_modify, if_pos rfl]
  · exact h

/-- Whatever happens under the limit keeps within its maximum. -/
theorem Within.step {limit : SessionLimit} {valid : limit.validate = .ok ()} {maximum : UInt64}
    (hm : limit.maximum = some maximum) (h : Within maximum.toNat r) {call : RegistryCall}
    (hcall : call.Under (.limited limit valid)) : Within maximum.toNat (call.step r) := by
  cases call with
  | record now id principal => exact hcall.elim
  | check control request => exact h
  | register control now fresh proven =>
    cases hcall
    exact h.registered hm fresh proven
  | refresh now id => exact h.update (fun _ => rfl) fun _ hs => hs
  | expire id => exact h.update (fun _ => rfl) fun _ hs => by cases hs
  | remove id => exact h.remove

/-- **The limit is never exceeded.** In any run under a limit, whichever way new sessions are
treated, no principal has live sessions with more different identifiers than the maximum. -/
theorem card_liveIds_run {limit : SessionLimit} (valid : limit.validate = .ok ())
    {maximum : UInt64} (hm : limit.maximum = some maximum) {calls : List RegistryCall}
    (hcalls : ∀ call ∈ calls, call.Under (.limited limit valid)) (p : String) :
    (((run calls .empty).live p).map Session.id).toFinset.card ≤ maximum.toNat := by
  have h : Within maximum.toNat (run calls .empty) :=
    run_induction (fun call hcall r h => h.step hm (hcalls call hcall)) .empty
  exact h p

/-- Two logins under a maximum of one, both checked before either is registered. -/
theorem card_liveIds_two_logins :
    let control := SessionControl.limited ⟨some 1, false⟩ rfl
    let login id := (Token.usernamePassword "alice" "pw").withDetails { sessionId := some id }
    let calls : List RegistryCall := [.check control (login "a"), .check control (login "b"),
      .register control 0 "" (login "a"), .register control 1 "" (login "b")]
    (((run calls .empty).live "alice").map Session.id).toFinset.card ≤ 1 :=
  have valid : (⟨some 1, false⟩ : SessionLimit).validate = .ok () := rfl
  card_liveIds_run valid rfl (by simp [RegistryCall.Under]) "alice"

end SessionRegistry

end Admission
