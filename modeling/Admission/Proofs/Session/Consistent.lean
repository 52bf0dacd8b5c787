import Admission.Proofs.Session.View

/-!
# Consistent registries

The two tables of a registry must tell the same story: a session identifier belongs to a principal
exactly if the principal has a record of it (`Consistent.owner`), and a principal is listed with
records of its own (`Consistent.principal`). Since an identifier has one owner, no two principals
have records of one identifier.

In a consistent registry a change by identifier may be read as a change to the records of everybody
(`Consistent.all_update`, `Consistent.all_remove`, `Consistent.all_register`), for whoever is not
the owner has no record to be changed. Every change keeps a registry consistent.
-/

namespace Admission

/-- Who holds which identifier by a session. -/
def Session.holding (s : Session) : String × String :=
  (s.principal, s.id)

namespace SessionRegistry

/-- The two tables agree. -/
structure Consistent (r : SessionRegistry) : Prop where
  /-- A principal is listed with records of its own. -/
  principal : ∀ {p s}, s ∈ r.all p → s.principal = p
  /-- An identifier belongs to the principal who has a record of it. -/
  owner : ∀ {id p}, r.owners[id]? = some p ↔ ∃ s ∈ r.all p, s.id = id

namespace Consistent

variable {r r' : SessionRegistry} {p q id : String} {s : Session} {now : Nat}

/-- The empty registry is consistent. -/
theorem empty : Consistent .empty where
  principal := by simp
  owner := by simp

/-- Every listed record is indexed under the principal who lists it. -/
theorem owner_of_mem (h : Consistent r) (hs : s ∈ r.all p) : r.owners[s.id]? = some p :=
  h.owner.2 ⟨s, hs, rfl⟩

/-- Who does not own an identifier has no record of it. -/
theorem id_ne_of_mem (h : Consistent r) (hq : r.owners[id]? ≠ some q) (hs : s ∈ r.all q) :
    s.id ≠ id :=
  fun hid => hq (hid ▸ h.owner_of_mem hs)

/-- Dropping the records of an identifier drops none of those who do not own it. -/
theorem filter_id_ne (h : Consistent r) (hq : r.owners[id]? ≠ some q) :
    (r.all q).filter (fun s => s.id != id) = r.all q :=
  List.filter_eq_self.2 fun _ hs => bne_iff_ne.2 (h.id_ne_of_mem hq hs)

/-- Dropping the records of one identifier drops no record of another. -/
theorem exists_mem_filter_id_ne {i : String} (hi : i ≠ id) {l : List Session} :
    (∃ s ∈ l.filter (fun s => s.id != id), s.id = i) ↔ ∃ s ∈ l, s.id = i := by
  refine exists_congr fun s => ?_
  rw [List.mem_filter, bne_iff_ne]
  exact and_congr_left fun hs => and_iff_left (hs ▸ hi)

/-! ## Changes, read as changes for everybody -/

/-- In a consistent registry all records of an identifier are its owner's, so changing those changes
each principal's. -/
theorem all_update (h : Consistent r) (f : Session → Session) :
    (r.update id f).all q = (r.all q).map fun s => if s.id == id then f s else s := by
  rw [SessionRegistry.all_update]
  split
  · rfl
  · next hq =>
    refine (List.map_id _).symm.trans (List.map_congr_left fun s hs => ?_)
    exact (if_neg (by simpa using h.id_ne_of_mem hq hs)).symm

/-- For the same reason deleting them deletes each principal's. -/
theorem all_remove (h : Consistent r) :
    (r.remove id).all q = (r.all q).filter fun s => s.id != id := by
  rw [SessionRegistry.all_remove]
  split
  · rfl
  · next hq => exact (h.filter_id_ne hq).symm

/-- A registration leaves nobody else a record of the identifier. -/
theorem all_register (h : Consistent r) : (r.register now id p).all q =
    if p = q then r.all q ++ [⟨p, id, now, false⟩]
    else (r.all q).filter fun s => s.id != id := by
  rw [SessionRegistry.all_register]
  refine ite_congr rfl (fun _ => rfl) fun hpq => ?_
  split
  · rfl
  · next hf =>
    have hq : r.owners[id]? ≠ some q := fun ho => hf (formerOwner_eq_some.2 ⟨ho, Ne.symm hpq⟩)
    exact (h.filter_id_ne hq).symm

/-! ## Every change keeps the tables in agreement -/

/-- A change that moves no identifier keeps the registry consistent. -/
theorem of_holding (h : Consistent r) (howners : r'.owners = r.owners)
    (hall : ∀ q, (r'.all q).map Session.holding = (r.all q).map Session.holding) :
    Consistent r' where
  principal {p s} hs := by
    have hmem : s.holding ∈ (r.all p).map Session.holding := hall p ▸ List.mem_map_of_mem hs
    obtain ⟨t, ht, heq⟩ := List.mem_map.1 hmem
    exact (congrArg Prod.fst heq).symm.trans (h.principal ht)
  owner {id p} := by
    have hids : (r'.all p).map Session.id = (r.all p).map Session.id := by
      have := congrArg (List.map Prod.snd) (hall p)
      rwa [List.map_map, List.map_map] at this
    rw [howners, h.owner, ← List.mem_map, ← List.mem_map, hids]

/-- A change that leaves principal and identifier alone keeps the registry consistent. -/
theorem update (h : Consistent r) {f : Session → Session}
    (hf : ∀ s, (f s).holding = s.holding) : Consistent (r.update id f) := by
  refine h.of_holding (owners_update f) fun q => ?_
  rw [h.all_update f, List.map_map]
  refine List.map_congr_left fun s _ => ?_
  simp only [Function.comp_apply]
  split
  · exact hf s
  · rfl

/-- So does noting a request. -/
theorem refresh (h : Consistent r) : Consistent (r.refresh now id) :=
  h.update fun _ => rfl

/-- So does expiry. -/
theorem expire (h : Consistent r) : Consistent (r.expire id) :=
  h.update fun _ => rfl

/-- Deletion takes the records and the owner of an identifier away together. -/
theorem remove (h : Consistent r) : Consistent (r.remove id) where
  principal hs := by
    rw [h.all_remove] at hs
    exact h.principal (List.mem_filter.1 hs).1
  owner {i p} := by
    rw [owners_remove, h.all_remove]
    split
    · next hi => simp [hi]
    · next hi => rw [h.owner, exists_mem_filter_id_ne hi]

/-- A registration names the principal as the owner, and takes the records of the identifier from
whoever was it before. -/
theorem register (h : Consistent r) : Consistent (r.register now id p) where
  principal {q s} hs := by
    rw [h.all_register] at hs
    split at hs
    · next hpq =>
      rcases List.mem_append.1 hs with hs | hs
      · exact h.principal hs
      · rw [List.mem_singleton.1 hs]; exact hpq
    · exact h.principal (List.mem_filter.1 hs).1
  owner {i q} := by
    rw [owners_register, h.all_register]
    by_cases hi : i = id
    · subst hi
      by_cases hpq : p = q
      · simp [hpq]
      · simp [hpq]
    · rw [if_neg hi, h.owner]
      by_cases hpq : p = q
      · simp [hpq, Ne.symm hi]
      · rw [if_neg hpq, exists_mem_filter_id_ne hi]

end Consistent

end SessionRegistry

end Admission
