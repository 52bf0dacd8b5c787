import Std.Data.TreeMap.Lemmas
import Admission.Session.Registry

/-!
# What the registry shows

The registry is two tables, and all that can be asked of it are two views: the records of a
principal (`SessionRegistry.all`) and the owner of a session identifier (`r.owners[id]?`). This
module says what each change does to both views, for any registry, so that nothing later opens the
tables again. A change acts on the records of one principal only: the owner of the identifier, or
the former owner when it passes to somebody else.
-/

namespace Admission.SessionRegistry

variable {r : SessionRegistry} {p q id i : String} {now : Nat}

/-! ## Queries -/

/-- Nobody has a record in the empty registry. -/
@[simp] theorem all_empty (p : String) : empty.all p = [] := by
  simp [all, empty]

/-- No identifier has an owner in the empty registry. -/
@[simp] theorem owners_empty (id : String) : empty.owners[id]? = none := by
  simp [empty]

/-- The principals shown are those with a record. -/
theorem mem_principals : p ∈ r.principals ↔ r.all p ≠ [] := by
  simp only [principals, List.mem_map, List.mem_filter, Prod.exists, exists_and_right,
    exists_eq_right, Std.TreeMap.mem_toList_iff_getElem?_eq_some, all,
    Std.TreeMap.getD_eq_getD_getElem?]
  cases h : r.sessions[p]? <;> simp

/-- An identifier has a former owner exactly if it belongs to another principal. -/
theorem formerOwner_eq_some : r.formerOwner id p = some q ↔ r.owners[id]? = some q ∧ q ≠ p := by
  simp [formerOwner, Option.filter_eq_some_iff]

/-! ## Changes -/

/-- A change of one principal's records changes those and no others. -/
theorem all_modify (f : List Session → List Session) :
    (r.modify p f).all q = if p = q then f (r.all q) else r.all q := by
  simp only [all, modify, Std.TreeMap.getD_insert, Std.LawfulEqCmp.compare_eq_iff_eq]
  split
  · next h => rw [h]
  · rfl

/-- It leaves the owners alone. -/
@[simp] theorem owners_modify (f : List Session → List Session) :
    (r.modify p f).owners = r.owners := rfl

/-- An owner that is entered owns the one identifier. -/
theorem getElem?_owners_insert :
    (r.owners.insert id p)[i]? = if i = id then some p else r.owners[i]? := by
  simp only [Std.TreeMap.getElem?_insert, Std.LawfulEqCmp.compare_eq_iff_eq, @eq_comm _ i id]

/-- When an identifier passes to somebody else, its records are deleted for the former owner. -/
theorem all_assign : (r.assign id p).all q =
    if r.formerOwner id p = some q then (r.all q).filter (fun s => s.id != id) else r.all q := by
  unfold assign
  cases h : r.formerOwner id p with
  | none => rfl
  | some former =>
    show (r.modify former _).all q = _
    simp only [all_modify, Option.some.injEq]

/-- From then on the new owner has the identifier. -/
theorem owners_assign : (r.assign id p).owners[i]? = if i = id then some p else r.owners[i]? := by
  have h : (r.assign id p).owners = r.owners.insert id p := by
    unfold assign
    cases r.formerOwner id p <;> rfl
  rw [h, getElem?_owners_insert]

/-- A registration puts a record after those of the principal and takes the identifier from its
former owner. -/
theorem all_register : (r.register now id p).all q =
    if p = q then r.all q ++ [⟨p, id, now, false⟩]
    else if r.formerOwner id p = some q then (r.all q).filter (fun s => s.id != id)
    else r.all q := by
  have hf : ∀ f, (r.modify p f).formerOwner id p = r.formerOwner id p := fun _ => rfl
  rw [register, all_assign, all_modify, hf]
  by_cases hq : p = q
  · have hne : ¬ r.formerOwner id p = some q := fun h => (formerOwner_eq_some.1 h).2 hq.symm
    simp [hq, hq ▸ hne]
  · simp [hq]

/-- Whoever registers a session owns its identifier. -/
theorem owners_register :
    (r.register now id p).owners[i]? = if i = id then some p else r.owners[i]? := by
  rw [register, owners_assign, owners_modify]

/-- A change of the records of an identifier reaches those of its owner. -/
theorem all_update (f : Session → Session) : (r.update id f).all q =
    if r.owners[id]? = some q then (r.all q).map fun s => if s.id == id then f s else s
    else r.all q := by
  unfold update
  cases r.owners[id]? with
  | none => rfl
  | some owner => simp only [all_modify, Option.some.injEq]

/-- It leaves the owners alone. -/
@[simp] theorem owners_update (f : Session → Session) : (r.update id f).owners = r.owners := by
  unfold update
  cases r.owners[id]? <;> rfl

/-- Deleting the records of an identifier deletes those of its owner. -/
theorem all_remove : (r.remove id).all q =
    if r.owners[id]? = some q then (r.all q).filter (fun s => s.id != id) else r.all q := by
  unfold remove
  cases r.owners[id]? with
  | none => rfl
  | some owner =>
    show (r.modify owner _).all q = _
    simp only [all_modify, Option.some.injEq]

/-- From then on nobody owns the identifier. -/
theorem owners_remove : (r.remove id).owners[i]? = if i = id then none else r.owners[i]? := by
  unfold remove
  cases h : r.owners[id]? with
  | none =>
    by_cases hi : i = id
    · simp [hi, h]
    · simp [hi]
  | some owner =>
    simp only [Std.TreeMap.getElem?_erase, Std.LawfulEqCmp.compare_eq_iff_eq, @eq_comm _ i id]

end Admission.SessionRegistry
