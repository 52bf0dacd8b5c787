/-!
# Sets of authorities

The authorities of a token are a set of names. A set is kept as the strictly ascending list of its
members, so that equal sets are equal values and every reader sees one order.
-/

namespace Admission

/-- A finite set of names as its strictly ascending list. -/
structure Authorities where
  toList : List String
  ascending : toList.Pairwise (· < ·)
  deriving DecidableEq

namespace Authorities

/-- Puts a name into its place in an ascending list. -/
def place (name : String) : List String → List String
  | [] => [name]
  | x :: xs => if name < x then name :: x :: xs else if name = x then x :: xs
    else x :: place name xs

@[simp] theorem mem_place {name y : String} {l : List String} :
    y ∈ place name l ↔ y = name ∨ y ∈ l := by
  induction l with
  | nil => simp [place]
  | cons x xs ih =>
    unfold place
    split
    · simp
    · split
      · next h => simp [h]
      · simp [ih]; grind

theorem pairwise_place {name : String} {l : List String} (h : l.Pairwise (· < ·)) :
    (place name l).Pairwise (· < ·) := by
  induction l with
  | nil => simp [place]
  | cons x xs ih =>
    obtain ⟨hx, hxs⟩ := List.pairwise_cons.1 h
    unfold place
    split
    · next hlt =>
      refine List.pairwise_cons.2 ⟨fun y hy => ?_, h⟩
      rcases List.mem_cons.1 hy with rfl | hy
      · exact hlt
      · exact String.lt_trans hlt (hx y hy)
    · next hlt =>
      split
      · exact h
      · next hne =>
        refine List.pairwise_cons.2 ⟨fun y hy => ?_, ih hxs⟩
        rcases mem_place.1 hy with rfl | hy
        · exact Classical.byContradiction fun hge =>
            hne (String.le_antisymm (String.not_lt.1 hge) (String.not_lt.1 hlt))
        · exact hx y hy

/-- The set without members. -/
def empty : Authorities :=
  ⟨[], .nil⟩

def insert (name : String) (a : Authorities) : Authorities :=
  ⟨place name a.toList, pairwise_place a.ascending⟩

/-- The set of the names in a list. -/
def ofList : List String → Authorities
  | [] => empty
  | x :: xs => insert x (ofList xs)

def contains (a : Authorities) (name : String) : Bool :=
  a.toList.contains name

def isEmpty (a : Authorities) : Bool :=
  a.toList.isEmpty

/-- A name is in the set of a list exactly if it is in the list. -/
@[simp] theorem mem_toList_ofList {y : String} {l : List String} :
    y ∈ (ofList l).toList ↔ y ∈ l := by
  induction l with
  | nil => simp [ofList, empty]
  | cons x xs ih => simp [ofList, insert, ih]

/-- Only the empty list makes the empty set. -/
@[simp] theorem isEmpty_ofList (l : List String) : (ofList l).isEmpty = l.isEmpty := by
  cases l with
  | nil => rfl
  | cons x xs =>
    have h : x ∈ (ofList (x :: xs)).toList := by simp
    simp only [isEmpty, List.isEmpty_cons, List.isEmpty_eq_false_iff]
    exact List.ne_nil_of_mem h

end Authorities

end Admission
