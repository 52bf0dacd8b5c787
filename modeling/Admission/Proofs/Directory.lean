import Std.Data.TreeMap.Lemmas
import Admission.Directory

/-!
# Users found under their names

The store files a user under the user's own name, but nothing in its type says so, and the cache
remembers users under the name that was asked for. That both agree is an invariant
(`Directory.Filed`) of everything that can happen to a directory: its changes (`DirectoryChange`)
and look-ups. Under it the user that a look-up finds has the name that was asked for
(`UserService.Names`).

Looking a name up twice gives the same answer twice, be it through the cache or past it
(`Directory.load_load`).
-/

namespace Admission

/-! ## Services -/

/-- Under an invariant that its look-ups preserve, a service finds users of the name asked for. -/
structure UserService.Names {σ : Type} (service : UserService σ) (I : σ → Prop) : Prop where
  keeps : ∀ {s}, I s → ∀ name, I (service.load name s).2
  named : ∀ {s}, I s → ∀ {name u}, (service.load name s).1 = .ok (some u) → u.username = name

/-! ## Store -/

namespace UserStore

variable {s s' : UserStore} {u : User} {name : String}

/-- Every user is filed under its own name. -/
def Filed (s : UserStore) : Prop :=
  ∀ name u, s.find? name = some u → u.username = name

/-- An added user is found under its name. -/
theorem find?_add : (s.add u).find? name = if u.username = name then some u else s.find? name := by
  simp only [find?, add, Std.TreeMap.getElem?_insert, Std.LawfulEqCmp.compare_eq_iff_eq]

/-- An empty store has nobody under a wrong name. -/
theorem Filed.empty : Filed empty := by
  intro name u h
  simp [find?, UserStore.empty] at h

/-- A user that is added is filed under its name. -/
theorem Filed.add (h : s.Filed) (u : User) : (s.add u).Filed := by
  intro name v hv
  rw [find?_add] at hv
  split at hv
  · next hu => cases hv; exact hu
  · exact h name v hv

/-- So are several. -/
theorem Filed.addAll (h : s.Filed) (users : List User) : (s.addAll users).Filed := by
  induction users generalizing s with
  | nil => exact h
  | cons u users ih => exact ih (h.add u)

/-- So is a user that is created. -/
theorem Filed.create (h : s.Filed) (hs : s.create u = .ok s') : s'.Filed := by
  unfold UserStore.create at hs
  split at hs
  · cases hs
  · cases hs; exact h.add u

/-- Those that are left when one is deleted stay filed as they were. -/
theorem Filed.delete (h : s.Filed) (hs : s.delete name = .ok s') : s'.Filed := by
  unfold UserStore.delete at hs
  split at hs
  · cases hs
    intro other u hu
    simp only [find?, Std.TreeMap.getElem?_erase] at hu
    split at hu
    · cases hu
    · exact h other u hu
  · cases hs

/-- A look-up finds the user filed under the name. -/
theorem find?_of_load (h : (s.load name).1 = .ok (some u)) : s.find? name = some u := by
  unfold load at h
  split at h
  · cases h
  · exact Except.ok.inj h

/-- A store finds users of the name asked for as long as they are filed under their names. -/
theorem names_service : service.Names Filed where
  keeps {_} h _ := h
  named {_} h {name u} hu := h name u (find?_of_load hu)

end UserStore

/-! ## Cache -/

namespace Cached

variable {σ : Type} {inner : UserService σ} {c : Cached σ} {u : User} {name : String}

/-- What is fresh is answered from the cache, which stays as it is. -/
theorem load_of_fresh (h : c.fresh? name = some u) : load inner name c = (.ok (some u), c) := by
  rw [load, h]

/-- Otherwise the service behind the cache is asked, and a user that it finds is remembered. -/
theorem load_of_not_fresh (h : c.fresh? name = none) : load inner name c =
    ((inner.load name c.inner).1,
      match (inner.load name c.inner).1 with
      | .ok (some u) => { c with inner := (inner.load name c.inner).2 }.remember name u
      | _ => { c with inner := (inner.load name c.inner).2 }) := by
  rw [load, h]
  rcases inner.load name c.inner with ⟨_ | _ | u, s⟩ <;> rfl

/-- What is not remembered is answered by the service behind the cache. -/
theorem answer_of_not_fresh (h : c.fresh? name = none) :
    (load inner name c).1 = (inner.load name c.inner).1 := by
  rw [load_of_not_fresh h]

/-- A user just remembered is fresh unless users are fresh for no time at all. -/
theorem fresh?_remember (c : Cached σ) (name : String) (u : User) :
    (c.remember name u).fresh? name = if 0 < c.ttl then some u else none := by
  simp [fresh?, remember]

/-- A look-up asks the service behind the cache at most once. -/
theorem inner_load : (load inner name c).2.inner = c.inner ∨
    (load inner name c).2.inner = (inner.load name c.inner).2 := by
  cases hf : c.fresh? name with
  | some u => exact .inl (by rw [load_of_fresh hf])
  | none =>
    rw [load_of_not_fresh hf]
    dsimp only
    split <;> exact .inr rfl

/-- A cache answers a look-up in the same way again if the service behind it does. -/
theorem load_load
    (hinner : ∀ s, (inner.load name (inner.load name s).2).1 = (inner.load name s).1) :
    (load inner name (load inner name c).2).1 = (load inner name c).1 := by
  cases hf : c.fresh? name with
  | some u => rw [load_of_fresh hf, load_of_fresh hf]
  | none =>
    have hs := hinner c.inner
    rw [load_of_not_fresh hf]
    rcases hl : inner.load name c.inner with ⟨_ | _ | u, s⟩ <;> rw [hl] at hs
    · exact (answer_of_not_fresh (c := { c with inner := s }) hf).trans hs
    · exact (answer_of_not_fresh (c := { c with inner := s }) hf).trans hs
    · have hr := fresh?_remember { c with inner := s } name u
      split at hr
      · exact congrArg Prod.fst (load_of_fresh hr)
      · exact (answer_of_not_fresh hr).trans hs

/-! ### Names -/

variable {I : σ → Prop}

/-- The state behind the cache is in order, and every user is remembered under its own name. -/
structure Filed (I : σ → Prop) (c : Cached σ) : Prop where
  inner : I c.inner
  entries : ∀ name (entry : CachedUser), c.entries[name]? = some entry → entry.user.username = name

/-- A user that is remembered under its name is filed in the cache. -/
theorem Filed.remember (h : c.Filed I) (hu : u.username = name) :
    (c.remember name u).Filed I := by
  refine ⟨h.inner, fun other entry hentry => ?_⟩
  simp only [Cached.remember, Std.TreeMap.getElem?_insert,
    Std.LawfulEqCmp.compare_eq_iff_eq] at hentry
  split at hentry
  · next hname => cases hentry; exact hu.trans hname
  · exact h.entries other entry hentry

/-- Forgetting a name leaves the others filed. -/
theorem Filed.invalidate (h : c.Filed I) (name : String) : (c.invalidate name).Filed I := by
  refine ⟨h.inner, fun other entry hentry => ?_⟩
  simp only [Cached.invalidate, Std.TreeMap.getElem?_erase] at hentry
  split at hentry
  · cases hentry
  · exact h.entries other entry hentry

/-- An empty cache has nobody under a wrong name. -/
theorem Filed.clear (h : c.Filed I) : c.clear.Filed I :=
  ⟨h.inner, fun name entry hentry => by simp [Cached.clear] at hentry⟩

/-- A fresh user has the name under which it is remembered. -/
theorem Filed.username_of_fresh (h : c.Filed I) (hu : c.fresh? name = some u) :
    u.username = name := by
  unfold fresh? at hu
  split at hu
  · next entry hentry =>
    split at hu
    · cases hu
      exact h.entries name entry hentry
    · cases hu
  · cases hu

/-- A cache finds users of the name asked for if the service behind it does. -/
theorem names_service (hinner : inner.Names I) : (service inner).Names (Filed I) where
  keeps {c} h name := by
    show (load inner name c).2.Filed I
    have hc : Filed I { c with inner := (inner.load name c.inner).2 } :=
      ⟨hinner.keeps h.inner name, h.entries⟩
    cases hf : c.fresh? name with
    | some u => rwa [load_of_fresh hf]
    | none =>
      rw [load_of_not_fresh hf]
      dsimp only
      split
      · next u hu => exact hc.remember (hinner.named h.inner hu)
      · exact hc
  named {c} h {name u} hu := by
    cases hf : c.fresh? name with
    | some v =>
      cases (congrArg Prod.fst (load_of_fresh hf)).symm.trans hu
      exact h.username_of_fresh hf
    | none => exact hinner.named h.inner ((answer_of_not_fresh hf).symm.trans hu)

end Cached

/-! ## Directory -/

namespace Directory

variable {d : Directory} {name : String} {u : User} {a b : UserService Directory}

/-- Looks a user up in the store, past the cache. -/
def loadStore (name : String) (d : Directory) : Except StoreError (Option User) × Directory :=
  ((d.store.load name).1, d.mapStore fun s => (s.load name).2)

/-- The store of a directory as a service, past its cache. -/
def uncached : UserService Directory := ⟨loadStore⟩

/-- The service reaches the users of a directory, through the cache or past it. -/
def Reached (service : UserService Directory) : Prop :=
  service = Directory.service ∨ service = uncached

/-- Every user is filed, and remembered if there is a cache, under its own name. -/
def Filed : Directory → Prop
  | direct s => s.Filed
  | cached c => c.Filed UserStore.Filed

/-- Looking a name up changes nothing in what looking it up again answers, whichever way the users
are reached. -/
theorem load_load (ha : Reached a) (hb : Reached b) :
    (b.load name (a.load name d).2).1 = (b.load name d).1 := by
  cases d with
  | direct s => rcases ha with rfl | rfl <;> rcases hb with rfl | rfl <;> rfl
  | cached c =>
    have hstore : ∀ s, (UserStore.service.load name (UserStore.service.load name s).2).1 =
        (UserStore.service.load name s).1 := fun _ => rfl
    rcases ha with rfl | rfl <;> rcases hb with rfl | rfl
    · exact Cached.load_load hstore
    · have hinner : (Cached.load UserStore.service name c).2.inner = c.inner ∨
          (Cached.load UserStore.service name c).2.inner = (c.inner.load name).2 :=
        Cached.inner_load
      show ((Cached.load UserStore.service name c).2.inner.load name).1 = (c.inner.load name).1
      rcases hinner with h | h <;> rw [h]
      rfl
    · have hfresh : ({ c with inner := (c.inner.load name).2 } : Cached UserStore).fresh? name =
        c.fresh? name := rfl
      show (Cached.load UserStore.service name { c with inner := (c.inner.load name).2 }).1 =
        (Cached.load UserStore.service name c).1
      cases hf : c.fresh? name with
      | some u => rw [Cached.load_of_fresh (hfresh.trans hf), Cached.load_of_fresh hf]
      | none =>
        rw [Cached.answer_of_not_fresh (hfresh.trans hf), Cached.answer_of_not_fresh hf]
        rfl
    · rfl

/-- A change of the store that keeps its users filed keeps the directory filed. -/
theorem Filed.mapStore (h : d.Filed) {f : UserStore → UserStore}
    (hf : ∀ s, s.Filed → (f s).Filed) : (d.mapStore f).Filed := by
  cases d with
  | direct s => exact hf s h
  | cached c => exact ⟨hf c.inner h.inner, h.entries⟩

/-- So does a change of the cache that keeps it filed. -/
theorem Filed.mapCache (h : d.Filed) {f : Cached UserStore → Cached UserStore}
    (hf : ∀ c, c.Filed UserStore.Filed → (f c).Filed UserStore.Filed) : (d.mapCache f).Filed := by
  cases d with
  | direct s => exact h
  | cached c => exact hf c h

/-- A directory finds users of the name asked for as long as they are filed under their names. -/
theorem Reached.names {service : UserService Directory} (h : Reached service) :
    service.Names Filed := by
  have hstore := UserStore.names_service
  have hcache := Cached.names_service hstore
  rcases h with rfl | rfl
  · constructor
    · intro d h name
      cases d with
      | direct s => exact hstore.keeps h name
      | cached c => exact hcache.keeps h name
    · intro d h name u hu
      cases d with
      | direct s => exact hstore.named h hu
      | cached c => exact hcache.named h hu
  · constructor
    · intro d h name
      exact h.mapStore fun s hs => hstore.keeps hs name
    · intro d h name u hu
      cases d with
      | direct s => exact hstore.named h hu
      | cached c => exact hstore.named h.inner hu

end Directory

/-! ## Changes -/

/-- A change to the users of an installation, or to what is remembered of them. -/
inductive DirectoryChange
  | add (u : User)
  | addAll (users : List User)
  | create (u : User)
  | delete (username : String)
  /-- Look-ups in the store fail from now on, or succeed again. -/
  | outage (fault : Option StoreError)
  /-- Somebody else looks a user up, through the cache. -/
  | lookUp (username : String)
  | invalidate (username : String)
  | clear
  /-- Time passes. -/
  | wait (ticks : Nat)

/-- The directory after a change. A user that cannot be created or deleted changes nothing. -/
def DirectoryChange.apply (d : Directory) : DirectoryChange → Directory
  | add u => d.mapStore fun s => s.add u
  | addAll users => d.mapStore fun s => s.addAll users
  | create u => d.mapStore fun s => (s.create u).toOption.getD s
  | delete username => d.mapStore fun s => (s.delete username).toOption.getD s
  | outage fault => d.mapStore fun s => { s with outage := fault }
  | lookUp username => (d.load username).2
  | invalidate username => d.mapCache fun c => c.invalidate username
  | clear => d.mapCache Cached.clear
  | wait ticks => d.mapCache fun c => { c with now := c.now + ticks }

/-- Every change keeps the users filed under their names. -/
theorem Directory.Filed.apply {d : Directory} (h : d.Filed) (change : DirectoryChange) :
    (change.apply d).Filed := by
  cases change with
  | add u => exact h.mapStore fun s hs => hs.add u
  | addAll users => exact h.mapStore fun s hs => hs.addAll users
  | create u =>
    refine h.mapStore fun s hs => ?_
    cases hc : s.create u with
    | error e => exact hs
    | ok s' => exact hs.create hc
  | delete username =>
    refine h.mapStore fun s hs => ?_
    cases hd : s.delete username with
    | error e => exact hs
    | ok s' => exact hs.delete hd
  | outage fault => exact h.mapStore fun s hs => hs
  | lookUp username => exact (Directory.Reached.names (.inl rfl)).keeps h username
  | invalidate username => exact h.mapCache fun c hc => hc.invalidate username
  | clear => exact h.mapCache fun c hc => hc.clear
  | wait ticks => exact h.mapCache fun c hc => ⟨hc.inner, hc.entries⟩

end Admission
