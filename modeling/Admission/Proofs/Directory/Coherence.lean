import Mathlib.Data.Set.Card
import Admission.Proofs.Directory

/-!
# What a cache answers

What the memory of a cache goes through is a list of events (`Directory.events`): the store is asked
for a name, or names are forgotten. Read backwards, these say whom the cache remembers
(`MemoryEvent.lastFound`). That its entries are just these users (`Directory.Coherent`) is preserved
by every change (`Coherent.apply`) and so by every history of changes (`Coherent.after`), however
long it takes. The store behind the cache goes the way of a store without one (`store_load_after`).

Until the time to live is over, a look-up answers what is remembered
(`Coherent.load_of_lastFound`) and asks the store for the rest (`Coherent.asks_of_lastFound`). What
is remembered may be out of date. It is not if every change of a user is followed by forgetting the
name: then it is what the store answers (`Refreshed.store_load`).
-/

namespace Admission

/-! ## Events of a memory -/

/-- What happens to the memory of a cache: the store behind it is asked for a name, or names are
forgotten. -/
inductive MemoryEvent
  | asked (username : String) (answer : Except StoreError (Option User))
  | forgot (username : String)
  | forgotAll

/-- The user of a name whom the store found the last time that it found one, unless the name was
forgotten since. The latest event comes first. -/
def MemoryEvent.lastFound (name : String) : List MemoryEvent → Option User
  | [] => none
  | .asked other (.ok (some u)) :: older => if other = name then some u else lastFound name older
  | .asked _ (.ok none) :: older => lastFound name older
  | .asked _ (.error _) :: older => lastFound name older
  | .forgot other :: older => if other = name then none else lastFound name older
  | .forgotAll :: _ => none

open MemoryEvent (lastFound)

namespace DirectoryChange

/-- What a change does to the memory. Whether the store is asked shows in how often it was. -/
def event? (d : Directory) : DirectoryChange → Option MemoryEvent
  | lookUp name =>
    if (d.load name).2.store.lookups = d.store.lookups then none
    else some (.asked name (d.store.load name).1)
  | invalidate name => some (.forgot name)
  | clear => some .forgotAll
  | _ => none

/-- The time that passes in a change. -/
def ticks : DirectoryChange → Nat
  | wait ticks => ticks
  | _ => 0

/-- The change makes the cache forget a name. -/
def Forgets (name : String) (change : DirectoryChange) : Prop :=
  change = .invalidate name ∨ change = .clear

/-- The change makes the store answer otherwise when it is asked for a name. -/
def Alters (d : Directory) (name : String) (change : DirectoryChange) : Prop :=
  ((change.apply d).store.load name).1 ≠ (d.store.load name).1

end DirectoryChange

namespace Directory

/-- The directory after a history of changes. -/
def after (d : Directory) (history : List DirectoryChange) : Directory :=
  history.foldl DirectoryChange.apply d

/-- The events in a history of changes, the latest first. -/
def events : Directory → List DirectoryChange → List MemoryEvent
  | _, [] => []
  | d, change :: history => events (change.apply d) history ++ (change.event? d).toList

/-- The time that passes in a history of changes. -/
def elapsed (history : List DirectoryChange) : Nat :=
  (history.map DirectoryChange.ticks).sum

variable {d : Directory} {change : DirectoryChange} {history : List DirectoryChange}
  {name : String} {u : User}

/-- A history with one more change makes that change last. -/
theorem after_concat : d.after (history ++ [change]) = change.apply (d.after history) := by
  simp [after]

/-- Its event, if it has one, comes first in the memory. -/
theorem events_concat : d.events (history ++ [change]) =
    (change.event? (d.after history)).toList ++ d.events history := by
  induction history generalizing d with
  | nil => simp [events, after]
  | cons first history ih => simp [events, ih, after]

/-- It takes the time of that change longer. -/
theorem elapsed_concat : elapsed (history ++ [change]) = elapsed history + change.ticks := by
  simp [elapsed]

end Directory

/-! ## The store behind a cache -/

namespace UserStore

variable {s s' : UserStore} {name : String}

/-- Two stores hold the same users and fail alike, however often each was asked. -/
structure SameContents (s s' : UserStore) : Prop where
  users : s.users = s'.users
  outage : s.outage = s'.outage

namespace SameContents

/-- Stores with the same contents answer alike. -/
theorem load (h : s.SameContents s') : (s.load name).1 = (s'.load name).1 := by
  simp only [UserStore.load, find?, h.users, h.outage]

/-- Adding a user keeps the contents the same. -/
theorem add (h : s.SameContents s') (u : User) : (s.add u).SameContents (s'.add u) :=
  ⟨congrArg (fun users => users.insert u.username u) h.users, h.outage⟩

/-- So does adding several. -/
theorem addAll (h : s.SameContents s') (users : List User) :
    (s.addAll users).SameContents (s'.addAll users) := by
  induction users generalizing s s' with
  | nil => exact h
  | cons u users ih => exact ih (h.add u)

/-- So does creating a user, which both stores accept or both refuse. -/
theorem create (h : s.SameContents s') (u : User) :
    ((s.create u).toOption.getD s).SameContents ((s'.create u).toOption.getD s') := by
  have hfind : s.find? u.username = s'.find? u.username := by rw [find?, find?, h.users]
  simp only [UserStore.create, hfind]
  split
  · exact h
  · exact h.add u

/-- So does deleting one. -/
theorem delete (h : s.SameContents s') (name : String) :
    ((s.delete name).toOption.getD s).SameContents ((s'.delete name).toOption.getD s') := by
  have hfind : s.find? name = s'.find? name := by rw [find?, find?, h.users]
  simp only [UserStore.delete, hfind]
  split
  · exact ⟨congrArg (fun users => users.erase name) h.users, h.outage⟩
  · exact h

end SameContents

end UserStore

namespace Directory

variable {d d' : Directory}

/-- A change of the store is made to the store, cache or not. -/
theorem store_mapStore (f : UserStore → UserStore) : (d.mapStore f).store = f d.store := by
  cases d <;> rfl

/-- A look-up changes nothing in the contents of the store. -/
theorem sameContents_load (name : String) : (d.load name).2.store.SameContents d.store := by
  cases d with
  | direct s => exact ⟨rfl, rfl⟩
  | cached c =>
    have hinner : (c.load UserStore.service name).2.inner = c.inner ∨
        (c.load UserStore.service name).2.inner = (c.inner.load name).2 := Cached.inner_load
    show (c.load UserStore.service name).2.inner.SameContents c.inner
    rcases hinner with h | h <;> rw [h] <;> exact ⟨rfl, rfl⟩

/-- What a change makes of the contents does not depend on the cache. -/
theorem sameContents_apply (h : d.store.SameContents d'.store) (change : DirectoryChange) :
    (change.apply d).store.SameContents (change.apply d').store := by
  cases change with
  | add u => simpa only [DirectoryChange.apply, store_mapStore] using h.add u
  | addAll users => simpa only [DirectoryChange.apply, store_mapStore] using h.addAll users
  | create u => simpa only [DirectoryChange.apply, store_mapStore] using h.create u
  | delete name => simpa only [DirectoryChange.apply, store_mapStore] using h.delete name
  | outage fault =>
    simp only [DirectoryChange.apply, store_mapStore]
    exact ⟨h.users, rfl⟩
  | lookUp name =>
    have hleft := sameContents_load (d := d) name
    have hright := sameContents_load (d := d') name
    exact ⟨hleft.users.trans (h.users.trans hright.users.symm),
      hleft.outage.trans (h.outage.trans hright.outage.symm)⟩
  | invalidate | clear | wait => cases d <;> cases d' <;> exact h

/-- A directory without a cache never gets one. -/
theorem exists_eq_direct (s : UserStore) (history : List DirectoryChange) :
    ∃ s', (direct s).after history = direct s' := by
  induction history generalizing s with
  | nil => exact ⟨s, rfl⟩
  | cons change history ih => cases change <;> exact ih _

/-- What the history makes of the contents does not either. -/
theorem sameContents_after (h : d.store.SameContents d'.store) (history : List DirectoryChange) :
    (d.after history).store.SameContents (d'.after history).store := by
  induction history generalizing d d' with
  | nil => exact h
  | cons change history ih => exact ih (sameContents_apply h change)

/-- The store behind a cache answers what a directory without a cache would. -/
theorem store_load_after {c : Cached UserStore} {history : List DirectoryChange} {name : String} :
    (((cached c).after history).store.load name).1 =
      (((direct c.inner).after history).load name).1 := by
  have hstart : (cached c).store.SameContents (direct c.inner).store := ⟨rfl, rfl⟩
  have hcontents := sameContents_after hstart history
  obtain ⟨s, hs⟩ := exists_eq_direct c.inner history
  rw [hcontents.load, hs]
  rfl

end Directory

/-! ## Coherence -/

/-- The memory of a cache is what the events make of it, whether or not it is still fresh. -/
structure Cached.Coherent (c : Cached UserStore) (ttl time : Nat) (events : List MemoryEvent) :
    Prop where
  ttl : c.ttl = ttl
  now : c.now = time
  entries : ∀ name : String, c.entries[name]?.map CachedUser.user = lastFound name events

namespace Cached

variable {c : Cached UserStore} {ttl time : Nat} {events : List MemoryEvent} {name : String}
  {u : User}

/-- Until the time to live is over, what is fresh is what the events say. -/
theorem Coherent.fresh?_eq (h : c.Coherent ttl time events) (hfresh : time < ttl) :
    c.fresh? name = lastFound name events := by
  rw [← h.entries, fresh?]
  cases c.entries[name]? with
  | none => rfl
  | some entry =>
    have hage : c.now - entry.since < c.ttl := by
      rw [h.ttl, h.now]
      omega
    simp [hage]

/-- A look-up of what is not fresh asks the store. -/
theorem inner_load_of_not_fresh (h : c.fresh? name = none) :
    (c.load UserStore.service name).2.inner = (c.inner.load name).2 := by
  rw [load_of_not_fresh h]
  dsimp only
  split <;> rfl

/-- A look-up of what is fresh is no event: the store is not asked. -/
theorem event?_of_fresh (h : c.fresh? name = some u) :
    DirectoryChange.event? (.cached c) (.lookUp name) = none := by
  have hstore : ((Directory.cached c).load name).2.store = c.inner := by
    show (c.load UserStore.service name).2.inner = c.inner
    rw [load_of_fresh h]
  rw [DirectoryChange.event?, hstore]
  exact if_pos rfl

/-- A look-up of what is not fresh is the event of asking the store. -/
theorem event?_of_not_fresh (h : c.fresh? name = none) :
    DirectoryChange.event? (.cached c) (.lookUp name) =
      some (.asked name (c.inner.load name).1) := by
  have hstore : ((Directory.cached c).load name).2.store = (c.inner.load name).2 :=
    inner_load_of_not_fresh h
  rw [DirectoryChange.event?, hstore]
  exact if_neg (Nat.succ_ne_self _)

/-- A look-up keeps the cache coherent: what it remembers is what the store answered. -/
theorem Coherent.lookUp (h : c.Coherent ttl time events) :
    (c.load UserStore.service name).2.Coherent ttl time
      ((DirectoryChange.event? (.cached c) (.lookUp name)).toList ++ events) := by
  cases hfresh : c.fresh? name with
  | some u =>
    rw [load_of_fresh hfresh, event?_of_fresh hfresh]
    exact h
  | none =>
    have hasked : UserStore.service.load name c.inner = c.inner.load name := rfl
    rw [load_of_not_fresh hfresh, event?_of_not_fresh hfresh, hasked]
    rcases c.inner.load name with ⟨_ | _ | u, s⟩
    · exact ⟨h.ttl, h.now, h.entries⟩
    · exact ⟨h.ttl, h.now, h.entries⟩
    · refine ⟨h.ttl, h.now, fun other => ?_⟩
      simp only [remember, Std.TreeMap.getElem?_insert, Std.LawfulEqCmp.compare_eq_iff_eq,
        Option.toList_some, List.singleton_append, lastFound]
      split
      · rfl
      · exact h.entries other

/-- So does forgetting a name. -/
theorem Coherent.invalidate (h : c.Coherent ttl time events) :
    (c.invalidate name).Coherent ttl time (.forgot name :: events) := by
  refine ⟨h.ttl, h.now, fun other => ?_⟩
  simp only [Cached.invalidate, Std.TreeMap.getElem?_erase, Std.LawfulEqCmp.compare_eq_iff_eq,
    lastFound]
  split
  · rfl
  · exact h.entries other

/-- So does forgetting all names. -/
theorem Coherent.clear (h : c.Coherent ttl time events) :
    c.clear.Coherent ttl time (.forgotAll :: events) :=
  ⟨h.ttl, h.now, fun name => by simp [Cached.clear, lastFound]⟩

/-- As many users are remembered as there are names of which the events say so. -/
theorem Coherent.size_eq (h : c.Coherent ttl time events) :
    (c.size : ℕ∞) = {name | (lastFound name events).isSome}.encard := by
  have hnames :
      {name | (lastFound name events).isSome} = (c.entries.keys.toFinset : Set String) := by
    ext name
    simp [← h.entries]
  rw [hnames, Set.encard_coe_eq_coe_finsetCard, List.toFinset_card_of_nodup]
  · rw [Std.TreeMap.length_keys, size]
  · exact Std.TreeMap.nodup_keys

end Cached

namespace Directory

variable {d : Directory} {name : String} {u : User} {ttl time : Nat} {memory : List MemoryEvent}

/-- The memory of the cache of a directory is what the events make of it. -/
def Coherent (ttl time : Nat) (memory : List MemoryEvent) : Directory → Prop
  | direct _ => False
  | cached c => c.Coherent ttl time memory

/-- What one change preserves. -/
theorem Coherent.apply (h : d.Coherent ttl time memory) (change : DirectoryChange) :
    (change.apply d).Coherent ttl (time + change.ticks) ((change.event? d).toList ++ memory) := by
  cases d with
  | direct s => exact h.elim
  | cached c =>
    cases change with
    | add | addAll | create | delete | outage => exact ⟨h.ttl, h.now, h.entries⟩
    | lookUp name => exact Cached.Coherent.lookUp h
    | invalidate name => exact Cached.Coherent.invalidate h
    | clear => exact Cached.Coherent.clear h
    | wait ticks => exact ⟨h.ttl, congrArg (· + ticks) h.now, h.entries⟩

/-- What a history of changes preserves. -/
theorem Coherent.after (h : d.Coherent ttl 0 []) (history : List DirectoryChange) :
    (d.after history).Coherent ttl (elapsed history) (d.events history) := by
  induction history using List.reverseRecOn with
  | nil => exact h
  | append_singleton history change ih =>
    rw [after_concat, elapsed_concat, events_concat]
    exact ih.apply change

/-! ## Look-ups -/

/-- A look-up that asks the store and answers what it says. -/
structure Asks (d : Directory) (name : String) : Prop where
  answer : (d.load name).1 = (d.store.load name).1
  store : (d.load name).2.store = (d.store.load name).2

/-- A look-up of what is not fresh is answered by the store. -/
theorem asks_of_not_fresh {c : Cached UserStore} (h : c.fresh? name = none) :
    (cached c).Asks name where
  answer := by
    show (c.load UserStore.service name).1 = (c.inner.load name).1
    exact Cached.answer_of_not_fresh h
  store := Cached.inner_load_of_not_fresh h

/-- Until the time to live is over, what is remembered is answered without asking the store. -/
theorem Coherent.load_of_lastFound (h : d.Coherent ttl time memory) (hfresh : time < ttl)
    (hu : lastFound name memory = some u) : d.load name = (.ok (some u), d) := by
  cases d with
  | direct s => exact h.elim
  | cached c =>
    have hload : c.load UserStore.service name = (.ok (some u), c) :=
      Cached.load_of_fresh ((Cached.Coherent.fresh?_eq h hfresh).trans hu)
    simp only [load, hload]

/-- What is not remembered is answered by the store. -/
theorem Coherent.asks_of_lastFound (h : d.Coherent ttl time memory) (hfresh : time < ttl)
    (hu : lastFound name memory = none) : d.Asks name := by
  cases d with
  | direct s => exact h.elim
  | cached c => exact asks_of_not_fresh ((Cached.Coherent.fresh?_eq h hfresh).trans hu)

/-- Without a time to live the store is always asked. -/
theorem Coherent.asks_of_ttl_zero (h : d.Coherent 0 time memory) : d.Asks name := by
  cases d with
  | direct s => exact h.elim
  | cached c =>
    refine asks_of_not_fresh ?_
    rw [Cached.fresh?, Cached.Coherent.ttl h]
    cases c.entries[name]? <;> rfl

/-- The directory counts the names of which the events say that somebody was found. -/
theorem Coherent.cachedCount_eq (h : d.Coherent ttl time memory) :
    (d.cachedCount : ℕ∞) = {name | (lastFound name memory).isSome}.encard := by
  cases d with
  | direct s => exact h.elim
  | cached c => exact Cached.Coherent.size_eq h

/-- Throughout a history users stay filed under their names. -/
theorem Filed.after (h : d.Filed) (history : List DirectoryChange) : (d.after history).Filed := by
  induction history generalizing d with
  | nil => exact h
  | cons change history ih => exact ih (h.apply change)

/-! ## Histories that keep the cache up to date -/

/-- Whatever changed the answer of the store for a name, the name was forgotten afterwards. -/
def Refreshed (d : Directory) (history : List DirectoryChange) (name : String) : Prop :=
  ∀ before change after, history = before ++ change :: after →
    change.Alters (d.after before) name → ∃ forgetting ∈ after, forgetting.Forgets name

/-- Every change is followed by forgetting the names concerned before they are looked up. -/
def Prompt (d : Directory) (history : List DirectoryChange) : Prop :=
  ∀ before change between name rest,
    history = before ++ change :: between ++ .lookUp name :: rest →
    change.Alters (d.after before) name → ∃ forgetting ∈ between, forgetting.Forgets name

/-- In a prompt history, every name is up to date when it is looked up. -/
theorem Prompt.refreshed {history before rest : List DirectoryChange} (h : d.Prompt history)
    (hsplit : history = before ++ .lookUp name :: rest) : d.Refreshed before name := by
  rintro first change between rfl
  exact h first change between name rest (by simp [hsplit])

/-- A user remembered after a change was found in it, or was remembered before it and has not been
forgotten. -/
theorem lastFound_event? {change : DirectoryChange}
    (h : lastFound name ((change.event? d).toList ++ memory) = some u) :
    (change = .lookUp name ∧ (d.store.load name).1 = .ok (some u)) ∨
      (¬ change.Forgets name ∧ lastFound name memory = some u) := by
  cases change with
  | add | addAll | create | delete | outage | wait =>
    exact .inr ⟨by simp [DirectoryChange.Forgets], h⟩
  | lookUp other =>
    have hforgets : ¬ (DirectoryChange.lookUp other).Forgets name := by
      simp [DirectoryChange.Forgets]
    rw [DirectoryChange.event?] at h
    split at h
    · exact .inr ⟨hforgets, h⟩
    · rcases hanswer : (d.store.load other).1 with _ | _ | v <;> rw [hanswer] at h
      · exact .inr ⟨hforgets, h⟩
      · exact .inr ⟨hforgets, h⟩
      · simp only [Option.toList_some, List.singleton_append, lastFound] at h
        split at h
        · next hname =>
          subst hname
          exact .inl ⟨rfl, hanswer.trans (congrArg Except.ok h)⟩
        · exact .inr ⟨hforgets, h⟩
  | invalidate other =>
    simp only [DirectoryChange.event?, Option.toList_some, List.singleton_append, lastFound] at h
    split at h
    · cases h
    · next hname => exact .inr ⟨by simp [DirectoryChange.Forgets, hname], h⟩
  | clear => cases h

/-- What is remembered after a refreshed history is what the store answers. -/
theorem Refreshed.store_load {history : List DirectoryChange} (h : d.Refreshed history name)
    (hu : lastFound name (d.events history) = some u) :
    ((d.after history).store.load name).1 = .ok (some u) := by
  induction history using List.reverseRecOn with
  | nil => cases hu
  | append_singleton history change ih =>
    rw [events_concat] at hu
    rw [after_concat]
    rcases lastFound_event? hu with ⟨rfl, hanswer⟩ | ⟨hforgets, hu⟩
    · have hagain : (uncached.load name (service.load name (d.after history)).2).1 =
          (uncached.load name (d.after history)).1 := load_load (.inl rfl) (.inr rfl)
      exact hagain.trans hanswer
    · have hunaltered : ¬ change.Alters (d.after history) name := by
        intro halters
        obtain ⟨_, hmem, -⟩ := h history change [] rfl halters
        cases hmem
      have hbefore : d.Refreshed history name := by
        rintro before other after rfl halters
        obtain ⟨forgetting, hmem, hname⟩ := h before other (after ++ [change]) (by simp) halters
        rcases List.mem_append.1 hmem with hmem | hmem
        · exact ⟨forgetting, hmem, hname⟩
        · cases List.mem_singleton.1 hmem
          exact absurd hname hforgets
      exact (not_not.1 hunaltered).trans (ih hbefore hu)

/-- **A cache answers what the store said when it was last asked.** After any history of changes and
look-ups that takes less than the time to live: a name that is remembered is answered from memory,
and the store is left alone; any other name is asked of the store, which says what it holds now.
Who is returned for a name has it, and the cache counts the names that are remembered. If changes
are followed by forgetting the names concerned before their next look-up, every look-up says what
the store would. Without a time to live the store is asked each time. -/
theorem cache_coherent (ttl : Nat) (history : List DirectoryChange) :
    let start : Directory := .cached { inner := .empty, ttl := ttl }
    let d := start.after history
    let remembered := fun name => lastFound name (start.events history)
    let plain : Directory := .direct .empty
    (elapsed history < ttl →
      (∀ name u, remembered name = some u → d.load name = (.ok (some u), d)) ∧
      (∀ name, remembered name = none → d.Asks name) ∧
      (∀ name u, (d.load name).1 = .ok (some u) → u.username = name) ∧
      (d.cachedCount : ℕ∞) = {name | (remembered name).isSome}.encard ∧
      (start.Prompt history →
        ∀ before name rest, history = before ++ .lookUp name :: rest →
          ((start.after before).load name).1 = ((plain.after before).load name).1)) ∧
    (ttl = 0 → ∀ name,
      d.Asks name ∧ (d.load name).1 = ((plain.after history).load name).1) := by
  intro start d remembered plain
  have hstart : start.Coherent ttl 0 [] := ⟨rfl, rfl, fun name => by simp [lastFound]⟩
  have hfiled : start.Filed := ⟨UserStore.Filed.empty, fun name entry h => by simp at h⟩
  have hd := hstart.after history
  have hplain : ∀ history name, ((start.after history).store.load name).1 =
      ((plain.after history).load name).1 := fun _ _ => store_load_after
  refine ⟨fun hfresh => ⟨fun name u hu => hd.load_of_lastFound hfresh hu,
    fun name hu => hd.asks_of_lastFound hfresh hu, fun name u hu => ?_, hd.cachedCount_eq,
    fun hprompt before name rest hsplit => ?_⟩, ?_⟩
  · exact (Reached.names (.inl rfl)).named (hfiled.after history) hu
  · have hbefore := hstart.after before
    have htime : elapsed before < ttl := by
      refine Nat.lt_of_le_of_lt ?_ hfresh
      simp [hsplit, elapsed]
    rw [← hplain]
    cases hu : lastFound name (start.events before) with
    | none => exact (hbefore.asks_of_lastFound htime hu).answer
    | some u =>
      rw [hbefore.load_of_lastFound htime hu, (hprompt.refreshed hsplit).store_load hu]
  · rintro rfl name
    exact ⟨hd.asks_of_ttl_zero, hd.asks_of_ttl_zero.answer.trans (hplain history name)⟩

/-- Alice is deleted after she was looked up. She is still remembered, but not without a time to
live. -/
theorem cache_coherent_deleted :
    let alice : User := { username := "alice", password := "secret" }
    let found : List DirectoryChange := [.add alice, .clear, .lookUp "alice"]
    let deleted := found ++ [.delete "alice"]
    let start := fun ttl => Directory.cached { inner := .empty, ttl := ttl }
    (((start 5).after [.add alice, .clear]).load "alice").1 =
        (((direct .empty).after [.add alice, .clear]).load "alice").1 ∧
      (((start 5).after deleted).load "alice").1 = .ok (some alice) ∧
      (((start 5).after deleted).store.load "alice").1 = .ok none ∧
      (((start 0).after deleted).load "alice").1 = .ok none := by
  intro alice found deleted start
  obtain ⟨hfound, -⟩ := cache_coherent 5 found
  obtain ⟨hdeleted, -⟩ := cache_coherent 5 deleted
  obtain ⟨-, hzero⟩ := cache_coherent 0 deleted
  obtain ⟨-, -, -, -, hprompt⟩ := hfound (by decide)
  obtain ⟨hremembered, -⟩ := hdeleted (by decide)
  have hadded : (UserStore.empty.add alice).find? "alice" = some alice := by
    rw [UserStore.find?_add]
    rfl
  have hfresh : ∀ ttl, ({ inner := UserStore.empty.add alice, ttl := ttl } :
      Cached UserStore).clear.fresh? "alice" = none := by
    intro ttl
    simp [Cached.fresh?, Cached.clear]
  have hstore : ∀ ttl, (((start ttl).after deleted).store.load "alice").1 = .ok none := by
    intro ttl
    have hasked : ((start ttl).after found).store = ((UserStore.empty.add alice).load "alice").2 :=
      Cached.inner_load_of_not_fresh (hfresh ttl)
    have hgone : ((start ttl).after deleted).store =
        (((start ttl).after found).store.delete "alice").toOption.getD
          ((start ttl).after found).store := rfl
    rw [hgone, hasked]
    simp [UserStore.delete, UserStore.load, UserStore.find?, UserStore.add, UserStore.empty, alice,
      Except.toOption]
  have hevents : (start 5).events deleted = [.asked "alice" (.ok (some alice)), .forgotAll] := by
    have hevent : DirectoryChange.event? ((start 5).after [.add alice, .clear]) (.lookUp "alice") =
        some (.asked "alice" (.ok (some alice))) := by
      rw [← hadded]
      exact Cached.event?_of_not_fresh (hfresh 5)
    have hsteps : deleted = [.add alice, .clear] ++ [.lookUp "alice"] ++ [.delete "alice"] := rfl
    rw [hsteps, events_concat, events_concat, hevent]
    rfl
  have hmemory : lastFound "alice" ((start 5).events deleted) = some alice := by
    rw [hevents]
    rfl
  have hpromptly : (start 5).Prompt found := by
    rintro before change between name rest hsplit halters
    rcases before with _ | ⟨first, _ | ⟨second, before⟩⟩
    · obtain ⟨rfl, hrest⟩ := List.cons.inj hsplit
      rcases between with _ | ⟨forgetting, between⟩
      · cases hrest
      · obtain ⟨rfl, -⟩ := List.cons.inj hrest
        exact ⟨.clear, .head _, .inr rfl⟩
    · obtain ⟨rfl, hrest⟩ := List.cons.inj hsplit
      obtain ⟨rfl, -⟩ := List.cons.inj hrest
      exact (halters rfl).elim
    · -- The look-up is the last of three changes, so there is no change left before it.
      have hlength := congrArg List.length hsplit
      simp only [found, List.length_append, List.length_cons, List.length_nil] at hlength
      omega
  refine ⟨hprompt hpromptly _ _ [] rfl, ?_, hstore 5, ?_⟩
  · rw [hremembered "alice" alice hmemory]
  · exact (hzero rfl "alice").1.answer.trans (hstore 0)

end Directory

end Admission
