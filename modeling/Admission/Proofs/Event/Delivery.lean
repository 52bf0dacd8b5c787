import Mathlib.Data.List.DropRight
import Admission.Event.Publisher

/-!
# Who receives an event

A tree of receivers is flattened into its leaves (`Publisher.leaves`), depth first, each with the
switches of the multicasters around it. Publishing hands the event to every leaf whose switches are
all on, once and in this order (`Publisher.publish_eq`), and changes the leaves one by one
(`Publisher.leaves_apply`), as emptying stores does. So a run of such calls does the same with each
leaf by itself (`Publisher.leaves_after`).

For a store by itself a run is simple. It keeps the end of what was published since it was last
emptied, up to its bound (`EventStore.events_after`): pushing an event onto the end of a list keeps
the end of the longer list (`EventStore.rtake_rtake_concat`).
-/

namespace Admission

/-! ## Leaves -/

/-- A receiver that is not a multicaster. -/
inductive Receiver
  | store (number : Nat) (store : EventStore)
  | listener (number : Nat)
  | log (successes : Bool)
  deriving DecidableEq

namespace Receiver

/-- The receiver after an event was handed to it. -/
def receive (e : Event) : Receiver → Receiver
  | store n s => store n (s.push e)
  | listener n => listener n
  | log successes => log successes

/-- What a receiver does with an event. A log writer may have nothing to write. -/
def deliveries (e : Event) : Receiver → List Delivery
  | store n _ => [.stored n e]
  | listener n => [.heard n e]
  | log successes => ((e.logRecord? successes).map .logged).toList

/-- The receiver after the stores with a number were emptied. -/
def clear (number : Nat) : Receiver → Receiver
  | store n s => store n (if n = number then s.clear else s)
  | listener n => listener n
  | log successes => log successes

/-- The store with its number, if the receiver is one. -/
def store? : Receiver → Option (Nat × EventStore)
  | store n s => some (n, s)
  | listener _ | log _ => none

end Receiver

/-- A receiver in a tree, with the switches of the multicasters around it, the outermost first. -/
structure Leaf where
  switches : List Bool
  receiver : Receiver
  deriving DecidableEq

/-- Something that is done to a tree of receivers. -/
inductive PublisherCall
  | publish (e : Event)
  | clear (number : Nat)
  deriving DecidableEq

namespace Leaf

/-- Whether all multicasters around the leaf are switched on. -/
def reached (leaf : Leaf) : Bool :=
  leaf.switches.all id

/-- The leaf under one more multicaster. -/
def under (enabled : Bool) (leaf : Leaf) : Leaf :=
  { leaf with switches := enabled :: leaf.switches }

/-- What a leaf does when an event is published. -/
def deliveries (e : Event) (leaf : Leaf) : List Delivery :=
  if leaf.reached then leaf.receiver.deliveries e else []

/-- What becomes of a leaf in a call. -/
def apply (call : PublisherCall) (leaf : Leaf) : Leaf :=
  match call with
  | .publish e => if leaf.reached then { leaf with receiver := leaf.receiver.receive e } else leaf
  | .clear number => { leaf with receiver := leaf.receiver.clear number }

/-- A leaf under one more multicaster is reached if that one is switched on as well. -/
theorem reached_under (enabled : Bool) (leaf : Leaf) :
    (leaf.under enabled).reached = (enabled && leaf.reached) := rfl

/-- Under a multicaster that is switched off a leaf does nothing. -/
theorem deliveries_under_false (e : Event) (leaf : Leaf) :
    (leaf.under false).deliveries e = [] := rfl

/-- A multicaster that is switched on makes no difference to a call. -/
theorem apply_under_true (call : PublisherCall) (leaf : Leaf) :
    (leaf.under true).apply call = (leaf.apply call).under true := by
  cases call with
  | publish e =>
    simp only [apply, reached_under, Bool.true_and]
    by_cases h : leaf.reached = true <;> simp only [h] <;> rfl
  | clear number => rfl

/-- Under a multicaster that is switched off a leaf stays as it is when an event is published. -/
theorem publish_under_false (e : Event) (leaf : Leaf) :
    (leaf.under false).apply (.publish e) = leaf.under false := rfl

end Leaf

namespace Publisher

mutual

/-- The leaves of a tree, depth first. -/
def leaves : Publisher → List Leaf
  | .store n s => [⟨[], .store n s⟩]
  | .listener n => [⟨[], .listener n⟩]
  | .log successes => [⟨[], .log successes⟩]
  | .multicast enabled branches => (leavesAll branches).map (Leaf.under enabled)

/-- The leaves of several trees. -/
def leavesAll : List Publisher → List Leaf
  | [] => []
  | p :: ps => leaves p ++ leavesAll ps

end

/-! ## One call -/

mutual

/-- **A tree delivers an event to its leaves, in order.** -/
theorem publish_eq (e : Event) (p : Publisher) :
    (p.publish e).2 = p.leaves.flatMap (Leaf.deliveries e) := by
  cases p with
  | store | listener => rfl
  | log successes => exact (List.append_nil _).symm
  | multicast enabled branches =>
    cases enabled with
    | true =>
      rw [leaves, List.flatMap_map, publish]
      exact publishAll_eq e branches
    | false =>
      rw [leaves, List.flatMap_map, publish]
      exact (List.flatMap_eq_nil_iff.2 fun leaf _ => leaf.deliveries_under_false e).symm

/-- Several trees deliver an event one after the other. -/
theorem publishAll_eq (e : Event) (ps : List Publisher) :
    (publishAll e ps).2 = (leavesAll ps).flatMap (Leaf.deliveries e) := by
  cases ps with
  | nil => rfl
  | cons p ps =>
    simp only [publishAll, leavesAll, List.flatMap_append, publish_eq e p, publishAll_eq e ps]

end

mutual

/-- An event changes each leaf by itself. -/
theorem leaves_publish (e : Event) (p : Publisher) :
    (p.publish e).1.leaves = p.leaves.map (Leaf.apply (.publish e)) := by
  cases p with
  | store | listener | log => rfl
  | multicast enabled branches =>
    rw [leaves, List.map_map]
    cases enabled with
    | true =>
      rw [publish, leaves, leavesAll_publish e branches, List.map_map]
      exact List.map_congr_left fun leaf _ => (leaf.apply_under_true (.publish e)).symm
    | false =>
      rw [publish, leaves]
      exact List.map_congr_left fun leaf _ => (leaf.publish_under_false e).symm

/-- The same over several trees. -/
theorem leavesAll_publish (e : Event) (ps : List Publisher) :
    leavesAll (publishAll e ps).1 = (leavesAll ps).map (Leaf.apply (.publish e)) := by
  cases ps with
  | nil => rfl
  | cons p ps =>
    simp only [publishAll, leavesAll, List.map_append, leaves_publish e p, leavesAll_publish e ps]

end

mutual

/-- Emptying stores changes each leaf by itself. -/
theorem leaves_clearStore (number : Nat) (p : Publisher) :
    (p.clearStore number).leaves = p.leaves.map (Leaf.apply (.clear number)) := by
  cases p with
  | store | listener | log => rfl
  | multicast enabled branches =>
    rw [clearStore, leaves, leaves, leavesAll_clearStores number branches, List.map_map,
      List.map_map]
    rfl

/-- The same over several trees. -/
theorem leavesAll_clearStores (number : Nat) (ps : List Publisher) :
    leavesAll (clearStores number ps) = (leavesAll ps).map (Leaf.apply (.clear number)) := by
  cases ps with
  | nil => rfl
  | cons p ps =>
    simp only [clearStores, leavesAll, List.map_append, leaves_clearStore number p,
      leavesAll_clearStores number ps]

end

mutual

/-- The stores of a tree are those among its leaves, in order. -/
theorem stores_eq (p : Publisher) :
    p.stores = p.leaves.filterMap fun leaf => leaf.receiver.store? := by
  cases p with
  | store | listener | log => rfl
  | multicast enabled branches =>
    rw [stores, leaves, List.filterMap_map]
    exact storesAll_eq branches

/-- The same over several trees. -/
theorem storesAll_eq (ps : List Publisher) :
    storesAll ps = (leavesAll ps).filterMap fun leaf => leaf.receiver.store? := by
  cases ps with
  | nil => rfl
  | cons p ps =>
    simp only [storesAll, leavesAll, List.filterMap_append, stores_eq p, storesAll_eq ps]

end

/-! ## Runs -/

/-- The tree after a call. -/
def apply (p : Publisher) : PublisherCall → Publisher
  | .publish e => (p.publish e).1
  | .clear number => p.clearStore number

/-- The tree after a run of calls. -/
def after (p : Publisher) (calls : List PublisherCall) : Publisher :=
  calls.foldl apply p

/-- A call changes each leaf by itself. -/
theorem leaves_apply (p : Publisher) (call : PublisherCall) :
    (p.apply call).leaves = p.leaves.map (Leaf.apply call) := by
  cases call with
  | publish e => exact leaves_publish e p
  | clear number => exact leaves_clearStore number p

end Publisher

/-- What becomes of a leaf in a run of calls. -/
def Leaf.after (calls : List PublisherCall) (leaf : Leaf) : Leaf :=
  calls.foldl (fun leaf call => leaf.apply call) leaf

/-- **So does a whole run.** -/
theorem Publisher.leaves_after (p : Publisher) (calls : List PublisherCall) :
    (p.after calls).leaves = p.leaves.map (Leaf.after calls) := by
  induction calls generalizing p with
  | nil => exact (List.map_id _).symm
  | cons call calls ih =>
    show ((p.apply call).after calls).leaves = _
    rw [ih, leaves_apply, List.map_map]
    rfl

/-! ## Stores by themselves -/

namespace EventStore

variable {s : EventStore} {on : Bool} {number : Nat} {call : PublisherCall}
  {calls : List PublisherCall}

/-- What becomes of a store with a number in a call. `on` says whether events reach it. -/
def apply (on : Bool) (number : Nat) (s : EventStore) : PublisherCall → EventStore
  | .publish e => if on then s.push e else s
  | .clear other => if number = other then s.clear else s

/-- What becomes of a store in a run of calls. -/
def after (on : Bool) (number : Nat) (calls : List PublisherCall) (s : EventStore) : EventStore :=
  calls.foldl (apply on number) s

/-- The events published since a store was last emptied. If it never was, they come after those
that it held at first. -/
def sinceCleared (number : Nat) (held : List Event) (calls : List PublisherCall) : List Event :=
  calls.foldl (fun events call =>
    match call with
    | .publish e => events ++ [e]
    | .clear other => if number = other then [] else events) held

/-- A run with one more call does that call last. -/
theorem after_concat : s.after on number (calls ++ [call]) =
    (s.after on number calls).apply on number call := by
  simp [after]

/-- The bound of a store never changes. -/
theorem bound_after : (s.after on number calls).bound = s.bound := by
  induction calls using List.reverseRecOn with
  | nil => rfl
  | append_singleton calls call ih =>
    rw [after_concat, ← ih]
    cases call <;> simp only [apply] <;> split <;> rfl

/-- The end of a list that one more element is added to is the end of the end of the list. -/
theorem rtake_rtake_concat {α : Type} (l : List α) (k : Nat) (x : α) :
    (l.rtake k ++ [x]).rtake k = (l ++ [x]).rtake k := by
  cases k with
  | zero => rw [List.rtake_zero, List.rtake_zero]
  | succ k =>
    have hshorter : (l.rtake (k + 1)).rtake k = l.rtake k := by
      simp only [List.rtake, List.length_drop, List.drop_drop]
      congr 1
      omega
    rw [List.rtake_concat_succ, List.rtake_concat_succ, hshorter]

/-- The end of a list is as long as asked for, if the list is. -/
theorem length_rtake {α : Type} (l : List α) (k : Nat) : (l.rtake k).length = min k l.length := by
  simp only [List.rtake, List.length_drop]
  omega

/-- A store that is reached keeps the latest events, as many as it may. -/
theorem events_after (h : s.events.length ≤ s.bound) :
    (s.after true number calls).events = (sinceCleared number s.events calls).rtake s.bound := by
  induction calls using List.reverseRecOn with
  | nil =>
    rw [List.rtake, show (sinceCleared number s.events []).length - s.bound = 0 from
      Nat.sub_eq_zero_of_le h]
    rfl
  | append_singleton calls call ih =>
    rw [after_concat]
    cases call with
    | publish e =>
      have hpush : ∀ s : EventStore, (s.push e).events = (s.events ++ [e]).rtake s.bound :=
        fun _ => rfl
      have hpublished : sinceCleared number s.events (calls ++ [.publish e]) =
          sinceCleared number s.events calls ++ [e] := by
        simp [sinceCleared]
      rw [apply, if_pos rfl, hpush, ih, bound_after, hpublished, rtake_rtake_concat]
    | clear other =>
      have hcleared : sinceCleared number s.events (calls ++ [.clear other]) =
          if number = other then [] else sinceCleared number s.events calls := by
        simp [sinceCleared]
      rw [apply, hcleared]
      split
      · exact (List.rtake_nil _).symm
      · exact ih

/-- A store that is not reached keeps what it held at first until it is emptied. -/
theorem events_after_unreached :
    (s.after false number calls).events = if .clear number ∈ calls then [] else s.events := by
  induction calls using List.reverseRecOn with
  | nil => simp [after]
  | append_singleton calls call ih =>
    rw [after_concat]
    cases call with
    | publish e => simpa [apply] using ih
    | clear other =>
      by_cases hnumber : number = other
      · simp [apply, hnumber, clear]
      · simpa [apply, hnumber] using ih

end EventStore

/-! ## Leaves by themselves -/

namespace Leaf

variable {leaf : Leaf} {calls : List PublisherCall}

/-- A store in a tree fares like the store by itself. -/
theorem after_store (switches : List Bool) (number : Nat) (s : EventStore)
    (calls : List PublisherCall) : after calls ⟨switches, .store number s⟩ =
      ⟨switches, .store number (s.after (switches.all id) number calls)⟩ := by
  induction calls generalizing s with
  | nil => rfl
  | cons call calls ih =>
    have hcall : apply call ⟨switches, .store number s⟩ =
        ⟨switches, .store number (s.apply (switches.all id) number call)⟩ := by
      cases call with
      | publish e =>
        by_cases hon : switches.all id = true <;>
          simp [apply, reached, Receiver.receive, EventStore.apply, hon]
      | clear other => rfl
    show after calls (apply call _) = _
    rw [hcall, ih]
    rfl

/-- A leaf that is not a store stays as it is. -/
theorem after_eq_self (h : leaf.receiver.store? = none) : leaf.after calls = leaf := by
  obtain ⟨switches, receiver⟩ := leaf
  have hcall : ∀ call, apply call ⟨switches, receiver⟩ = ⟨switches, receiver⟩ := by
    intro call
    cases receiver with
    | store number s => cases h
    | listener | log =>
      cases call with
      | publish e => exact ite_self _
      | clear number => rfl
  induction calls with
  | nil => rfl
  | cons call calls ih =>
    show after calls (apply call _) = _
    rw [hcall, ih]

/-- A leaf does with an event what it did at first. -/
theorem deliveries_after (e : Event) (calls : List PublisherCall) (leaf : Leaf) :
    (leaf.after calls).deliveries e = leaf.deliveries e := by
  obtain ⟨switches, receiver⟩ := leaf
  cases receiver with
  | store number s => rw [after_store]; rfl
  | listener | log => rw [after_eq_self rfl]

/-- A store keeps its number. -/
theorem number_after (calls : List PublisherCall) (leaf : Leaf) :
    (leaf.after calls).receiver.store?.map Prod.fst = leaf.receiver.store?.map Prod.fst := by
  obtain ⟨switches, receiver⟩ := leaf
  cases receiver with
  | store number s => rw [after_store]; rfl
  | listener | log => rw [after_eq_self rfl]

end Leaf

/-! ## Trees -/

namespace Publisher

variable {p : Publisher} {leaf : Leaf} {number : Nat} {s : EventStore} {calls : List PublisherCall}

/-- Also after a run, an event is delivered to the leaves in order: no call moves a leaf or turns a
switch. -/
theorem publish_after (e : Event) :
    ((p.after calls).publish e).2 = p.leaves.flatMap (Leaf.deliveries e) := by
  rw [publish_eq, leaves_after, List.flatMap_map]
  simp only [Leaf.deliveries_after]

/-- A run leaves the stores where they are. -/
theorem numbers_after : (p.after calls).stores.map Prod.fst = p.stores.map Prod.fst := by
  rw [stores_eq, stores_eq, leaves_after, List.filterMap_map, List.map_filterMap,
    List.map_filterMap]
  exact List.filterMap_congr fun leaf _ => leaf.number_after calls

/-- A store among the leaves is a store of the tree. -/
theorem mem_stores (h : leaf ∈ p.leaves) (hleaf : leaf.receiver = .store number s) :
    (number, s) ∈ p.stores := by
  rw [stores_eq, List.mem_filterMap]
  exact ⟨leaf, h, by rw [hleaf]; rfl⟩

/-- Looking up a number finds the store with it, if there is but one. -/
theorem store?_eq_some (hplaced : (p.stores.map Prod.fst).Nodup) (h : leaf ∈ p.leaves)
    (hleaf : leaf.receiver = .store number s) : p.store? number = some s := by
  obtain ⟨before, after, hsplit⟩ := List.append_of_mem (mem_stores h hleaf)
  rw [hsplit, List.map_append, List.nodup_append] at hplaced
  refine List.lookup_eq_some_iff.2 ⟨before, after, hsplit, fun q hq => ?_⟩
  have hne : q.1 ≠ number := hplaced.2.2 _ (List.mem_map_of_mem hq) _ (.head _)
  simpa using hne.symm

/-- If no two stores share a number, the store with the number of a leaf is that leaf's, and has
gone through the run by itself. -/
theorem store?_after (hplaced : (p.stores.map Prod.fst).Nodup) (h : leaf ∈ p.leaves)
    (hleaf : leaf.receiver = .store number s) :
    (p.after calls).store? number = some (s.after leaf.reached number calls) := by
  have hafter : (leaf.after calls).receiver =
      .store number (s.after leaf.reached number calls) := by
    obtain ⟨switches, receiver⟩ := leaf
    cases hleaf
    rw [Leaf.after_store]
    rfl
  have hmem : leaf.after calls ∈ (p.after calls).leaves := by
    rw [leaves_after]
    exact List.mem_map_of_mem h
  exact store?_eq_some (by rwa [numbers_after]) hmem hafter

/-- **Every event reaches the leaves whose multicasters are switched on.** Take any tree in which
each store is placed once, and any run of publishing events and emptying stores. The next event is
delivered to every such leaf once, depth first, and to nobody else. A store that is reached holds
the latest of the events published since it was last emptied, as many as its bound allows, in the
order of publication, and so do its queries. A store that is not reached gets nothing. -/
theorem delivers_and_keeps (p : Publisher) (hplaced : (p.stores.map Prod.fst).Nodup)
    (hheld : ∀ q ∈ p.stores, q.2.events.length ≤ q.2.bound) (calls : List PublisherCall) :
    (∀ e, ((p.after calls).publish e).2 = p.leaves.flatMap (Leaf.deliveries e)) ∧
    ∀ leaf ∈ p.leaves, ∀ number s, leaf.receiver = .store number s →
      ∃ s', (p.after calls).store? number = some s' ∧
        (leaf.reached = true →
          let kept := (EventStore.sinceCleared number s.events calls).rtake s.bound
          s'.events = kept ∧
          kept.length = min s.bound (EventStore.sinceCleared number s.events calls).length ∧
          (∀ kind, s'.ofKind kind = kept.filter fun e => e.kind = kind) ∧
          ∀ name, s'.ofPrincipal name = kept.filter fun e => e.token.name = name) ∧
        (leaf.reached = false →
          s'.events = if .clear number ∈ calls then [] else s.events) := by
  refine ⟨publish_after, fun leaf h number s hleaf =>
    ⟨_, store?_after hplaced h hleaf, fun hreached => ?_, fun hreached => ?_⟩⟩
  · have hevents : (s.after true number calls).events =
        (EventStore.sinceCleared number s.events calls).rtake s.bound :=
      EventStore.events_after (hheld _ (mem_stores h hleaf))
    rw [hreached]
    refine ⟨hevents, EventStore.length_rtake _ _, fun kind => ?_, fun name => ?_⟩
    · rw [EventStore.ofKind, hevents]
      rfl
    · rw [EventStore.ofPrincipal, hevents]
      rfl
  · rw [hreached]
    exact EventStore.events_after_unreached

/-- Of three stores one is small, one is switched off and one has no room at all. -/
theorem delivers_and_keeps_three_stores :
    let e := fun millis => Event.success ⟨millis, 0, 0⟩ (.usernamePassword "alice" "pw")
    let p : Publisher := .multicast true [.store 0 { bound := 2 },
      .multicast false [.listener 0, .store 1 {}],
      .multicast true [.store 2 { bound := 0 }, .listener 1]]
    let calls : List PublisherCall :=
      [.publish (e 1), .clear 0, .publish (e 2), .publish (e 3), .publish (e 4)]
    ((p.after calls).publish (e 5)).2 = [.stored 0 (e 5), .stored 2 (e 5), .heard 1 (e 5)] ∧
      (∃ s, (p.after calls).store? 0 = some s ∧ s.events = [e 3, e 4] ∧
        s.ofPrincipal "alice" = [e 3, e 4]) ∧
      (∃ s, (p.after calls).store? 1 = some s ∧ s.events = []) ∧
      ∃ s, (p.after calls).store? 2 = some s ∧ s.events = [] := by
  intro e p calls
  obtain ⟨hdelivered, hkept⟩ := p.delivers_and_keeps (by decide) (by decide) calls
  have hleaves : p.leaves = [⟨[true], .store 0 { bound := 2 }⟩, ⟨[true, false], .listener 0⟩,
      ⟨[true, false], .store 1 {}⟩, ⟨[true, true], .store 2 { bound := 0 }⟩,
      ⟨[true, true], .listener 1⟩] := rfl
  rw [hleaves] at hdelivered hkept
  refine ⟨hdelivered (e 5), ?_, ?_, ?_⟩
  · obtain ⟨s, hs, hreached, -⟩ := hkept ⟨[true], .store 0 { bound := 2 }⟩ (by simp) 0 _ rfl
    obtain ⟨hevents, -, -, hprincipal⟩ := hreached rfl
    exact ⟨s, hs, hevents, hprincipal "alice"⟩
  · obtain ⟨s, hs, -, hunreached⟩ := hkept ⟨[true, false], .store 1 {}⟩ (by simp) 1 _ rfl
    exact ⟨s, hs, (hunreached rfl).trans (ite_self _)⟩
  · obtain ⟨s, hs, hreached, -⟩ := hkept ⟨[true, true], .store 2 { bound := 0 }⟩ (by simp) 2 _ rfl
    exact ⟨s, hs, (hreached rfl).1⟩

end Publisher

end Admission
