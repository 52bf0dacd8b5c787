import Mathlib.Data.List.Forall2
import Mathlib.Logic.Relation
import Admission.Proofs.Session.Capacity

/-!
# Who has to go

Where new sessions are not refused, a login that is one too many expires the least recently used
sessions of the principal. Whatever number of rounds that takes, each session is as it was or was
live and is now marked as expired, and then none that is still live had its last request earlier
(`Evicts`). One round expires one session, and rounds compose (`Evicts.trans`).

The same may be told as a loop that counts down (`Search.Step`): while the count of live sessions is
not below the maximum, the least recently used one expires and the count falls by one. The count is
the number of live sessions throughout (`Search.active_eq`), so that there is a session to expire
and something to count down whenever the loop goes on, and the loop ends where the rounds do
(`Search.sessions_eq`).
-/

namespace Admission

/-- A live session, and the same session marked as expired. -/
def Session.Evicted (s t : Session) : Prop :=
  s.expired = false ∧ t = { s with expired := true }

namespace SessionControl

variable {l a b c : List Session} {s t : Session} {time n maximum : Nat}

/-! ## Eviction -/

/-- Each session is as it was, or was evicted and had its last request no later than any that is
still live. -/
def Evicts (before after : List Session) : Prop :=
  List.Forall₂ (fun s t => t = s ∨ s.Evicted t ∧ ∀ u ∈ live after, s.lastRequest ≤ u.lastRequest)
    before after

/-- The sessions that expired, as they were before. -/
def evicted (before after : List Session) : List Session :=
  ((before.zip after).filter fun x => !x.1.expired && x.2.expired).map Prod.fst

/-- Where nothing changes nobody is evicted. -/
theorem Evicts.refl (l : List Session) : Evicts l l :=
  List.forall₂_same.2 fun _ _ => .inl rfl

/-- Nothing changes but marks of live sessions. -/
theorem Evicts.marks (h : Evicts a b) : List.Forall₂ (fun s t => t = s ∨ s.Evicted t) a b :=
  List.Forall₂.imp (fun _ _ hst => hst.imp_right And.left) h

/-- Eviction revives nobody. -/
theorem Evicts.live_subset (h : Evicts a b) : live b ⊆ live a := by
  have hmarks := h.marks
  clear h
  induction hmarks with
  | nil => exact fun _ hu => hu
  | @cons s t a b hst _ ih =>
    intro u hu
    obtain ⟨hmem, hlive⟩ := mem_live.1 hu
    rcases List.mem_cons.1 hmem with rfl | hmem
    · rcases hst with rfl | ⟨-, rfl⟩
      · exact mem_live.2 ⟨List.mem_cons_self, hlive⟩
      · cases hlive
    · obtain ⟨hmem, hlive⟩ := mem_live.1 (ih (mem_live.2 ⟨hmem, hlive⟩))
      exact mem_live.2 ⟨List.mem_cons_of_mem _ hmem, hlive⟩

/-- Pointwise relations compose. -/
theorem forall₂_trans {P Q R : Session → Session → Prop} (h : ∀ s t u, P s t → Q t u → R s u)
    (hab : List.Forall₂ P a b) (hbc : List.Forall₂ Q b c) : List.Forall₂ R a c := by
  induction hab generalizing c with
  | nil => cases hbc; exact .nil
  | cons hst _ ih =>
    cases hbc with
    | cons htu hbc => exact .cons (h _ _ _ hst htu) (ih hbc)

/-- Evictions compose: what is live at the end was live in between. -/
theorem Evicts.trans (hab : Evicts a b) (hbc : Evicts b c) : Evicts a c := by
  refine forall₂_trans (fun s t u hst htu => ?_) hab hbc
  rcases hst with rfl | ⟨⟨hs, rfl⟩, hle⟩
  · exact htu
  · rcases htu with rfl | ⟨⟨hexpired, -⟩, -⟩
    · exact .inr ⟨⟨hs, rfl⟩, fun u hu => hle u (hbc.live_subset hu)⟩
    · cases hexpired

/-- Every session that is evicted makes one live session less. -/
theorem Evicts.length_evicted (h : Evicts a b) :
    (evicted a b).length + (live b).length = (live a).length := by
  have hmarks := h.marks
  clear h
  induction hmarks with
  | nil => rfl
  | @cons s t a b hst _ ih =>
    simp only [evicted, live, List.length_map] at ih
    rcases hst with rfl | ⟨hs, rfl⟩
    · cases ht : t.expired with
      | true => simpa [evicted, live, ht] using ih
      | false =>
        simp only [evicted, live, List.zip_cons_cons, List.filter_cons, ht, Bool.not_false,
          Bool.and_false, Bool.false_eq_true, if_false, if_true, List.length_map, List.length_cons]
        omega
    · simp only [evicted, live, List.zip_cons_cons, List.filter_cons, hs, Bool.not_false,
        Bool.not_true, Bool.and_true, Bool.false_eq_true, if_false, if_true, List.length_map,
        List.length_cons]
      omega

/-- Who is evicted had its last request no later than any that is still live. -/
theorem Evicts.lastRequest_le (h : Evicts a b) (hs : s ∈ evicted a b) (ht : t ∈ live b) :
    s.lastRequest ≤ t.lastRequest := by
  obtain ⟨⟨s, u⟩, hmem, rfl⟩ := List.mem_map.1 hs
  obtain ⟨hzip, hmarks⟩ := List.mem_filter.1 hmem
  rw [Bool.and_eq_true, Bool.not_eq_true'] at hmarks
  rcases (List.forall₂_iff_zip.1 h).2 hzip with rfl | ⟨-, hle⟩
  · exact absurd (hmarks.1.symm.trans hmarks.2) Bool.noConfusion
  · exact hle t ht

/-! ## Rounds -/

/-- The session that expires in a round was live and had its last request at the given time. -/
theorem forall₂_expireFirst (time : Nat) (l : List Session) :
    List.Forall₂ (fun s t => t = s ∨ s.Evicted t ∧ s.lastRequest = time) l
      (expireFirst time l) := by
  induction l with
  | nil => exact .nil
  | cons s rest ih =>
    unfold expireFirst
    split
    · next hs =>
      simp only [isLiveAt, Bool.and_eq_true, Bool.not_eq_true', beq_iff_eq] at hs
      exact .cons (.inr ⟨⟨hs.1, rfl⟩, hs.2⟩) (List.forall₂_same.2 fun _ _ => .inl rfl)
    · exact .cons (.inl rfl) ih

/-- No live session had its last request before the oldest one. -/
theorem oldest?_le (h : oldest? l = some time) (hs : s ∈ live l) : time ≤ s.lastRequest :=
  (List.min?_eq_some_iff.1 h).2 _ (List.mem_map_of_mem hs)

/-- A round evicts a least recently used session. -/
theorem evicts_expireFirst (h : oldest? l = some time) : Evicts l (expireFirst time l) := by
  refine List.Forall₂.imp (fun s t hst => hst.imp_right fun ⟨hevicted, htime⟩ => ⟨hevicted, ?_⟩)
    (forall₂_expireFirst time l)
  intro u hu
  rw [htime]
  exact oldest?_le h (live_expireFirst_sublist.subset hu)

/-- **However many rounds there are, the least recently used sessions are evicted.** -/
theorem evicts_expireOldest (n : Nat) : Evicts l (expireOldest n l).1 := by
  induction n generalizing l with
  | zero => exact .refl l
  | succ n ih =>
    unfold expireOldest
    split
    · exact .refl l
    · next h => exact (evicts_expireFirst h).trans ih

/-- As many sessions are evicted as there are live ones beyond one less than the maximum. -/
theorem length_evicted_expireOldest (hpos : 0 < maximum) :
    (evicted l (expireOldest ((live l).length + 1 - maximum) l).1).length =
      (live l).length - (maximum - 1) := by
  have hcount := (evicts_expireOldest (l := l) ((live l).length + 1 - maximum)).length_evicted
  rw [length_live_expireOldest] at hcount
  omega

/-! ## The loop -/

/-- A search for room under way: how many sessions count as live, and the sessions. -/
structure Search where
  active : Nat
  sessions : List Session

namespace Search

/-- The start of a search. -/
def start (l : List Session) : Search :=
  ⟨(live l).length, l⟩

/-- While the count is not below the maximum, a least recently used session expires and the count
falls by one. -/
inductive Step (maximum : Nat) : Search → Search → Prop
  | expire {active time : Nat} {l : List Session} (full : maximum ≤ active)
    (oldest : oldest? l = some time) :
    Step maximum ⟨active, l⟩ ⟨active - 1, expireFirst time l⟩

/-- The states that a search in a list comes by. -/
def Reaches (maximum : Nat) (l : List Session) : Search → Prop :=
  Relation.ReflTransGen (Step maximum) (start l)

variable {x y : Search}

/-- A step of the search counts the live records right. -/
theorem Step.active_eq (h : Step maximum x y) (hx : x.active = (live x.sessions).length) :
    y.active = (live y.sessions).length := by
  cases h with
  | expire full oldest =>
    have hlength := length_live_expireFirst (exists_isLiveAt oldest)
    simp only at hx ⊢
    omega

/-- The count is the number of live sessions, from the start to the end. -/
theorem active_eq (h : Reaches maximum l x) : x.active = (live x.sessions).length := by
  induction h with
  | refl => rfl
  | tail _ hstep ih => exact hstep.active_eq ih

/-- A search that goes on has a session to expire. -/
theorem oldest?_ne_none (hpos : 0 < maximum) (hx : x.active = (live x.sessions).length)
    (hfull : maximum ≤ x.active) : oldest? x.sessions ≠ none := by
  intro hnone
  rw [hx, oldest?_eq_none.1 hnone] at hfull
  exact absurd hfull (Nat.not_le_of_lt hpos)

/-- A step does one of the rounds that are left. -/
theorem Step.expireOldest_eq (hpos : 0 < maximum) (h : Step maximum x y) :
    (expireOldest (y.active + 1 - maximum) y.sessions).1 =
      (expireOldest (x.active + 1 - maximum) x.sessions).1 := by
  cases h with
  | @expire active time l full oldest =>
    have hleft : active + 1 - maximum = (active - 1 + 1 - maximum) + 1 := by omega
    simp only [hleft, expireOldest, oldest]

/-- The rounds that are left lead to the same sessions, from the start to the end. -/
theorem expireOldest_eq (hpos : 0 < maximum) (h : Reaches maximum l x) :
    (expireOldest (x.active + 1 - maximum) x.sessions).1 =
      (expireOldest ((live l).length + 1 - maximum) l).1 := by
  induction h with
  | refl => rfl
  | tail _ hstep ih => exact (hstep.expireOldest_eq hpos).trans ih

/-- A search that has ended has done all rounds. -/
theorem sessions_eq (hpos : 0 < maximum) (h : Reaches maximum l x) (hend : x.active < maximum) :
    x.sessions = (expireOldest ((live l).length + 1 - maximum) l).1 := by
  have hnone : x.active + 1 - maximum = 0 := by omega
  rw [← expireOldest_eq hpos h, hnone]
  rfl

/-- Every search ends. -/
theorem exists_end (hpos : 0 < maximum) (hx : Reaches maximum l x) :
    ∃ y, Reaches maximum l y ∧ y.active < maximum := by
  induction hn : x.active generalizing x with
  | zero => exact ⟨x, hx, hn ▸ hpos⟩
  | succ n ih =>
    rcases Nat.lt_or_ge x.active maximum with hlt | hge
    · exact ⟨x, hx, hlt⟩
    · obtain ⟨time, htime⟩ :=
        Option.ne_none_iff_exists'.1 (oldest?_ne_none hpos (active_eq hx) hge)
      have hstep : Step maximum x ⟨x.active - 1, expireFirst time x.sessions⟩ := .expire hge htime
      exact ih (hx.tail hstep) (by simp only; omega)

end Search

/-! ## Registration -/

section

variable {limit : SessionLimit} {maximum : UInt64} {id fresh : String} {ids : List String}
  {r : SessionRegistry} {proven : Token} {after : List Session}

/-- Whoever has the session already needs no room. -/
theorem makeRoom_of_owned (h : owns l id = true) :
    makeRoom ⟨some maximum, false⟩ id l = .ok (l, []) :=
  makeRoom_of_hasRoom fun _ _ => .inl h

/-- Where the session is not owned, as many sessions expire as it takes to get below the maximum. -/
theorem makeRoom_of_not_owned (h : owns l id = false) : makeRoom ⟨some maximum, false⟩ id l =
    .ok (expireOldest ((live l).length + 1 - maximum.toNat) l) := by
  rcases Nat.lt_or_ge (live l).length maximum.toNat with hlt | hge
  · have hroom : HasRoom ⟨some maximum, false⟩ id l := by
      intro m hm
      cases hm
      exact .inr hlt
    have hnone : (live l).length + 1 - maximum.toNat = 0 := by omega
    rw [makeRoom_of_hasRoom hroom, hnone]
    rfl
  · exact makeRoom_of_full ⟨rfl, h, hge⟩

/-- Once there is room the session is recorded behind the others, and a former owner loses it. -/
theorem register_of_makeRoom (valid : limit.validate = .ok ()) (now : Nat)
    (h : makeRoom limit (proven.sessionId?.getD fresh) (r.all proven.name) = .ok (after, ids)) :
    ∃ r' log, register (.limited limit valid) r now fresh proven = .ok (r', log) ∧
      r'.all proven.name =
        after ++ [⟨proven.name, proven.sessionId?.getD fresh, now, false⟩] ∧
      ∀ q, q ≠ proven.name → r'.all q =
        if r.owners[proven.sessionId?.getD fresh]? = some q then
          (r.all q).filter fun s => s.id != proven.sessionId?.getD fresh
        else r.all q := by
  have hregister : ∃ log, register (.limited limit valid) r now fresh proven =
      .ok ((r.modify proven.name fun _ => after).register now (proven.sessionId?.getD fresh)
        proven.name, log) := by
    simp only [register, h]
    exact ⟨_, rfl⟩
  obtain ⟨log, hregister⟩ := hregister
  refine ⟨_, log, hregister, ?_, fun q hq => ?_⟩
  · rw [SessionRegistry.all_register, if_pos rfl, SessionRegistry.all_modify, if_pos rfl]
  · have hformer : (r.modify proven.name fun _ => after).formerOwner
          (proven.sessionId?.getD fresh) proven.name = some q ↔
        r.owners[proven.sessionId?.getD fresh]? = some q :=
      SessionRegistry.formerOwner_eq_some.trans (and_iff_left hq)
    rw [SessionRegistry.all_register, if_neg hq.symm, SessionRegistry.all_modify,
      if_neg hq.symm]
    simp only [hformer]

end

/-- **The least recently used sessions go, and no more than have to.**

Where new sessions are not refused, every registration succeeds, whatever the registry: a live
record comes behind those of the principal, and of all others only a former owner of the identifier
loses something, namely its records of it. If the principal owns the session, its other records are
as before. If not, as many of its live sessions are marked as expired as there are beyond one less
than the maximum, none of them with a last request later than any that is still live, and nothing
else changes. The loop that does so ends, finds a session to expire and something to count down
whenever it goes on, and ends with just these records. -/
theorem register_evicts {maximum : UInt64}
    (valid : (⟨some maximum, false⟩ : SessionLimit).validate = .ok ()) (r : SessionRegistry)
    (now : Nat) (fresh : String) (proven : Token) :
    let p := proven.name
    let id := proven.sessionId?.getD fresh
    let before := r.all p
    ∃ r' log after,
      register (.limited ⟨some maximum, false⟩ valid) r now fresh proven = .ok (r', log) ∧
      r'.all p = after ++ [⟨p, id, now, false⟩] ∧
      (∀ q, q ≠ p → r'.all q =
        if r.owners[id]? = some q then (r.all q).filter fun s => s.id != id else r.all q) ∧
      (owns before id = true → after = before) ∧
      (owns before id = false →
        List.Forall₂ (fun s t => t = s ∨ s.Evicted t) before after ∧
        (evicted before after).length = r.activeCount p - (maximum.toNat - 1) ∧
        (∀ s ∈ evicted before after, ∀ t ∈ live after, s.lastRequest ≤ t.lastRequest) ∧
        (∃ x, Search.Reaches maximum.toNat before x ∧ x.active < maximum.toNat) ∧
        ∀ x, Search.Reaches maximum.toNat before x →
          (maximum.toNat ≤ x.active → 0 < x.active ∧ oldest? x.sessions ≠ none) ∧
          (x.active < maximum.toNat → x.sessions = after)) := by
  intro p id before
  have hpos : 0 < maximum.toNat := SessionLimit.maximum_pos valid rfl
  cases hown : owns before id with
  | true =>
    obtain ⟨r', log, hregister, hall, hothers⟩ :=
      register_of_makeRoom valid now (makeRoom_of_owned hown)
    exact ⟨r', log, before, hregister, hall, hothers, fun _ => rfl, nofun⟩
  | false =>
    obtain ⟨r', log, hregister, hall, hothers⟩ :=
      register_of_makeRoom valid now (makeRoom_of_not_owned hown)
    have hevicts :
        Evicts before (expireOldest ((live before).length + 1 - maximum.toNat) before).1 :=
      evicts_expireOldest _
    refine ⟨r', log, _, hregister, hall, hothers, nofun, fun _ => ?_⟩
    refine ⟨hevicts.marks, length_evicted_expireOldest hpos,
      fun s hs t ht => hevicts.lastRequest_le hs ht, Search.exists_end hpos .refl,
      fun x hx => ⟨fun hfull => ⟨Nat.lt_of_lt_of_le hpos hfull, ?_⟩, Search.sessions_eq hpos hx⟩⟩
    exact Search.oldest?_ne_none hpos (Search.active_eq hx) hfull

/-- Three sessions recorded past the control, and a login under a maximum of two. -/
theorem register_evicts_two_of_three :
    let r := SessionRegistry.run
      [.record 0 "a" "alice", .record 5 "b" "alice", .record 3 "c" "alice"] .empty
    let login := (Token.usernamePassword "alice" "pw").withDetails { sessionId := some "d" }
    ∃ r' log after, register (.limited ⟨some 2, false⟩ rfl) r 7 "" login = .ok (r', log) ∧
      r'.all "alice" = after ++ [⟨"alice", "d", 7, false⟩] ∧
      (evicted (r.all "alice") after).length = 2 ∧
      ∀ s ∈ evicted (r.all "alice") after, ∀ t ∈ live after, s.lastRequest ≤ t.lastRequest := by
  intro r login
  have hall : r.all "alice" =
      [⟨"alice", "a", 0, false⟩, ⟨"alice", "b", 5, false⟩, ⟨"alice", "c", 3, false⟩] := by
    simp [r, SessionRegistry.run, RegistryCall.step, SessionRegistry.all_register]
  have hown : owns (r.all "alice") "d" = false := by
    rw [hall]
    decide
  have htwo : r.activeCount "alice" - ((2 : UInt64).toNat - 1) = 2 := by
    have hactive : r.activeCount "alice" = 3 := congrArg (fun l => (live l).length) hall
    rw [hactive]
    rfl
  have valid : (⟨some 2, false⟩ : SessionLimit).validate = .ok () := rfl
  obtain ⟨r', log, after, hregister, hrecorded, -, -, hevicted⟩ :=
    register_evicts valid r 7 "" login
  obtain ⟨-, hcount, holdest, -⟩ := hevicted hown
  exact ⟨r', log, after, hregister, hrecorded, hcount.trans htwo, holdest⟩

end SessionControl

end Admission
