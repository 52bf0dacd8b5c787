import Admission.Proofs.Announcement
import Admission.Proofs.Provider.Acceptance

/-!
# What the check of a set-up is worth

A set-up is refused if it has no provider or if an error of a declared kind has no event, and the
kind that is named is the first such one in the order in which the kinds are declared
(`EventMappings.FirstGap`). The check is worth what the declarations are: if every provider fails
only with errors that it declares (`Provider.FailsAsDeclared`), no decision of the manager ever
meets an error without an event (`Manager.entry_of_endsIn`). The standard providers and both session
controls keep to what they declare.
-/

namespace Admission

variable {σ : Type}

/-! ## Gaps in a table -/

/-- A kind is the first of a list that has no event. -/
def EventMappings.FirstGap (m : EventMappings) (kinds : List ErrorKind) (kind : ErrorKind) : Prop :=
  ∃ before after, kinds = before ++ kind :: after ∧ (∀ k ∈ before, m.entry k ≠ none) ∧
    m.entry kind = none

namespace EventMappings

variable {m : EventMappings} {kinds : List ErrorKind} {kind : ErrorKind}

/-- A table contains the kinds of errors that have an event. -/
theorem contains_eq_true : m.contains kind = true ↔ m.entry kind ≠ none := by
  rw [contains, Option.isSome_iff_ne_none]

/-- It does not contain those that have none. -/
theorem not_contains_eq_true : (!m.contains kind) = true ↔ m.entry kind = none := by
  rw [Bool.not_eq_true', ← Bool.not_eq_true, contains_eq_true, Decidable.not_not]

/-- The kind that the check names is the first gap. -/
theorem firstUnmapped_eq_some : m.firstUnmapped kinds = some kind ↔ m.FirstGap kinds kind := by
  simp only [firstUnmapped, List.find?_eq_some_iff_append, not_contains_eq_true, Bool.not_not,
    contains_eq_true]
  constructor
  · rintro ⟨hkind, before, after, hkinds, hbefore⟩
    exact ⟨before, after, hkinds, hbefore, hkind⟩
  · rintro ⟨before, after, hkinds, hbefore, hkind⟩
    exact ⟨hkind, before, after, hkinds, hbefore⟩

/-- The check names no kind if all have an event. -/
theorem firstUnmapped_eq_none :
    m.firstUnmapped kinds = none ↔ ∀ k ∈ kinds, m.entry k ≠ none := by
  simp only [firstUnmapped, List.find?_eq_none, not_contains_eq_true, ne_eq]

end EventMappings

/-! ## The check -/

namespace Setup

variable {s : Setup σ} {e : ConfigError} {m : Manager σ}

/-- A set-up is refused for want of a provider, and else for the first gap in its table. -/
theorem check_eq_error : s.check = .error e ↔
    (s.providers = [] ∧ e = .emptyProviderList) ∨
      s.providers ≠ [] ∧ ∃ kind, s.mappings.FirstGap s.required kind ∧
        e = .missingEventMapping kind := by
  unfold check
  cases hp : s.providers with
  | nil => simp [eq_comm]
  | cons p ps =>
    simp only [← EventMappings.firstUnmapped_eq_some]
    cases s.mappings.firstUnmapped s.required <;> simp [eq_comm]

/-- A set-up is complete if it has a provider and an event for every kind that is required. -/
theorem check_eq_ok : s.check = .ok () ↔
    s.providers ≠ [] ∧ ∀ kind ∈ s.required, s.mappings.entry kind ≠ none := by
  unfold check
  cases hp : s.providers with
  | nil => simp
  | cons p ps =>
    simp only [← EventMappings.firstUnmapped_eq_none]
    cases s.mappings.firstUnmapped s.required <;> simp

/-- Building fails as the check does. -/
theorem build_eq_error : s.build = .error e ↔ s.check = .error e := by
  unfold build
  constructor
  · intro h
    split at h
    · next e' he => cases h; exact he
    · cases h
  · intro h
    split
    · next e' he => cases he.symm.trans h; rfl
    · next hok => cases hok.symm.trans h

/-- What is built of a set-up is a manager of that set-up. -/
theorem build_eq_ok : s.build = .ok m ↔ m.toSetup = s := by
  unfold build
  constructor
  · intro h
    split at h
    · cases h
    · cases h; rfl
  · rintro rfl
    split
    · next e he => cases m.complete.symm.trans he
    · rfl

/-- A set-up can be built exactly if it is complete. -/
theorem exists_build_eq_ok : (∃ m, s.build = .ok m) ↔ s.check = .ok () := by
  constructor
  · rintro ⟨m, hm⟩
    rw [← build_eq_ok.1 hm]
    exact m.complete
  · intro h
    exact ⟨⟨s, h⟩, build_eq_ok.2 rfl⟩

end Setup

/-! ## Declarations -/

/-- A provider fails only with errors that it declares. -/
def Provider.FailsAsDeclared (p : Provider σ) : Prop :=
  ∀ request s e, (p.attempt request s).1.answer = .failed e → e.kind ∈ p.declared

namespace SessionControl

variable {c : SessionControl} {r : SessionRegistry} {request proven : Token} {e : AuthError}
  {log : List LogRecord} {now : Nat} {fresh : String}

/-- A session control denies a request only with an error that it declares. -/
theorem kind_of_check (h : c.check r request = (.error e, log)) : e.kind ∈ c.declared := by
  unfold check at h
  split at h
  · cases h
  · cases h
  · dsimp only at h
    split at h
    · cases h
    · split at h
      · cases h
      · cases h
        exact List.mem_singleton.2 rfl

/-- A session control refuses a session only with an error that it declares. -/
theorem kind_of_register (h : c.register r now fresh proven = .error e) : e.kind ∈ c.declared := by
  cases c with
  | unrestricted => cases h
  | limited limit valid =>
    simp only [register] at h
    split at h
    · next e' hroom =>
      cases h
      rcases hasRoom_or_full limit (proven.sessionId?.getD fresh) (r.all proven.name) with
        hroom' | ⟨maximum, hfull⟩
      · cases hroom.symm.trans (makeRoom_of_hasRoom hroom')
      · rw [makeRoom_of_full hfull] at hroom
        split at hroom
        · cases hroom
          exact List.mem_singleton.2 rfl
        · cases hroom
    · cases h

end SessionControl

namespace Manager

variable {m : Manager σ} {o : Occasion} {request : Token} {s : State σ} {e : AuthError}

/-- An error that the check of the set-up has looked at is reported as it is. -/
theorem report_of_required (h : e.kind ∈ m.required) : m.report e = .authentication e :=
  if_pos (EventMappings.contains_eq_true.2 ((Setup.check_eq_ok.1 m.complete).2 e.kind h))

/-- If the providers keep to what they declare, a decision ends only in errors that the check of the
set-up has looked at. -/
theorem kind_of_endsIn (hm : ∀ p ∈ m.providers, p.FailsAsDeclared)
    (h : m.EndsIn o request s e) : e.kind ∈ m.required := by
  cases h with
  | denied check => exact List.mem_append_right _ (SessionControl.kind_of_check check)
  | failed check verdict =>
    rcases verdict_eq_error verdict with rfl | ⟨c, hc, he⟩
    · exact List.mem_append_left _ List.mem_cons_self
    · have hchain : ∀ c ∈ (consult request 0 m.providers s.realm).1, ∀ e,
          c.attempt.answer = .failed e → e.kind ∈ m.providers.flatMap Provider.declared := by
        refine forall_consult (P := fun a => ∀ e, a.answer = .failed e →
          e.kind ∈ m.providers.flatMap Provider.declared) ?_
        intro p hp s e he
        exact List.mem_flatMap.2 ⟨p, hp, hm p hp request s e he⟩
      have hkind := hchain c hc e (Answer.error?_eq_some.1 he)
      exact List.mem_append_left _ (List.mem_cons_of_mem _ hkind)
  | refused check verdict register =>
    exact List.mem_append_right _ (SessionControl.kind_of_register register)

/-- If the providers keep to what they declare, every error in which a decision ends has an event.
-/
theorem entry_of_endsIn (hm : ∀ p ∈ m.providers, p.FailsAsDeclared)
    (h : m.EndsIn o request s e) : m.mappings.entry e.kind ≠ none :=
  (Setup.check_eq_ok.1 m.complete).2 e.kind (kind_of_endsIn hm h)

/-- If the providers keep to what they declare, no decision finds a gap in the set-up. -/
theorem result_ne_configuration (hm : ∀ p ∈ m.providers, p.FailsAsDeclared) (c : ConfigError) :
    (m.authenticate o request s).result ≠ .error (.configuration c) := by
  intro hc
  obtain ⟨-, e, hends, hentry, -⟩ := (m.ending o request s).of_configuration hc
  exact entry_of_endsIn hm hends hentry

end Manager

/-! ## Set-ups of standard providers -/

namespace StandardProvider

/-- The standard providers raise the errors that they declare, and no others. -/
theorem failsAsDeclared (p : StandardProvider σ) : p.provider.FailsAsDeclared :=
  fun _ _ _ he => kind_of_failed he

/-- **The check of a set-up is exact and sound.**

A set-up of standard providers is refused for want of a provider exactly if it has none. Otherwise
it is refused exactly if some kind of error has no event, and the kind named is the first one of:
the kind for a request that nobody supports, what the providers declare in order of the chain, and
what the session control declares. Otherwise there is a manager with these very parts, and in no
state does it ever answer a request with a fault in its set-up. -/
theorem build_exact (chain : List (StandardProvider σ)) (control : SessionControl)
    (publisher : Publisher) (mappings : EventMappings) (eraseCredentials : Bool) :
    let setup : Setup (Realm σ) :=
      { providers := chain.map StandardProvider.provider
        control := control
        publisher := publisher
        mappings := mappings
        eraseCredentials := eraseCredentials }
    let kinds : List ErrorKind :=
      .providerNotFound :: chain.flatMap (fun p => p.provider.declared) ++ control.declared
    (setup.build = .error .emptyProviderList ↔ chain = []) ∧
    (chain ≠ [] → ∀ e, setup.build = .error e ↔
      ∃ kind, mappings.FirstGap kinds kind ∧ e = .missingEventMapping kind) ∧
    (chain ≠ [] → ((∃ m, setup.build = .ok m) ↔ ∀ kind ∈ kinds, mappings.entry kind ≠ none)) ∧
    ∀ m, setup.build = .ok m → m.toSetup = setup ∧
      ∀ o request s c, (m.authenticate o request s).result ≠ .error (.configuration c) := by
  intro setup kinds
  have hproviders : setup.providers = [] ↔ chain = [] := List.map_eq_nil_iff
  have hrequired : setup.required = kinds := by
    simp only [Setup.required, setup, kinds, List.flatMap_map]
  refine ⟨?_, ?_, ?_, ?_⟩
  · rw [Setup.build_eq_error, Setup.check_eq_error, hproviders]
    simp
  · intro hchain e
    rw [Setup.build_eq_error, Setup.check_eq_error, hproviders, hrequired]
    simp [hchain, setup]
  · intro hchain
    rw [Setup.exists_build_eq_ok, Setup.check_eq_ok, hrequired, Ne, hproviders]
    simp [hchain, setup]
  · intro m hm
    have hsetup := Setup.build_eq_ok.1 hm
    refine ⟨hsetup, fun o request s c => Manager.result_ne_configuration (fun p hp => ?_) c⟩
    rw [hsetup] at hp
    obtain ⟨q, -, rfl⟩ := List.mem_map.1 hp
    exact q.failsAsDeclared

/-- A chain over a service that is down, without and with an event for that. -/
theorem build_exact_outage :
    let down : UserService Unit := ⟨fun _ s => (.error (.storage "down"), s)⟩
    let chain : List (StandardProvider Unit) :=
      [.password 0 { users := down, salt := .replicate 16 0 }, .preAuthenticated ⟨.service down⟩]
    let setup (mappings : EventMappings) : Setup (Realm Unit) :=
      { providers := chain.map StandardProvider.provider
        control := .limited ⟨some 1, true⟩ rfl
        mappings := mappings }
    (setup (.erase .standard .providerUnavailable)).build =
        .error (.missingEventMapping .providerUnavailable) ∧
      ∃ m, (setup .standard).build = .ok m ∧
        ∀ o request s c, (m.authenticate o request s).result ≠ .error (.configuration c) := by
  intro down chain setup
  have hchain : chain ≠ [] := List.cons_ne_nil _ _
  have hexact := build_exact chain (.limited ⟨some 1, true⟩ rfl) (.log true)
  obtain ⟨-, hgap, -⟩ := hexact (.erase .standard .providerUnavailable) true
  obtain ⟨-, -, hbuilt, hsound⟩ := hexact .standard true
  obtain ⟨m, hm⟩ := (hbuilt hchain).2 fun kind _ => Option.some_ne_none _
  refine ⟨(hgap hchain _).2 ⟨_, ?_, rfl⟩, m, hm, (hsound m hm).2⟩
  refine ⟨[.providerNotFound, .badCredentials, .accountLocked, .accountDisabled, .accountExpired,
    .credentialsExpired], _, rfl, ?_, rfl⟩
  simp [EventMappings.erase, EventMappings.standard]

end StandardProvider

end Admission
