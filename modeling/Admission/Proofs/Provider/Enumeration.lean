import Admission.Proofs.Directory
import Admission.Proofs.Provider.Answers

/-!
# Unknown users look like wrong passwords

To somebody without the password, a login of an unknown user (`Unknown`) is the same as one of a
known user with a wrong password (`Mismatched`): the same refusal after the same work, one look-up
and one comparison. The one difference is the first login of an unknown user, in which the stand-in
is encoded as well; if that fails, no unknown user is ever compared with anything.

What happened before matters through the stand-in alone. Over a run of requests, between which the
users may change in any way (`PasswordProvider.visits`), it is not yet encoded or else what the
encoder makes of it (`sound_of_mem_visits`), and it is encoded in the first visit that needs it and
in no other (`encodings_eq_one`, `encodings_visits`). Only those who present the right password
are told what is wrong with the credentials or with what they may do (`accepts_of_discloses`).
-/

namespace Admission

/-! ## Work -/

/-- How much work an attempt was. -/
structure Work where
  lookups : Nat
  encodings : Nat
  comparisons : Nat
  deriving Repr, DecidableEq

/-- The work among notes. -/
def Note.work (notes : List Note) : Work where
  lookups := notes.countP fun
    | .lookup _ => true
    | _ => false
  encodings := notes.count .encode
  comparisons := notes.count .compare

namespace PasswordProvider

variable {σ : Type} {p : PasswordProvider σ} {request : Token} {s : Placeholder × σ}
  {placeholder : Placeholder} {users : σ} {password : String} {u : User} {e : AuthError}

/-! ## Two kinds of logins -/

/-- A login with a password. -/
structure Login (request : Token) (password : String) : Prop where
  kind : request.kind = .usernamePassword
  credentials : request.credentials = .password password

/-- A login of somebody whom the service does not know. -/
structure Unknown (p : PasswordProvider σ) (request : Token) (users : σ) : Prop where
  login : ∃ password, Login request password
  load : (p.users.load request.name users).1 = .ok none

/-- A login of a user whose account may be used, with a password that does not match. -/
def Mismatched (p : PasswordProvider σ) (request : Token) (users : σ) : Prop :=
  ∃ password u, Login request password ∧ (p.users.load request.name users).1 = .ok (some u) ∧
    u.Usable ∧ p.encoder.accepts password u.password = false

/-- An unknown user is refused after a comparison with the stand-in. -/
theorem attempt_of_unknown (h : p.Unknown request s.2) : p.attempt request s =
    (⟨.failed (p.unknownUser request.name), .lookup request.name :: (p.compareStandIn s.1).2 ++
      [.log (.userNotFound request.name)]⟩,
      ((p.compareStandIn s.1).1, (p.users.load request.name s.2).2)) := by
  obtain ⟨⟨password, hkind, hcredentials⟩, hload⟩ := h
  rcases hl : p.users.load request.name s.2 with ⟨found, users⟩
  rw [hl] at hload
  subst hload
  simp only [attempt, hkind, hcredentials, hl, if_true]

/-- A known user is judged by the account. -/
theorem attempt_of_known (hlogin : Login request password)
    (hload : (p.users.load request.name s.2).1 = .ok (some u)) : p.attempt request s =
    (⟨(p.judge request password u).answer,
      .lookup request.name :: (p.judge request password u).notes⟩,
      (s.1, (p.users.load request.name s.2).2)) := by
  rcases hl : p.users.load request.name s.2 with ⟨found, users⟩
  rw [hl] at hload
  subst hload
  simp only [attempt, hlogin.kind, hlogin.credentials, hl, if_true]

/-- A wrong password is refused after one comparison. -/
theorem attempt_of_mismatched (h : p.Mismatched request s.2) : p.attempt request s =
    (⟨.failed badCredentials,
      [.lookup request.name, .compare, .log (.passwordMismatch request.name)]⟩,
      (s.1, (p.users.load request.name s.2).2)) := by
  obtain ⟨password, u, hlogin, hload, husable, haccepts⟩ := h
  have hjudge : p.judge request password u =
      ⟨.failed badCredentials, [.compare, .log (.passwordMismatch request.name)]⟩ := by
    simp only [judge, User.preCheck_eq_ok.2 husable, haccepts, Bool.false_eq_true, if_false]
  rw [attempt_of_known hlogin hload, hjudge]

/-! ## The stand-in in one attempt -/

/-- Judging an account encodes nothing. -/
theorem encode_notMem_judge : .encode ∉ (p.judge request password u).notes := by
  unfold judge
  split
  · simp
  · split
    · split <;> simp
    · simp

/-- Only a login of an unknown user has to do with the stand-in. -/
theorem attempt_of_not_unknown (h : ¬ p.Unknown request s.2) :
    (p.attempt request s).2.1 = s.1 ∧
      (Note.work (p.attempt request s).1.notes).encodings = 0 := by
  simp only [Note.work, List.count_eq_zero]
  unfold attempt
  split
  · next hkind =>
    split
    · next password hcredentials =>
      rcases hl : p.users.load request.name s.2 with ⟨_ | _ | u, users⟩
      · exact ⟨rfl, by simp⟩
      · exact absurd ⟨⟨password, hkind, hcredentials⟩, congrArg Prod.fst hl⟩ h
      · exact ⟨rfl, by simpa using encode_notMem_judge⟩
    · exact ⟨rfl, by simp⟩
  · exact ⟨rfl, by simp⟩

/-- The encoded stand-in, if there is one, is what the encoder makes of it. -/
def Sound (p : PasswordProvider σ) (placeholder : Placeholder) : Prop :=
  ∀ encoded, placeholder = some encoded → encoded = p.encoder.encode p.salt standIn

/-- Before the stand-in is encoded nothing can be wrong with it. -/
theorem sound_none : p.Sound none := fun _ h => nomatch h

/-- How often the stand-in is still to be encoded. -/
def due : Placeholder → Nat
  | none => 1
  | some _ => 0

/-- The work for an unknown user: the stand-in is encoded the first time, and compared if it can be
encoded. -/
theorem work_compareStandIn (h : p.Sound placeholder) :
    Note.work (p.compareStandIn placeholder).2 =
      ⟨0, due placeholder, if (p.encoder.encode p.salt standIn).isOk then 1 else 0⟩ := by
  cases placeholder with
  | none =>
    cases hencode : p.encoder.encode p.salt standIn <;> simp only [compareStandIn, prepare, hencode]
      <;> rfl
  | some encoded =>
    obtain rfl := h encoded rfl
    cases hencode : p.encoder.encode p.salt standIn <;> rfl

/-- From then on the stand-in is there as the encoder makes it. -/
theorem placeholder_compareStandIn (h : p.Sound placeholder) :
    (p.compareStandIn placeholder).1 = some (p.encoder.encode p.salt standIn) := by
  cases placeholder with
  | none =>
    cases hencode : p.encoder.encode p.salt standIn <;> simp only [compareStandIn, prepare, hencode]
  | some encoded =>
    obtain rfl := h encoded rfl
    rfl

/-- An attempt leaves the stand-in as the encoder makes it. -/
theorem Sound.attempt (h : p.Sound placeholder) :
    p.Sound (p.attempt request (placeholder, users)).2.1 := by
  by_cases hunknown : p.Unknown request users
  · rw [attempt_of_unknown hunknown, placeholder_compareStandIn h]
    exact fun _ hencoded => (Option.some.inj hencoded).symm
  · rwa [(attempt_of_not_unknown hunknown).1]

/-- The stand-in stays unencoded as long as nobody unknown logs in. -/
theorem placeholder_attempt_eq_none (h : p.Sound placeholder) :
    (p.attempt request (placeholder, users)).2.1 = none ↔
      placeholder = none ∧ ¬ p.Unknown request users := by
  by_cases hunknown : p.Unknown request users
  · rw [attempt_of_unknown hunknown, placeholder_compareStandIn h]
    simp [hunknown]
  · rw [(attempt_of_not_unknown hunknown).1]
    simp [hunknown]

/-- An unknown user costs one look-up, and the work for an unknown user. -/
theorem work_attempt_of_unknown (h : p.Sound placeholder) (hunknown : p.Unknown request users) :
    Note.work (p.attempt request (placeholder, users)).1.notes =
      ⟨1, due placeholder, if (p.encoder.encode p.salt standIn).isOk then 1 else 0⟩ := by
  have hframe : ∀ notes : List Note, Note.work
      (.lookup request.name :: notes ++ [.log (.userNotFound request.name)]) =
        { Note.work notes with lookups := (Note.work notes).lookups + 1 } := by
    intro notes
    simp [Note.work]
  rw [attempt_of_unknown hunknown, hframe, work_compareStandIn h]

/-- An attempt encodes the stand-in as often as it makes that less due. -/
theorem encodings_attempt (h : p.Sound placeholder) :
    (Note.work (p.attempt request (placeholder, users)).1.notes).encodings +
      due (p.attempt request (placeholder, users)).2.1 = due placeholder := by
  by_cases hunknown : p.Unknown request users
  · rw [work_attempt_of_unknown h hunknown, attempt_of_unknown hunknown,
      placeholder_compareStandIn h]
    rfl
  · obtain ⟨hplaceholder, hencodings⟩ :=
      attempt_of_not_unknown (s := (placeholder, users)) hunknown
    rw [hplaceholder, hencodings, Nat.zero_add]

/-- An attempt encodes the stand-in exactly if it is the first one of an unknown user. -/
theorem encodings_attempt_eq_one (h : p.Sound placeholder) :
    (Note.work (p.attempt request (placeholder, users)).1.notes).encodings = 1 ↔
      placeholder = none ∧ p.Unknown request users := by
  by_cases hunknown : p.Unknown request users
  · rw [work_attempt_of_unknown h hunknown]
    cases placeholder <;> simp [due, hunknown]
  · rw [(attempt_of_not_unknown (s := (placeholder, users)) hunknown).2]
    simp [hunknown]

/-! ## Runs -/

/-- A request, and what became of the users since the request before it. -/
structure Call (σ : Type) where
  change : σ → σ := id
  request : Token

/-- A request together with the stand-in and the users that it meets. -/
structure Visit (σ : Type) where
  request : Token
  met : Placeholder × σ

namespace Visit

/-- What the provider does in a visit, and what it leaves behind. -/
def outcome (p : PasswordProvider σ) (v : Visit σ) : Attempt × (Placeholder × σ) :=
  p.attempt v.request v.met

def work (p : PasswordProvider σ) (v : Visit σ) : Work :=
  Note.work (v.outcome p).1.notes

/-- A visit of somebody whom the service does not know. -/
def OfUnknown (p : PasswordProvider σ) (v : Visit σ) : Prop :=
  p.Unknown v.request v.met.2

end Visit

/-- The visits of a run of requests. -/
def visits (p : PasswordProvider σ) : Placeholder × σ → List (Call σ) → List (Visit σ)
  | _, [] => []
  | s, call :: calls =>
    let v : Visit σ := ⟨call.request, (s.1, call.change s.2)⟩
    v :: p.visits (v.outcome p).2 calls

/-- What the provider does in a run, in order. -/
def notes (p : PasswordProvider σ) (visits : List (Visit σ)) : List Note :=
  visits.flatMap fun v => (v.outcome p).1.notes

variable {calls : List (Call σ)} {before after : List (Visit σ)} {v : Visit σ}

/-- Every visit of a run meets a sound stand-in. -/
theorem sound_of_mem_visits (hs : p.Sound s.1) (h : v ∈ p.visits s calls) : p.Sound v.met.1 := by
  induction calls generalizing s with
  | nil => cases h
  | cons call calls ih =>
    rcases List.mem_cons.1 h with rfl | h
    · exact hs
    · exact ih hs.attempt h

/-- A visit meets the stand-in unencoded if nobody unknown came before. -/
theorem met_eq_none (hs : p.Sound s.1) (h : p.visits s calls = before ++ v :: after) :
    v.met.1 = none ↔ s.1 = none ∧ ∀ w ∈ before, ¬ w.OfUnknown p := by
  induction calls generalizing s before with
  | nil => simp [visits] at h
  | cons call calls ih =>
    cases before with
    | nil =>
      obtain ⟨rfl, -⟩ := List.cons.inj h
      simp
    | cons w before =>
      obtain ⟨rfl, hrest⟩ := List.cons.inj h
      rw [ih hs.attempt hrest, List.forall_mem_cons, ← and_assoc]
      exact and_congr_left fun _ => placeholder_attempt_eq_none hs

/-- The stand-in is encoded in the first visit of somebody unknown. -/
theorem encodings_eq_one (hs : p.Sound s.1) (h : p.visits s calls = before ++ v :: after) :
    (v.work p).encodings = 1 ↔
      s.1 = none ∧ v.OfUnknown p ∧ ∀ w ∈ before, ¬ w.OfUnknown p := by
  have hv : p.Sound v.met.1 := sound_of_mem_visits hs (h ▸ List.mem_append_right _ (.head _))
  calc (v.work p).encodings = 1 ↔ v.met.1 = none ∧ v.OfUnknown p := encodings_attempt_eq_one hv
    _ ↔ (s.1 = none ∧ ∀ w ∈ before, ¬ w.OfUnknown p) ∧ v.OfUnknown p := by
      rw [met_eq_none hs h]
    _ ↔ s.1 = none ∧ v.OfUnknown p ∧ ∀ w ∈ before, ¬ w.OfUnknown p := by
      rw [and_assoc, and_comm (a := v.OfUnknown p)]

/-- A run encodes the stand-in at most as often as that is due. -/
theorem encodings_visits (hs : p.Sound s.1) :
    (Note.work (notes p (p.visits s calls))).encodings ≤ due s.1 := by
  induction calls generalizing s with
  | nil => exact Nat.zero_le _
  | cons call calls ih =>
    let v : Visit σ := ⟨call.request, (s.1, call.change s.2)⟩
    calc (Note.work (notes p (p.visits s (call :: calls)))).encodings
        = (v.work p).encodings + (Note.work (notes p (p.visits (v.outcome p).2 calls))).encodings :=
          List.count_append
      _ ≤ (v.work p).encodings + due (v.outcome p).2.1 := Nat.add_le_add_left (ih hs.attempt) _
      _ = due s.1 := encodings_attempt hs

/-! ## What a wrong password is not told -/

/-- An error that tells something of an account to those who hold its password. -/
def Discloses (e : AuthError) : Prop :=
  e.kind = .credentialsExpired ∨ e.message = "User has no granted authorities"

/-- That an account may not be used is not such an error: it is raised without the password. -/
theorem not_discloses_preCheck (h : u.preCheck = .error e) : ¬ Discloses e := by
  unfold User.preCheck at h
  split at h
  · cases h; simp [Discloses]
  · split at h
    · cases h; simp [Discloses]
    · split at h
      · cases h; simp [Discloses]
      · cases h

/-- Such an error is raised only after the password was accepted. -/
theorem accepts_of_discloses (hhide : p.hideUnknown = true)
    (h : (p.attempt request s).1.answer = .failed e) (he : Discloses e) :
    ∃ password u, Login request password ∧
      (p.users.load request.name s.2).1 = .ok (some u) ∧
      p.encoder.accepts password u.password = true := by
  have hbad : ¬ Discloses badCredentials := by simp [Discloses, badCredentials]
  unfold attempt at h
  split at h
  · next hkind =>
    split at h
    · next password hcredentials =>
      rcases hl : p.users.load request.name s.2 with ⟨_ | _ | u, users⟩ <;> simp only [hl] at h
      · cases h
        simp [Discloses, unavailable] at he
      · rw [unknownUser, if_pos hhide] at h
        cases h
        exact absurd he hbad
      · refine ⟨password, u, ⟨hkind, hcredentials⟩, rfl, ?_⟩
        unfold judge at h
        split at h
        · next hpre =>
          cases h
          exact absurd he (not_discloses_preCheck hpre)
        · split at h
          · assumption
          · cases h
            exact absurd he hbad
    · cases h
      exact absurd he hbad
  · cases h

/-! ## The two kinds of logins side by side -/

/-- A visit that is refused like a wrong password, after one look-up and so many comparisons. -/
structure Visit.Refused (p : PasswordProvider σ) (v : Visit σ) (comparisons : Nat) : Prop where
  answer : (v.outcome p).1.answer = .failed badCredentials
  lookups : (v.work p).lookups = 1
  users : (v.outcome p).2.2 = (p.users.load v.request.name v.met.2).2
  comparisons : (v.work p).comparisons = comparisons

/-- An unknown user is refused like a wrong password if unknown users are hidden. -/
theorem refused_of_unknown (hhide : p.hideUnknown = true) (hs : p.Sound v.met.1)
    (h : v.OfUnknown p) :
    v.Refused p (if (p.encoder.encode p.salt standIn).isOk then 1 else 0) := by
  have hwork : v.work p = ⟨1, due v.met.1, _⟩ := work_attempt_of_unknown hs h
  have houtcome := attempt_of_unknown h
  refine ⟨?_, congrArg Work.lookups hwork, ?_, congrArg Work.comparisons hwork⟩
  · rw [Visit.outcome, houtcome, unknownUser, if_pos hhide]
  · rw [Visit.outcome, houtcome]

/-- So is a wrong password, after one comparison. -/
theorem refused_of_mismatched (h : p.Mismatched v.request v.met.2) : v.Refused p 1 := by
  have houtcome : v.outcome p = _ := attempt_of_mismatched h
  refine ⟨?_, ?_, ?_, ?_⟩ <;> simp [Visit.work, Note.work, houtcome]

/-- **To those without a password an unknown user looks like a known one.** Take any two runs of a
provider that hides unknown users. A visit of an unknown user in the one and a visit with a wrong
password in the other are refused with the same error, each after one look-up and one comparison,
unless the stand-in cannot be encoded: then no unknown user is compared. The stand-in is encoded
once in a run at most, when the first unknown user comes. And whoever is told that the credentials
have expired, or that nothing is granted, has presented the right password. -/
theorem unknown_looks_mismatched (hhide : p.hideUnknown = true) :
    (∀ (users₁ users₂ : σ) (calls₁ calls₂ : List (Call σ)),
      ∀ v ∈ p.visits (none, users₁) calls₁, ∀ w ∈ p.visits (none, users₂) calls₂,
        v.OfUnknown p → p.Mismatched w.request w.met.2 →
          (v.outcome p).1.answer = (w.outcome p).1.answer ∧ w.Refused p 1 ∧
          v.Refused p (if (p.encoder.encode p.salt standIn).isOk then 1 else 0)) ∧
    (∀ (users : σ) (calls : List (Call σ)),
      (Note.work (notes p (p.visits (none, users) calls))).encodings ≤ 1 ∧
      (∀ before v after, p.visits (none, users) calls = before ++ v :: after →
        ((v.work p).encodings = 1 ↔ v.OfUnknown p ∧ ∀ w ∈ before, ¬ w.OfUnknown p)) ∧
      ∀ v ∈ p.visits (none, users) calls, ∀ e, (v.outcome p).1.answer = .failed e →
        e.kind = .credentialsExpired ∨ e.message = "User has no granted authorities" →
          ∃ password u, Login v.request password ∧
            (p.users.load v.request.name v.met.2).1 = .ok (some u) ∧
            p.encoder.accepts password u.password = true) := by
  refine ⟨fun users₁ users₂ calls₁ calls₂ v hv w hw hunknown hmismatched => ?_,
    fun users calls => ⟨encodings_visits sound_none, fun before v after h => ?_,
      fun v _ e h he => accepts_of_discloses hhide h he⟩⟩
  · have hrefused := refused_of_unknown hhide (sound_of_mem_visits sound_none hv) hunknown
    have hrefused' := refused_of_mismatched hmismatched
    exact ⟨hrefused.answer.trans hrefused'.answer.symm, hrefused', hrefused⟩
  · simpa using encodings_eq_one sound_none h

/-- Mallory comes twice between two logins of alice, the first with a wrong password and the second
with the right one, which has expired. -/
theorem unknown_looks_mismatched_mallory :
    let alice : User := { username := "alice", password := "secret", credentialsExpired := true }
    let p : PasswordProvider UserStore := { users := UserStore.service, salt := .replicate 16 0 }
    let calls : List (Call UserStore) := [
      { change := fun users => users.add alice, request := .usernamePassword "alice" "wrong" },
      { request := .usernamePassword "mallory" "wrong" },
      { request := .usernamePassword "mallory" "secret" },
      { request := .usernamePassword "alice" "secret" }]
    ∃ wrong first second right, p.visits (none, .empty) calls = [wrong, first, second, right] ∧
      (second.outcome p).1.answer = (wrong.outcome p).1.answer ∧
      (second.work p).comparisons = 1 ∧ (wrong.work p).comparisons = 1 ∧
      (first.work p).encodings = 1 ∧ (second.work p).encodings ≠ 1 ∧
      ∃ (password : String) (u : User), Login right.request password ∧
        p.encoder.accepts password u.password = true := by
  intro alice p calls
  obtain ⟨hpair, hrun⟩ := unknown_looks_mismatched (p := p) rfl
  obtain ⟨-, hencodings, hdisclosed⟩ := hrun .empty calls
  have hfind : ∀ name, (UserStore.empty.add alice).find? name =
      if alice.username = name then some alice else none := by
    intro name
    rw [UserStore.find?_add]
    rfl
  have halice : (UserStore.empty.add alice).find? "alice" = some alice := hfind "alice"
  have hmallory : (UserStore.empty.add alice).find? "mallory" = none := hfind "mallory"
  let wrong : Visit UserStore :=
    ⟨.usernamePassword "alice" "wrong", (none, UserStore.empty.add alice)⟩
  let first : Visit UserStore := ⟨.usernamePassword "mallory" "wrong", (wrong.outcome p).2⟩
  let second : Visit UserStore := ⟨.usernamePassword "mallory" "secret", (first.outcome p).2⟩
  let right : Visit UserStore := ⟨.usernamePassword "alice" "secret", (second.outcome p).2⟩
  have hvisits : p.visits (none, .empty) calls = [wrong, first, second, right] := rfl
  rw [hvisits] at hencodings hdisclosed
  have hwrong : p.Mismatched wrong.request wrong.met.2 :=
    ⟨"wrong", alice, ⟨rfl, rfl⟩, congrArg Except.ok halice, ⟨rfl, rfl, rfl⟩, by decide⟩
  have husers₁ : first.met.2 = (UserStore.load "alice" wrong.met.2).2 :=
    (refused_of_mismatched hwrong).users
  have hfirst : first.OfUnknown p := by
    refine ⟨⟨"wrong", rfl, rfl⟩, ?_⟩
    rw [husers₁]
    exact congrArg Except.ok hmallory
  have husers₂ : second.met.2 = (UserStore.load "mallory" first.met.2).2 :=
    congrArg (fun outcome => outcome.2.2) (attempt_of_unknown hfirst)
  have hsecond : second.OfUnknown p := by
    refine ⟨⟨"secret", rfl, rfl⟩, ?_⟩
    rw [husers₂, husers₁]
    exact congrArg Except.ok hmallory
  have husers₃ : right.met.2 = (UserStore.load "mallory" second.met.2).2 :=
    congrArg (fun outcome => outcome.2.2) (attempt_of_unknown hsecond)
  obtain ⟨hanswer, hwrongRefused, hsecondRefused⟩ := hpair .empty .empty calls calls
    second (by simp [hvisits]) wrong (by simp [hvisits]) hsecond hwrong
  have hexpired : (right.outcome p).1.answer =
      .failed ⟨.credentialsExpired, "User credentials have expired", none⟩ := by
    have hload : (p.users.load "alice" right.met.2).1 = .ok (some alice) := by
      rw [husers₃, husers₂, husers₁]
      exact congrArg Except.ok halice
    rw [Visit.outcome, attempt_of_known ⟨rfl, rfl⟩ hload]
    rfl
  obtain ⟨password, u, hlogin, -, haccepts⟩ :=
    hdisclosed right (by simp) _ hexpired (.inl rfl)
  refine ⟨wrong, first, second, right, hvisits, hanswer, hsecondRefused.comparisons,
    hwrongRefused.comparisons, ?_, ?_, password, u, hlogin, haccepts⟩
  · refine (hencodings [wrong] first [second, right] rfl).2 ⟨hfirst, fun w hw hunknown => ?_⟩
    cases List.mem_singleton.1 hw
    cases hunknown.load.symm.trans (congrArg Except.ok halice)
  · rw [ne_eq, hencodings [wrong, first] second [right] rfl]
    exact fun h => h.2 first (by simp) hfirst

end PasswordProvider

end Admission
