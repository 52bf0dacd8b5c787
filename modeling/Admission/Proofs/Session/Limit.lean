import Admission.Proofs.Json.RoundTrip
import Admission.Session.Control

/-!
# Limits survive JSON

A limit is read back as it was written, whatever its maximum (`SessionLimit.read?_json`). Reading
checks the maximum on top of the form, whichever of the forms the text has, so what is read is valid
(`SessionLimit.ofJson_eq_ok`). A control checks it again (`SessionControl.ofLimit_eq_ok`). So no
control runs with a maximum of zero, be its limit read or put together.
-/

namespace Admission

namespace SessionLimit

variable {l : SessionLimit} {text : String}

/-- The refusal of a maximum of zero. -/
theorem validate_of_zero (h : l.maximum = some 0) : l.validate =
    .error (.invalidSetting "maximum_sessions" "must be at least 1, or unlimited") :=
  if_pos h

/-! ## Reading what was written -/

/-- A maximum of 64 bits is read as it is written. -/
theorem maximum?_natural (n : UInt64) : maximum? (.natural n.toNat) = some (some n) := by
  have hsize : n.toNat < UInt64.size := n.toNat_lt
  rw [maximum?, Json.Value.natural?_natural]
  · simp [hsize]
  · rintro ⟨⟩

theorem natural_toJson (l : SessionLimit) : l.toJson.Natural := by
  refine Json.Value.natural_ofMembers ?_
  simp only [List.forall_mem_cons, List.not_mem_nil, false_imp_iff, implies_true, and_true]
  refine ⟨?_, .bool _⟩
  split
  · exact .number _
  · exact .null

/-- The members of the object say what the limit is. -/
theorem ofValue?_toJson (l : SessionLimit) : ofValue? l.toJson = some l := by
  obtain ⟨maximum, rejectNew⟩ := l
  cases maximum with
  | none => rfl
  | some n =>
    simp [toJson, Json.Value.ofMembers, ofValue?, Members.add, maximum?_natural, flag?,
      Members.limit]

/-- **A limit is read back as it was written**, valid or not. -/
theorem read?_json (l : SessionLimit) : read? l.json = some l := by
  rw [read?, json, Json.read_compact l.natural_toJson, Option.bind_some, ofValue?_toJson]

/-- A limit is accepted from a text exactly if the text stands for it and it is valid. -/
theorem ofJson_eq_ok : ofJson text = .ok l ↔ read? text = some l ∧ l.validate = .ok () := by
  unfold ofJson
  split
  · next h => simp [h]
  · next l' h =>
    split
    · next e he =>
      simp only [reduceCtorEq, h, Option.some.injEq, false_iff, not_and]
      rintro rfl hvalid
      cases he.symm.trans hvalid
    · next hvalid =>
      simp only [Except.ok.injEq, h, Option.some.injEq]
      exact ⟨fun heq => ⟨heq, heq ▸ hvalid⟩, And.left⟩

/-- A limit that a text stands for, but not a valid one, is refused for what is wrong with it. -/
theorem ofJson_of_validate {e : ConfigError} (hread : read? text = some l)
    (he : l.validate = .error e) : ofJson text = .error e := by
  simp only [ofJson, hread, he]

end SessionLimit

namespace SessionControl

variable {l : SessionLimit} {control : SessionControl}

/-- A control takes over a valid limit as it is. -/
theorem ofLimit_eq_ok : ofLimit l = .ok control ↔ ∃ valid, control = .limited l valid := by
  unfold ofLimit
  split
  · next e he =>
    simp only [reduceCtorEq, false_iff, not_exists]
    intro valid
    cases he.symm.trans valid
  · next valid =>
    rw [Except.ok.injEq]
    exact ⟨fun h => ⟨valid, h.symm⟩, fun ⟨_, h⟩ => h.symm⟩

end SessionControl

namespace SessionLimit

/-- **Limits survive JSON, and what is read is valid.**

A limit is valid exactly if its maximum is not zero. A valid one is read back from its own text; one
with a maximum of zero is refused by the name of the setting. Whatever text a limit was read from,
it is valid, a control accepts it, and writing and reading it once more gives it again. A control
comes of a limit exactly if the maximum is not zero, and runs under that limit. -/
theorem survives_json :
    (∀ l : SessionLimit, l.validate = .ok () ↔ l.maximum ≠ some 0) ∧
    (∀ l : SessionLimit, l.validate = .ok () → ofJson l.json = .ok l) ∧
    (∀ l : SessionLimit, l.maximum = some 0 → ofJson l.json =
      .error (.invalidSetting "maximum_sessions" "must be at least 1, or unlimited")) ∧
    (∀ text l, ofJson text = .ok l → l.validate = .ok () ∧
      (∃ control, SessionControl.ofLimit l = .ok control) ∧ ofJson l.json = .ok l) ∧
    ∀ l control, SessionControl.ofLimit l = .ok control →
      (∃ valid, control = .limited l valid) ∧ l.maximum ≠ some 0 := by
  have hkept : ∀ l : SessionLimit, l.validate = .ok () → ofJson l.json = .ok l :=
    fun l valid => ofJson_eq_ok.2 ⟨l.read?_json, valid⟩
  refine ⟨fun l => validate_eq_ok, hkept, fun l hzero => ?_, fun text l h => ?_,
    fun l control h => ?_⟩
  · exact ofJson_of_validate l.read?_json (validate_of_zero hzero)
  · obtain ⟨-, valid⟩ := ofJson_eq_ok.1 h
    exact ⟨valid, ⟨_, SessionControl.ofLimit_eq_ok.2 ⟨valid, rfl⟩⟩, hkept l valid⟩
  · obtain ⟨valid, hcontrol⟩ := SessionControl.ofLimit_eq_ok.1 h
    exact ⟨⟨valid, hcontrol⟩, validate_eq_ok.1 valid⟩

/-- A text without the flag and with a member that says nothing, and the text of a limit of zero. -/
theorem survives_json_defaults :
    let text := "\x7b\"note\":[],\"maximum_sessions\":3\x7d"
    let l : SessionLimit := ⟨some 3, true⟩
    ofJson text = .ok l ∧ (∃ control, SessionControl.ofLimit l = .ok control) ∧
      l.json = "\x7b\"maximum_sessions\":3,\"exception_if_maximum_exceeded\":true\x7d" ∧
      ofJson l.json = .ok l ∧
      ofJson (⟨some 0, false⟩ : SessionLimit).json =
        .error (.invalidSetting "maximum_sessions" "must be at least 1, or unlimited") := by
  intro text l
  let v : Json.Value := .ofMembers [("note", .array []), ("maximum_sessions", .natural 3)]
  have hv : v.Natural := by
    refine Json.Value.natural_ofMembers ?_
    simp only [List.forall_mem_cons, List.not_mem_nil, false_imp_iff, implies_true, and_true]
    exact ⟨.array nofun, .number 3⟩
  have htext : v.compact = text := rfl
  have hmaximum : maximum? (.natural 3) = some (some 3) := maximum?_natural 3
  have hread : read? text = some l := by
    rw [read?, ← htext, Json.read_compact hv]
    simp [v, l, ofValue?, Json.Value.ofMembers, Members.add, hmaximum, Members.limit]
  have hjson : ofJson text = .ok l := ofJson_eq_ok.2 ⟨hread, rfl⟩
  obtain ⟨-, -, hzero, hvalid, -⟩ := survives_json
  obtain ⟨-, hcontrol, hagain⟩ := hvalid text l hjson
  exact ⟨hjson, hcontrol, rfl, hagain, hzero ⟨some 0, false⟩ rfl⟩

end SessionLimit

end Admission
