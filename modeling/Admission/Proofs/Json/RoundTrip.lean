import Std.Data.String.ToNat
import Admission.Json.Reader
import Admission.Proofs.Text.Decimal

/-!
# JSON is read as it is written

The compact text of a value is read back as that value (`read_compact`), for every value whose
numbers are natural ones (`Value.Natural`). So a text stands for one value: no quote, backslash or
control in a string ends the string early, and nothing in it passes for another member.

`Value.Reads` says of a value that its text is taken off the front of any text that could follow it.
There is a lemma for each constructor, which takes what holds of the parts as a premise. What may
follow a number must not look like more of it (`Ends`).

The text has no raw control in it (`le_of_mem_compact`).
-/

namespace Admission.Json

/-! ## Strings -/

section
variable {c : Char} {s : List Char}

/-- An escaped letter is read as the character it stands for. -/
theorem takeCodes_letter {e : Char} (he : e ≠ 'u') (h : unescape? e = some c) :
    takeCodes ('\\' :: e :: s) = (takeCodes s).map (Prod.map (c.toNat :: ·) id) := by
  rw [takeCodes, h]
  · cases takeCodes s <;> rfl
  · rintro a b c d s ⟨rfl⟩
    exact absurd rfl he

/-- An escaped number is read as that number. -/
theorem takeCodes_number {a b c d : Char} {code : Nat} (h : hexCode? a b c d = some code) :
    takeCodes ('\\' :: 'u' :: a :: b :: c :: d :: s) =
      (takeCodes s).map (Prod.map (code :: ·) id) := by
  rw [takeCodes, h]
  cases takeCodes s <;> rfl

/-- A character that needs no escape stands for itself. -/
theorem takeCodes_plain (hquote : c ≠ '"') (hbackslash : c ≠ '\\') (hcontrol : ¬ c < ' ') :
    takeCodes (c :: s) = (takeCodes s).map (Prod.map (c.toNat :: ·) id) := by
  rw [takeCodes, if_neg hcontrol]
  · cases takeCodes s <;> rfl
  · exact hquote
  · rintro a b c d s ⟨rfl⟩
    exact absurd rfl hbackslash
  · rintro e s ⟨rfl⟩
    exact absurd rfl hbackslash

/-- A control is written by its number. -/
theorem hexPadded_control : ∀ n < 32, ∃ c d, Text.hexPadded 4 n = ['0', '0', c, d] ∧
    hexCode? '0' '0' c d = some n := by
  intro n hn
  refine ⟨Nat.digitChar (n / 16), Nat.digitChar (n % 16), ?_⟩
  revert n
  decide

/-- A character is read as it is written, whatever follows. -/
theorem takeCodes_escapedChar (c : Char) (s : List Char) :
    takeCodes (escapedChar c ++ s) = (takeCodes s).map (Prod.map (c.toNat :: ·) id) := by
  unfold escapedChar
  split
  case h_8 _ hquote hbackslash _ _ _ _ _ =>
    split
    · next hcontrol =>
      obtain ⟨a, b, hdigits, hcode⟩ := hexPadded_control c.toNat hcontrol
      rw [hdigits]
      exact takeCodes_number hcode
    · next hcontrol => exact takeCodes_plain hquote hbackslash hcontrol
  all_goals exact takeCodes_letter (by decide) rfl

/-- The codes of a text are read up to the quote behind it. -/
theorem takeCodes_escaped (text rest : List Char) :
    takeCodes (text.flatMap escapedChar ++ '"' :: rest) = some (text.map Char.toNat, rest) := by
  induction text with
  | nil => rw [List.flatMap_nil, List.nil_append, takeCodes]; rfl
  | cons c text ih =>
    rw [List.flatMap_cons, List.append_assoc, takeCodes_escapedChar, ih]
    rfl

/-- No character is half of a surrogate pair. -/
theorem textOfCodes_cons (c : Char) (codes : List Nat) :
    textOfCodes (c.toNat :: codes) = (textOfCodes codes).map (c :: ·) := by
  have hvalid : c.toNat < 0xd800 ∨ 0xe000 ≤ c.toNat := by
    rcases c.valid with h | ⟨h, -⟩
    · exact .inl h
    · exact .inr h
  cases codes with
  | nil =>
    have hwhole : ¬ (0xd800 ≤ c.toNat ∧ c.toNat < 0xe000) := by omega
    simp only [textOfCodes, if_neg hwhole, Char.ofNat_toNat, Option.map_some]
  | cons low rest => rw [textOfCodes, if_neg (by omega), if_neg (by omega), Char.ofNat_toNat]

/-- A text has its own codes. -/
theorem textOfCodes_map_toNat (text : List Char) :
    textOfCodes (text.map Char.toNat) = some text := by
  induction text with
  | nil => rfl
  | cons c text ih => rw [List.map_cons, textOfCodes_cons, ih]; rfl

end

/-- The text of a string is the opening quote and what is read behind it. -/
theorem takeString_renderString (text : Option String) : ∃ body,
    renderString text = '"' :: body ∧ ∀ rest, takeString (body ++ rest) = some (text, rest) := by
  cases text with
  | none => exact ⟨_, rfl, fun _ => rfl⟩
  | some text =>
    refine ⟨text.toList.flatMap escapedChar ++ ['"'], rfl, fun rest => ?_⟩
    rw [List.append_assoc, takeString, List.singleton_append, takeCodes_escaped]
    simp [textOfCodes_map_toNat]

/-! ## Numbers -/

/-- A text that does not go on with a number. -/
def Ends (rest : List Char) : Prop :=
  ∀ c ∈ rest.head?, c.isDigit = false ∧ c ≠ '.' ∧ c ≠ 'e' ∧ c ≠ 'E'

/-- A number may stand at the end of a text. -/
theorem Ends.nil : Ends [] := by
  rintro c ⟨⟩

/-- It may stand before a comma or a closing bracket. -/
theorem Ends.cons {c : Char} (hc : c ∈ [',', ']', '\x7d']) (rest : List Char) :
    Ends (c :: rest) := by
  rintro _ ⟨rfl⟩
  simp only [List.mem_cons, List.not_mem_nil, or_false] at hc
  rcases hc with rfl | rfl | rfl <;> decide

variable {rest : List Char}

/-- Digits are taken up to what does not go on with them. -/
theorem takeDigits_append {digits : List Char} (hne : digits ≠ [])
    (hdigits : ∀ c ∈ digits, c.isDigit = true) (hrest : Ends rest) :
    takeDigits (digits ++ rest) = some (digits, rest) := by
  have hstop : rest.takeWhile Char.isDigit = [] ∧ rest.dropWhile Char.isDigit = rest := by
    cases rest with
    | nil => exact ⟨rfl, rfl⟩
    | cons c rest => simp [(hrest c rfl).1]
  rw [takeDigits, List.takeWhile_append_of_pos hdigits, List.dropWhile_append_of_pos hdigits,
    hstop.1, hstop.2, List.append_nil]
  simp [hne]

/-- The whole part of a number has no needless zero in front. -/
theorem takeWhole_toString (n : Nat) (hrest : Ends rest) :
    takeWhole ((toString n).toList ++ rest) = some ((toString n).toList, rest) := by
  have hzero : ¬ (decide ((toString n).toList.length > 1) &&
      (toString n).toList.head? == some '0') = true := by
    rw [Bool.and_eq_true, decide_eq_true_iff, beq_iff_eq]
    rintro ⟨hlength, hhead⟩
    exact Text.head?_toString_ne (Text.ne_zero_of_one_lt_length hlength) hhead
  rw [takeWhole, takeDigits_append (Text.toString_ne_nil n)
    (fun _ => Text.isDigit_of_mem_toString) hrest]
  exact if_neg hzero

/-- A whole number has no fraction. -/
theorem takeFraction_of_ends (hrest : Ends rest) : takeFraction rest = some ([], rest) := by
  unfold takeFraction
  split
  · exact absurd rfl (hrest '.' rfl).2.1
  · rfl

/-- Nor has it an exponent. -/
theorem takeExponent_of_ends (hrest : Ends rest) : takeExponent rest = some ([], rest) := by
  cases rest with
  | nil => rfl
  | cons c rest =>
    obtain ⟨-, -, hlower, hupper⟩ := hrest c rfl
    rw [takeExponent, if_neg (by simp [hlower, hupper])]

/-- A natural number begins with a digit. -/
theorem exists_digit_cons (n : Nat) :
    ∃ c digits, (toString n).toList = c :: digits ∧ c.isDigit = true := by
  obtain ⟨c, digits, h⟩ := List.exists_cons_of_ne_nil (Text.toString_ne_nil n)
  exact ⟨c, digits, h, Text.isDigit_of_mem_toString (n := n) (by rw [h]; exact List.mem_cons_self)⟩

/-- A natural number is read as it is written. -/
theorem takeNumber_toString (n : Nat) (hrest : Ends rest) :
    takeNumber ((toString n).toList ++ rest) = some ((toString n).toList, rest) := by
  have hsign : takeSign ['-'] ((toString n).toList ++ rest) =
      ([], (toString n).toList ++ rest) := by
    obtain ⟨c, digits, h, hc⟩ := exists_digit_cons n
    have hne : c ≠ '-' := by
      rintro rfl
      cases hc
    rw [h, List.cons_append, takeSign, if_neg (by simpa using hne)]
  simp only [takeNumber, hsign, takeWhole_toString n hrest, takeFraction_of_ends hrest,
    takeExponent_of_ends hrest, Option.bind_eq_bind, Option.bind_some, List.nil_append,
    List.append_nil]

/-! ## Values -/

/-- A value all of whose numbers are natural ones. -/
inductive Value.Natural : Value → Prop
  | null : Natural .null
  | bool (b : Bool) : Natural (.bool b)
  | number (n : Nat) : Natural (.natural n)
  | string (text : Option String) : Natural (.string text)
  | array {elements : List Value} (h : ∀ v ∈ elements, Natural v) : Natural (.array elements)
  | object {members : List (Option String × Value)} (h : ∀ m ∈ members, Natural m.2) :
    Natural (.object members)

namespace Value

theorem natural_text (s : String) : (text s).Natural := .string _

theorem natural_text? (s : Option String) : (text? s).Natural := by
  cases s with
  | none => exact .null
  | some s => exact natural_text s

/-- An object of natural members is natural. -/
theorem natural_ofMembers {members : List (String × Value)} (h : ∀ m ∈ members, m.2.Natural) :
    (ofMembers members).Natural := by
  refine .object fun m hm => ?_
  obtain ⟨m', hm', rfl⟩ := List.mem_map.1 hm
  exact h m' hm'

@[simp] theorem natural?_natural (n : Nat) : (natural n).natural? = some n := by
  have hdigits : (toString n).toList.all Char.isDigit = true :=
    List.all_eq_true.2 fun _ => Text.isDigit_of_mem_toString
  rw [natural, natural?, if_pos hdigits]
  exact Nat.toNat?_repr n

end Value

/-- A value is taken off the front of a text that begins with its own, given fuel for its length.
-/
def Value.Reads (v : Value) : Prop :=
  ∀ fuel rest, v.render.length < fuel → Ends rest →
    takeValue fuel (v.render ++ rest) = some (v, rest)

namespace Value

/-- Null is read as it is written. -/
theorem reads_null : Reads .null := by
  intro fuel rest hfuel _
  obtain ⟨fuel, rfl⟩ := Nat.exists_eq_succ_of_ne_zero (Nat.ne_zero_of_lt hfuel)
  rfl

/-- So is a truth value. -/
theorem reads_bool (b : Bool) : Reads (.bool b) := by
  intro fuel rest hfuel _
  obtain ⟨fuel, rfl⟩ := Nat.exists_eq_succ_of_ne_zero (Nat.ne_zero_of_lt hfuel)
  cases b <;> rfl

/-- No digit is a blank. -/
theorem isBlank_of_isDigit {c : Char} (hc : c.isDigit = true) : isBlank c = false := by
  refine Bool.eq_false_iff.2 fun hblank => ?_
  simp only [isBlank, Bool.or_eq_true, beq_iff_eq] at hblank
  rcases hblank with ((rfl | rfl) | rfl) | rfl <;> cases hc

/-- No blank is skipped where there is none. -/
theorem skipBlanks_cons {c : Char} (hc : isBlank c = false) (s : List Char) :
    skipBlanks (c :: s) = c :: s := by
  rw [skipBlanks, List.dropWhile_cons_of_neg (by simp [hc])]

/-- What begins with a digit is read as a number. -/
theorem takeValue_of_isDigit {c : Char} (hc : c.isDigit = true) (fuel : Nat) (s : List Char) :
    takeValue (fuel + 1) (c :: s) =
      (takeNumber (c :: s)).map (Prod.map (fun literal => .number (String.ofList literal)) id) := by
  rw [takeValue, skipBlanks_cons (isBlank_of_isDigit hc)]
  split
  case h_7 => cases takeNumber (c :: s) <;> rfl
  all_goals
    next heq =>
    cases heq
    cases hc

/-- A number is read as it is written. -/
theorem reads_natural (n : Nat) : Reads (.natural n) := by
  intro fuel rest hfuel hrest
  obtain ⟨fuel, rfl⟩ := Nat.exists_eq_succ_of_ne_zero (Nat.ne_zero_of_lt hfuel)
  have hnumber := takeNumber_toString n hrest
  obtain ⟨c, digits, h, hc⟩ := exists_digit_cons n
  show takeValue (fuel + 1) ((toString n).toList ++ rest) = _
  rw [h] at hnumber ⊢
  rw [List.cons_append] at hnumber ⊢
  rw [takeValue_of_isDigit hc, hnumber, ← h, Option.map_some, Prod.map_apply,
    String.ofList_toList]
  rfl

/-- So is a string. -/
theorem reads_string (text : Option String) : Reads (.string text) := by
  intro fuel rest hfuel _
  obtain ⟨fuel, rfl⟩ := Nat.exists_eq_succ_of_ne_zero (Nat.ne_zero_of_lt hfuel)
  obtain ⟨body, hbody, htake⟩ := takeString_renderString text
  show takeValue (fuel + 1) (renderString text ++ rest) = _
  rw [hbody]
  simp [takeValue, skipBlanks, isBlank, htake]

/-- The text of a value begins with a character that is no blank and closes nothing. -/
theorem Natural.exists_cons {v : Value} (h : v.Natural) :
    ∃ c s, v.render = c :: s ∧ isBlank c = false ∧ c ≠ ']' := by
  cases h with
  | null => exact ⟨_, _, rfl, by decide, by decide⟩
  | bool b => cases b <;> exact ⟨_, _, rfl, by decide, by decide⟩
  | number n =>
    obtain ⟨c, digits, hdigits, hc⟩ := exists_digit_cons n
    refine ⟨c, digits, hdigits, isBlank_of_isDigit hc, ?_⟩
    rintro rfl
    cases hc
  | string text =>
    obtain ⟨body, hbody, -⟩ := takeString_renderString text
    exact ⟨_, _, hbody, by decide, by decide⟩
  | array h => exact ⟨_, _, rfl, by decide, by decide⟩
  | object h => exact ⟨_, _, rfl, by decide, by decide⟩

end Value

/-- The elements of an array are read up to the closing bracket. -/
theorem takeElements_render {elements : List Value} (hne : elements ≠ [])
    (h : ∀ v ∈ elements, v.Natural ∧ v.Reads) (fuel : Nat)
    (hfuel : (renderElements elements).length < fuel) (rest : List Char) :
    takeElements fuel (renderElements elements ++ rest) = some (elements, rest) := by
  induction elements generalizing fuel with
  | nil => exact absurd rfl hne
  | cons v elements ih =>
    obtain ⟨fuel, rfl⟩ := Nat.exists_eq_succ_of_ne_zero (Nat.ne_zero_of_lt hfuel)
    have hv := (h v List.mem_cons_self).2
    cases elements with
    | nil =>
      simp only [renderElements, List.length_append, List.length_singleton] at hfuel
      have hread := hv fuel (']' :: rest) (by omega) (Ends.cons (by decide) rest)
      simp [renderElements, takeElements, hread, skipBlanks, isBlank]
    | cons w elements =>
      simp only [renderElements, List.length_append, List.length_cons] at hfuel
      have hread := hv fuel (',' :: renderElements (w :: elements) ++ rest) (by omega)
        (Ends.cons (by decide) _)
      have hrest := ih (List.cons_ne_nil _ _) (fun u hu => h u (List.mem_cons_of_mem _ hu)) fuel
        (by omega)
      simp only [renderElements, takeElements, List.append_assoc, hread]
      simp [skipBlanks, isBlank, hrest]

/-- The members of an object are read up to the closing brace. -/
theorem takeMembers_render {members : List (Option String × Value)} (hne : members ≠ [])
    (h : ∀ m ∈ members, m.2.Reads) (fuel : Nat)
    (hfuel : (renderMembers members).length < fuel) (rest : List Char) :
    takeMembers fuel (renderMembers members ++ rest) = some (members, rest) := by
  induction members generalizing fuel with
  | nil => exact absurd rfl hne
  | cons m members ih =>
    obtain ⟨fuel, rfl⟩ := Nat.exists_eq_succ_of_ne_zero (Nat.ne_zero_of_lt hfuel)
    obtain ⟨name, v⟩ := m
    have hv : v.Reads := h (name, v) List.mem_cons_self
    obtain ⟨body, hbody, hname⟩ := takeString_renderString name
    cases members with
    | nil =>
      simp only [renderMembers, List.length_append, List.length_cons] at hfuel
      have hread := hv fuel ('\x7d' :: rest) (by omega) (Ends.cons (by decide) rest)
      simp [renderMembers, takeMembers, hbody, hname, hread, skipBlanks, isBlank]
    | cons next members =>
      simp only [renderMembers, List.length_append, List.length_cons] at hfuel
      have hread := hv fuel (',' :: renderMembers (next :: members) ++ rest) (by omega)
        (Ends.cons (by decide) _)
      have hrest := ih (List.cons_ne_nil _ _) (fun u hu => h u (List.mem_cons_of_mem _ hu)) fuel
        (by omega)
      simp only [List.cons_append] at hread
      simp [renderMembers, takeMembers, hbody, hname, hread, skipBlanks, isBlank, hrest]

namespace Value

/-- An array that does not end at once has elements. -/
theorem takeValue_bracket {c : Char} (hblank : isBlank c = false) (hc : c ≠ ']') (fuel : Nat)
    (s : List Char) : takeValue (fuel + 1) ('[' :: c :: s) =
      (takeElements fuel (c :: s)).map (Prod.map .array id) := by
  rw [takeValue, skipBlanks_cons rfl]
  simp only [skipBlanks_cons hblank]
  split
  · next heq => cases heq; exact absurd rfl hc
  · cases takeElements fuel (c :: s) <;> rfl

/-- An object that does not end at once has members. -/
theorem takeValue_brace (fuel : Nat) (s : List Char) :
    takeValue (fuel + 1) ('\x7b' :: '"' :: s) =
      (takeMembers fuel ('"' :: s)).map (Prod.map .object id) := by
  rw [takeValue, skipBlanks_cons rfl]
  simp only [skipBlanks_cons (c := '"') rfl]
  split
  · next heq => cases heq
  · cases takeMembers fuel ('"' :: s) <;> rfl

/-- An array is read as it is written if its elements are. -/
theorem reads_array {elements : List Value} (h : ∀ v ∈ elements, v.Natural ∧ v.Reads) :
    Reads (.array elements) := by
  intro fuel rest hfuel _
  obtain ⟨fuel, rfl⟩ := Nat.exists_eq_succ_of_ne_zero (Nat.ne_zero_of_lt hfuel)
  cases elements with
  | nil => rfl
  | cons v elements =>
    simp only [render, List.length_cons] at hfuel
    have hread := takeElements_render (List.cons_ne_nil v elements) h fuel (by omega) rest
    obtain ⟨c, s, hs, hblank, hc⟩ := (h v List.mem_cons_self).1.exists_cons
    obtain ⟨s', hs'⟩ : ∃ s', renderElements (v :: elements) ++ rest = c :: s' := by
      cases elements <;> simp [renderElements, hs]
    rw [hs'] at hread
    rw [render, List.cons_append, hs', takeValue_bracket hblank hc, hread]
    rfl

/-- So is an object if the values of its members are. -/
theorem reads_object {members : List (Option String × Value)} (h : ∀ m ∈ members, m.2.Reads) :
    Reads (.object members) := by
  intro fuel rest hfuel _
  obtain ⟨fuel, rfl⟩ := Nat.exists_eq_succ_of_ne_zero (Nat.ne_zero_of_lt hfuel)
  cases members with
  | nil => rfl
  | cons m members =>
    simp only [render, List.length_cons] at hfuel
    have hread := takeMembers_render (List.cons_ne_nil m members) h fuel (by omega) rest
    obtain ⟨body, hbody, -⟩ := takeString_renderString m.1
    obtain ⟨s', hs'⟩ : ∃ s', renderMembers (m :: members) ++ rest = '"' :: s' := by
      cases members <;> simp [renderMembers, hbody]
    rw [hs'] at hread
    rw [render, List.cons_append, hs', takeValue_brace, hread]
    rfl

/-- A value with natural numbers is read as it is written. -/
theorem Natural.reads {v : Value} (h : v.Natural) : v.Reads := by
  induction h with
  | null => exact reads_null
  | bool b => exact reads_bool b
  | number n => exact reads_natural n
  | string text => exact reads_string text
  | array h ih => exact reads_array fun v hv => ⟨h v hv, ih v hv⟩
  | object h ih => exact reads_object ih

end Value

/-- **What is written is read back.** -/
theorem read_compact {v : Value} (h : v.Natural) : read v.compact = some v := by
  have htext : v.compact.toList = v.render := String.toList_ofList
  have hlength : v.render.length < v.compact.length + 1 := by
    rw [← htext, String.length_toList]
    exact Nat.lt_succ_self _
  have hread := h.reads (v.compact.length + 1) [] hlength Ends.nil
  rw [List.append_nil, ← htext] at hread
  rw [read, hread]
  rfl

/-! ## Controls -/

/-- A text without controls, by a look at each character. -/
theorem le_of_all {text : List Char} (h : text.all fun c => decide (' ' ≤ c)) :
    ∀ c ∈ text, ' ' ≤ c :=
  fun c hc => of_decide_eq_true (List.all_eq_true.1 h c hc)

/-- The digits of an escaped control are no controls. -/
theorem all_hexPadded : ∀ n < 32, (Text.hexPadded 4 n).all fun c => decide (' ' ≤ c) := by
  decide

/-- No control stands for itself. -/
theorem le_of_mem_escapedChar {c d : Char} (h : d ∈ escapedChar c) : ' ' ≤ d := by
  unfold escapedChar at h
  split at h
  case h_8 =>
    split at h
    · next hcontrol =>
      simp only [List.cons_append, List.nil_append, List.mem_cons] at h
      rcases h with rfl | rfl | h
      · decide
      · decide
      · exact le_of_all (all_hexPadded _ hcontrol) _ h
    · next hcontrol =>
      cases List.mem_singleton.1 h
      exact Char.not_lt.1 hcontrol
  all_goals
    simp only [List.mem_cons, List.not_mem_nil, or_false] at h
    rcases h with rfl | rfl <;> decide

/-- A rendered string has no control in it. -/
theorem le_of_mem_renderString {text : Option String} {c : Char} (h : c ∈ renderString text) :
    ' ' ≤ c := by
  cases text with
  | none => exact le_of_all (by decide) c h
  | some text =>
    simp only [renderString, List.cons_append, List.mem_cons, List.mem_append, List.mem_flatMap,
      List.not_mem_nil, or_false] at h
    rcases h with rfl | ⟨d, -, hd⟩ | rfl
    · decide
    · exact le_of_mem_escapedChar hd
    · decide

/-- Between the elements of an array and behind them stand commas and a bracket. -/
theorem mem_renderElements {elements : List Value} {c : Char} (h : c ∈ renderElements elements) :
    c ∈ [',', ']'] ∨ ∃ v ∈ elements, c ∈ v.render := by
  induction elements with
  | nil => exact .inl (List.mem_cons_of_mem _ h)
  | cons v elements ih =>
    cases elements with
    | nil =>
      rcases List.mem_append.1 h with hv | hc
      · exact .inr ⟨v, List.mem_cons_self, hv⟩
      · exact .inl (List.mem_cons_of_mem _ hc)
    | cons w elements =>
      rcases List.mem_append.1 h with hv | hc
      · exact .inr ⟨v, List.mem_cons_self, hv⟩
      · rcases List.mem_cons.1 hc with rfl | hc
        · exact .inl List.mem_cons_self
        · exact (ih hc).imp_right fun ⟨u, hu, hc⟩ => ⟨u, List.mem_cons_of_mem _ hu, hc⟩

/-- Between the names and values of an object and behind them stand colons, commas and a brace. -/
theorem mem_renderMembers {members : List (Option String × Value)} {c : Char}
    (h : c ∈ renderMembers members) :
    c ∈ [':', ',', '\x7d'] ∨ ∃ m ∈ members, c ∈ renderString m.1 ∨ c ∈ m.2.render := by
  induction members with
  | nil => exact .inl (List.mem_cons_of_mem _ (List.mem_cons_of_mem _ h))
  | cons m members ih =>
    cases members with
    | nil =>
      simp only [renderMembers, List.mem_append, List.mem_cons, List.not_mem_nil, or_false] at h
      rcases h with (hname | rfl | hv) | rfl
      · exact .inr ⟨m, List.mem_cons_self, .inl hname⟩
      · exact .inl (by decide)
      · exact .inr ⟨m, List.mem_cons_self, .inr hv⟩
      · exact .inl (by decide)
    | cons next members =>
      simp only [renderMembers, List.mem_append, List.mem_cons] at h
      rcases h with (hname | rfl | hv) | rfl | hc
      · exact .inr ⟨m, List.mem_cons_self, .inl hname⟩
      · exact .inl (by decide)
      · exact .inr ⟨m, List.mem_cons_self, .inr hv⟩
      · exact .inl (by decide)
      · exact (ih hc).imp_right fun ⟨u, hu, hc⟩ => ⟨u, List.mem_cons_of_mem _ hu, hc⟩

/-- **The text of a value has no control in it.** -/
theorem le_of_mem_compact {v : Value} (h : v.Natural) : ∀ c ∈ v.compact.toList, ' ' ≤ c := by
  rw [Value.compact, String.toList_ofList]
  induction h with
  | null => exact le_of_all (by decide)
  | bool b => cases b <;> exact le_of_all (by decide)
  | number n =>
    intro c hc
    have hdigit := Text.isDigit_of_mem_toString hc
    simp only [Char.isDigit, Bool.and_eq_true, decide_eq_true_eq] at hdigit
    exact UInt32.le_trans (by decide) hdigit.1
  | string text => exact fun c hc => le_of_mem_renderString hc
  | array h ih =>
    intro c hc
    rcases List.mem_cons.1 hc with rfl | hc
    · decide
    · have hseparator : ∀ c ∈ [',', ']'], ' ' ≤ c := le_of_all (by decide)
      rcases mem_renderElements hc with hc | ⟨v, hv, hc⟩
      · exact hseparator c hc
      · exact ih v hv c hc
  | object h ih =>
    intro c hc
    rcases List.mem_cons.1 hc with rfl | hc
    · decide
    · have hseparator : ∀ c ∈ [':', ',', '\x7d'], ' ' ≤ c := le_of_all (by decide)
      rcases mem_renderMembers hc with hc | ⟨m, hm, hc | hc⟩
      · exact hseparator c hc
      · exact le_of_mem_renderString hc
      · exact ih m hm c hc

end Admission.Json
