import Admission.Password.HashString
import Admission.Proofs.Digest.Base64
import Admission.Proofs.Text.Decimal

/-!
# Hash strings are read as they are written

The text of a hash string is its pieces, each behind a dollar sign (`render_eq`), and no piece has a
dollar sign in it. So the reader finds the same pieces, and takes one after the other off the front:
the version field is known by its `v=` (`Readable.takeVersion_pieces`), the parameter field by its
equals sign (`Readable.takeParams_pieces`), which neither a salt nor a hash has.

What is written can be read if its parts are such as the reader accepts (`Readable`). One text has
two readings: without a version, parameters that begin with one named `v` look like a version. The
fields of a `Readable` hash string are told apart, and it is read as it was written
(`parse_render`).
-/

namespace Admission.Password.HashString

variable {separator c : Char} {f g rest : List Char} {fs gs : List (List Char)} {n : Nat}

/-! ## Pieces -/

/-- What precedes the first separator belongs to the first piece. -/
theorem fields_append (h : separator ∉ f) (hrest : fields separator rest = g :: gs) :
    fields separator (f ++ rest) = (f ++ g) :: gs := by
  induction f with
  | nil => exact hrest
  | cons c f ih =>
    have hc : c ≠ separator := fun hc => h (hc ▸ List.mem_cons_self)
    have hf : separator ∉ f := fun hf => h (List.mem_cons_of_mem _ hf)
    rw [List.cons_append, fields, if_neg hc, ih hf]
    rfl

/-- A text without the separator is one field. -/
theorem fields_of_not_mem (h : separator ∉ f) : fields separator f = [f] := by
  have hlast : fields separator [] = [[]] := rfl
  simpa using fields_append h hlast

/-- A piece ends at the separator behind it. -/
theorem fields_append_cons (h : separator ∉ f) :
    fields separator (f ++ separator :: rest) = f :: fields separator rest := by
  have hrest : fields separator (separator :: rest) = [] :: fields separator rest := if_pos rfl
  simpa using fields_append h hrest

/-- Pieces with a separator between them are found again. -/
theorem fields_intercalate (hne : fs ≠ []) (h : ∀ f ∈ fs, separator ∉ f) :
    fields separator ([separator].intercalate fs) = fs := by
  induction fs with
  | nil => exact absurd rfl hne
  | cons f fs ih =>
    have hf : separator ∉ f := h f List.mem_cons_self
    cases fs with
    | nil => simpa using fields_of_not_mem hf
    | cons g gs =>
      rw [List.intercalate_cons_cons, List.append_assoc, List.singleton_append,
        fields_append_cons hf, ih (List.cons_ne_nil _ _)]
      exact fun f hf => h f (List.mem_cons_of_mem _ hf)

/-- Pieces with a dollar sign in front of each are found again. -/
theorem fields_flatMap_field (h : ∀ f ∈ fs, '$' ∉ f) :
    fields '$' (fs.flatMap field) = [] :: fs := by
  induction fs with
  | nil => rfl
  | cons f fs ih =>
    have hrest := ih fun f hf => h f (List.mem_cons_of_mem _ hf)
    have hf := fields_append (h f List.mem_cons_self) hrest
    rw [List.append_nil] at hf
    rw [List.flatMap_cons, field, List.cons_append, fields, if_pos rfl, hf]

/-- Between fields stand separators only. -/
theorem eq_or_mem_of_mem_intercalate (h : c ∈ [separator].intercalate fs) :
    c = separator ∨ ∃ f ∈ fs, c ∈ f := by
  induction fs with
  | nil => cases h
  | cons f fs ih =>
    cases fs with
    | nil => exact .inr ⟨f, List.mem_cons_self, by simpa using h⟩
    | cons g gs =>
      rw [List.intercalate_cons_cons, List.append_assoc, List.singleton_append] at h
      rcases List.mem_append.1 h with h | h
      · exact .inr ⟨f, List.mem_cons_self, h⟩
      · rcases List.mem_cons.1 h with h | h
        · exact .inl h
        · obtain h | ⟨f', hf', hc⟩ := ih h
          · exact .inl h
          · exact .inr ⟨f', List.mem_cons_of_mem _ hf', hc⟩

/-! ## Parts of a field -/

/-- A value is made of value characters. -/
theorem isValueChar_of_mem (h : isValue f = true) (hc : c ∈ f) : isValueChar c = true := by
  simp only [isValue, Bool.and_eq_true, List.all_eq_true] at h
  exact h.2 c hc

/-- The characters of names are among those of values. -/
theorem isValueChar_of_mem_name (h : isName f = true) (hc : c ∈ f) : isValueChar c = true := by
  simp only [isName, Bool.and_eq_true, List.all_eq_true, Bool.or_eq_true] at h
  rcases h.2 c hc with (hc | hc) | hc
  · have halpha : c.isAlpha = (c.isUpper || c.isLower) := rfl
    simp [isValueChar, Char.isAlphanum, halpha, hc]
  · simp [isValueChar, Char.isAlphanum, hc]
  · simp [isValueChar, hc]

/-- Digits are value characters. -/
theorem isValueChar_of_isDigit (h : c.isDigit = true) : isValueChar c = true := by
  simp [isValueChar, Char.isAlphanum, h]

/-- So are the letters of Base64. -/
theorem isValueChar_letter (n : Nat) : isValueChar (Digest.Base64.letter n) = true := by
  have hsmall : ∀ n < 64, isValueChar (Digest.Base64.letter n) = true := by decide
  rcases Nat.lt_or_ge n 64 with hlt | hge
  · exact hsmall n hlt
  · have hletter : Digest.Base64.letter n = '/' := by
      rw [Digest.Base64.letter, if_neg (by omega), if_neg (by omega), if_neg (by omega),
        if_neg (by omega)]
    rw [hletter]
    rfl

/-- So bytes in Base64 make a value, but for the length. -/
theorem isValueChar_of_mem_encode {bs : Bytes} (h : c ∈ Digest.Base64.encode bs) :
    isValueChar c = true := by
  obtain ⟨n, rfl⟩ := Digest.Base64.exists_letter_of_mem_encode h
  exact isValueChar_letter n

/-- A number of 32 bits is a value. -/
theorem isValue_toString (h : n < UInt32.size) : isValue (toString n).toList = true := by
  have hlen : (toString n).toList.length ≤ 10 :=
    Text.length_toString_le (by decide) (Nat.lt_trans h (by decide))
  simp only [isValue, Bool.and_eq_true, decide_eq_true_eq, List.all_eq_true]
  exact ⟨by omega, fun c hc => isValueChar_of_isDigit (Text.isDigit_of_mem_toString hc)⟩

/-- A number of 32 bits is read as it was written. -/
theorem decimal?_toString (h : n < UInt32.size) : decimal? (toString n).toList = some n := by
  have hdigits : (toString n).toList.all Char.isDigit = true :=
    List.all_eq_true.2 fun c hc => Text.isDigit_of_mem_toString hc
  have hsome : (toString n).toList.isEmpty = false :=
    List.isEmpty_eq_false_iff.2 (Text.toString_ne_nil n)
  have hzero : (decide ((toString n).toList.length > 1) &&
      (toString n).toList.head? == some '0') = false := by
    rw [Bool.and_eq_false_imp, decide_eq_true_eq, beq_eq_false_iff_ne]
    exact fun hlen => Text.head?_toString_ne (Text.ne_zero_of_one_lt_length hlen)
  rw [decimal?, hsome, hdigits, hzero]
  simp only [Bool.not_true, Bool.or_self, Bool.false_eq_true, if_false, Text.foldl_toString,
    if_pos h]

/-- A value of a fit length is read as a salt. -/
theorem salt?_toList {s : String} (h : 4 ≤ s.toList.length ∧ isValue s.toList = true) :
    salt? s.toList = some s := by
  rw [salt?, h.2, decide_eq_true h.1, String.ofList_toList]
  rfl

/-- Bytes of a fit number are read back from Base64. -/
theorem hash?_encode {bs : Bytes} (h : 10 ≤ bs.length ∧ bs.length ≤ 64) :
    hash? (Digest.Base64.encode bs) = some bs := by
  simp [hash?, Digest.Base64.decode_encode, h]

/-! ## Parameters -/

/-- A parameter that the reader accepts. -/
def IsParam (p : String × String) : Prop :=
  isName p.1.toList = true ∧ isValue p.2.toList = true

/-- The field of parameters. -/
def paramField (ps : List (String × String)) : List Char :=
  [','].intercalate (ps.map renderParam)

variable {p : String × String} {ps : List (String × String)}

/-- The name of a parameter has no separator in it. -/
theorem IsParam.not_mem_name (h : IsParam p) (hc : isValueChar c = false) : c ∉ p.1.toList :=
  fun hmem => Bool.false_ne_true (hc.symm.trans (isValueChar_of_mem_name h.1 hmem))

/-- Nor has its value. -/
theorem IsParam.not_mem_value (h : IsParam p) (hc : isValueChar c = false) : c ∉ p.2.toList :=
  fun hmem => Bool.false_ne_true (hc.symm.trans (isValueChar_of_mem h.2 hmem))

/-- A parameter has no character but its equals sign that is none of a name or a value. -/
theorem IsParam.not_mem_renderParam (h : IsParam p) (hc : isValueChar c = false) (hne : c ≠ '=') :
    c ∉ renderParam p := by
  simp only [renderParam, List.mem_append, List.mem_cons, not_or]
  exact ⟨h.not_mem_name hc, hne, h.not_mem_value hc⟩

/-- A parameter is read as it is written. -/
theorem param?_renderParam (h : IsParam p) : param? (renderParam p) = some p := by
  have hpieces : fields '=' (renderParam p) = [p.1.toList, p.2.toList] := by
    rw [renderParam, fields_append_cons (h.not_mem_name rfl),
      fields_of_not_mem (h.not_mem_value rfl)]
  simp [param?, hpieces, h.1, h.2]

/-- So are several. -/
theorem mapM_param? (h : ∀ p ∈ ps, IsParam p) : (ps.map renderParam).mapM param? = some ps := by
  induction ps with
  | nil => rfl
  | cons p ps ih =>
    have hps := ih fun p hp => h p (List.mem_cons_of_mem _ hp)
    simp [List.mapM_cons, param?_renderParam (h p List.mem_cons_self), hps]

/-- Parameters are read as they were written, unless they are too long. -/
theorem params?_paramField (hne : ps ≠ []) (h : ∀ p ∈ ps, IsParam p)
    (hlen : (paramField ps).length ≤ 127) : params? (paramField ps) = some ps := by
  have hcomma : ∀ f ∈ ps.map renderParam, ',' ∉ f := by
    intro f hf
    obtain ⟨p, hp, rfl⟩ := List.mem_map.1 hf
    exact (h p hp).not_mem_renderParam rfl (by decide)
  have hpieces : fields ',' (paramField ps) = ps.map renderParam :=
    fields_intercalate (fun hnil => hne (List.map_eq_nil_iff.1 hnil)) hcomma
  rw [params?, if_pos hlen, hpieces, mapM_param? h]

/-- A field of parameters begins with a name and an equals sign. -/
theorem exists_paramField_cons (p : String × String) (ps : List (String × String)) :
    ∃ rest, paramField (p :: ps) = p.1.toList ++ '=' :: rest := by
  cases ps with
  | nil => exact ⟨p.2.toList, by simp [paramField, renderParam]⟩
  | cons q ps =>
    refine ⟨p.2.toList ++ ',' :: paramField (q :: ps), ?_⟩
    simp [paramField, renderParam, List.intercalate_cons_cons]

/-- The parameters make one piece of a hash string. -/
theorem dollar_not_mem_paramField (h : ∀ p ∈ ps, IsParam p) : '$' ∉ paramField ps := by
  intro hmem
  rcases eq_or_mem_of_mem_intercalate hmem with hc | ⟨f, hf, hc⟩
  · exact absurd hc (by decide)
  · obtain ⟨p, hp, rfl⟩ := List.mem_map.1 hf
    exact (h p hp).not_mem_renderParam rfl (by decide) hc

/-! ## Taking fields off the front -/

/-- A version is read as it is written. -/
theorem takeVersion_toString (h : n < UInt32.size) (rest : List (List Char)) :
    takeVersion (('v' :: '=' :: (toString n).toList) :: rest) = some (some n, rest) := by
  have hcomma : (toString n).toList.contains ',' = false := by
    rw [← Bool.not_eq_true, List.contains_iff_mem]
    intro hmem
    exact absurd (Text.isDigit_of_mem_toString hmem) (by decide)
  simp only [takeVersion, hcomma, isValue_toString h, decimal?_toString h, Bool.false_eq_true,
    if_false, if_true, Option.map_some]

/-- What does not look like a version is no version. -/
theorem takeVersion_of_head (h : ∀ digits, fs.head? ≠ some ('v' :: '=' :: digits)) :
    takeVersion fs = some (none, fs) := by
  unfold takeVersion
  split
  · next digits rest => exact absurd rfl (h digits)
  · rfl

/-- A piece of parameters is read as such. -/
theorem takeParams_paramField (hne : ps ≠ []) (h : ∀ p ∈ ps, IsParam p)
    (hlen : (paramField ps).length ≤ 127) (rest : List (List Char)) :
    takeParams (paramField ps :: rest) = some (ps, rest) := by
  obtain ⟨p, ps', rfl⟩ := List.exists_cons_of_ne_nil hne
  obtain ⟨values, hfield⟩ := exists_paramField_cons p ps'
  have hequals : (paramField (p :: ps')).contains '=' = true := by simp [hfield]
  simp only [takeParams, hequals, if_true, params?_paramField hne h hlen, Option.map_some]

/-- Without an equals sign there are no parameters. -/
theorem takeParams_of_head (h : ∀ f, fs.head? = some f → '=' ∉ f) :
    takeParams fs = some ([], fs) := by
  cases fs with
  | nil => rfl
  | cons f rest =>
    have hequals : f.contains '=' = false := by
      rw [← Bool.not_eq_true, List.contains_iff_mem]
      exact h f rfl
    simp only [takeParams, hequals, Bool.false_eq_true, if_false]

/-! ## The whole text -/

/-- The version as a field, if there is one. -/
def versionPieces : Option Nat → List (List Char)
  | some n => ['v' :: '=' :: (toString n).toList]
  | none => []

/-- The parameters as a field, if there are any. -/
def paramPieces (ps : List (String × String)) : List (List Char) :=
  if ps.isEmpty then [] else [paramField ps]

/-- The salt and the hash as fields, as far as they are there. -/
def tagPieces (salt : Option String) (hash : Option Bytes) : List (List Char) :=
  (salt.map String.toList).toList ++ (hash.map Digest.Base64.encode).toList

/-- The fields of a hash string as they are written. -/
def pieces (h : HashString) : List (List Char) :=
  h.algorithm.toList :: (versionPieces h.version ++ (paramPieces h.params ++
    tagPieces h.salt h.hash))

/-- A hash string is written piece by piece. -/
theorem render_eq (h : HashString) : h.render = String.ofList (h.pieces.flatMap field) := by
  obtain ⟨algorithm, version, params, salt, hash⟩ := h
  cases version <;> cases params <;> cases salt <;> cases hash <;>
    simp [render, pieces, versionPieces, paramPieces, paramField, tagPieces]

/-- The parts are such as the reader accepts, and the text has one reading. -/
structure Readable (h : HashString) : Prop where
  algorithm : isName h.algorithm.toList = true
  version : ∀ n, h.version = some n → n < UInt32.size
  params : ∀ p ∈ h.params, IsParam p
  short : (paramField h.params).length ≤ 127
  /-- Parameters do not look like a version that is not there. -/
  unversioned : h.version = none → ∀ p, h.params.head? = some p → p.1 ≠ "v"
  salt : ∀ s, h.salt = some s → 4 ≤ s.toList.length ∧ isValue s.toList = true
  hash : ∀ bs, h.hash = some bs → 10 ≤ bs.length ∧ bs.length ≤ 64
  /-- There is no hash without a salt. -/
  salted : h.salt = none → h.hash = none

namespace Readable

variable {h : HashString}

/-- The characters of a salt and of a hash are those of values. -/
theorem isValueChar_of_mem_tag (hr : h.Readable) (hf : f ∈ tagPieces h.salt h.hash) (hc : c ∈ f) :
    isValueChar c = true := by
  simp only [tagPieces, List.mem_append, Option.mem_toList, Option.map_eq_some_iff] at hf
  rcases hf with ⟨s, hs, rfl⟩ | ⟨bs, -, rfl⟩
  · exact isValueChar_of_mem (hr.salt s hs).2 hc
  · exact isValueChar_of_mem_encode hc

/-- No field has a dollar sign in it. -/
theorem dollar_not_mem (hr : h.Readable) : ∀ f ∈ h.pieces, '$' ∉ f := by
  intro f hf hmem
  simp only [pieces, List.mem_cons, List.mem_append] at hf
  rcases hf with rfl | hf | hf | hf
  · exact absurd (isValueChar_of_mem_name hr.algorithm hmem) (by decide)
  · unfold versionPieces at hf
    split at hf
    · next n hn =>
      cases List.mem_singleton.1 hf
      have hdigit : '$' ∈ (toString n).toList := by simpa using hmem
      exact absurd (Text.isDigit_of_mem_toString hdigit) (by decide)
    · cases hf
  · unfold paramPieces at hf
    split at hf
    · cases hf
    · cases List.mem_singleton.1 hf
      exact dollar_not_mem_paramField hr.params hmem
  · exact absurd (hr.isValueChar_of_mem_tag hf hmem) (by decide)

/-- The version is taken off the front. -/
theorem takeVersion_pieces (hr : h.Readable) :
    takeVersion (versionPieces h.version ++ (paramPieces h.params ++ tagPieces h.salt h.hash)) =
      some (h.version, paramPieces h.params ++ tagPieces h.salt h.hash) := by
  cases hv : h.version with
  | some n => exact takeVersion_toString (hr.version n hv) _
  | none =>
    refine takeVersion_of_head fun digits hhead => ?_
    cases hp : h.params with
    | nil =>
      -- What stands in front is a salt or nothing, and neither has an equals sign.
      rw [hp] at hhead
      have hmem : 'v' :: '=' :: digits ∈ tagPieces h.salt h.hash := List.mem_of_mem_head? hhead
      exact absurd (hr.isValueChar_of_mem_tag hmem (c := '=') (by simp)) (by decide)
    | cons p ps =>
      obtain ⟨values, hfield⟩ := exists_paramField_cons p ps
      have hparam : IsParam p := hr.params p (hp ▸ List.mem_cons_self)
      have hname : p.1.toList ++ '=' :: values = 'v' :: '=' :: digits := by
        rw [hp] at hhead
        simpa [versionPieces, paramPieces, hfield] using hhead
      -- The equals sign ends the name, so the name is that of a version.
      have hfirst : p.1.toList :: fields '=' values = ['v'] :: fields '=' digits := by
        rw [← fields_append_cons (hparam.not_mem_name rfl), hname]
        exact fields_append_cons (f := ['v']) (by decide)
      have hv' : p.1 = "v" := String.toList_inj.1 (List.cons.inj hfirst).1
      exact hr.unversioned hv p (by rw [hp]; rfl) hv'

/-- The parameters are taken off the front. -/
theorem takeParams_pieces (hr : h.Readable) :
    takeParams (paramPieces h.params ++ tagPieces h.salt h.hash) =
      some (h.params, tagPieces h.salt h.hash) := by
  unfold paramPieces
  split
  · next hnil =>
    rw [List.isEmpty_iff.1 hnil]
    refine takeParams_of_head fun f hf hmem => ?_
    exact absurd (hr.isValueChar_of_mem_tag (List.mem_of_mem_head? hf) hmem) (by decide)
  · next hne =>
    exact takeParams_paramField (fun hnil => hne (List.isEmpty_iff.2 hnil)) hr.params hr.short _

end Readable

/-- **What is written is read back.** -/
theorem parse_render {h : HashString} (hr : h.Readable) : parse h.render = some h := by
  have hpieces : fields '$' h.render.toList = [] :: h.pieces := by
    rw [render_eq, String.toList_ofList, fields_flatMap_field hr.dollar_not_mem]
  have hversion := hr.takeVersion_pieces
  have hparams := hr.takeParams_pieces
  rw [parse, hpieces, pieces]
  simp only [hr.algorithm, hversion, hparams, guard, if_true, Option.pure_def, Option.bind_eq_bind,
    Option.bind_some, String.ofList_toList]
  -- The version and the parameters are taken off; what is left is the salt and the hash.
  obtain ⟨algorithm, version, params, salt, hash⟩ := h
  cases salt with
  | none =>
    cases hr.salted rfl
    rfl
  | some s =>
    have hsalt : salt? s.toList = some s := salt?_toList (hr.salt s rfl)
    cases hash with
    | none => simp only [tagPieces, Option.map_some, Option.map_none, Option.toList_some,
        Option.toList_none, List.append_nil, hsalt, Option.bind_some]
    | some bs =>
      have hhash : hash? (Digest.Base64.encode bs) = some bs := hash?_encode (hr.hash bs rfl)
      simp only [tagPieces, Option.map_some, Option.toList_some, List.singleton_append, hsalt,
        hhash, Option.bind_some]

end Admission.Password.HashString
