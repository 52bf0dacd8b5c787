import Admission.Password.Encoder
import Admission.Proofs.Password.HashString

/-!
# Encoders know what they stored

A password matches the form in which an encoder stored it, and a form just stored is not due to be
encoded anew (`Encoder.Knows`). For Argon2 this rests on the hash string being read as it was
written: the variant, the version, the cost and the salt found in it are those it was made with, so
that the comparison is of two tags made in the same way (`Argon2.accepts_encode`).
-/

namespace Admission.Password

/-! ## Argon2 -/

namespace Argon2

open Digest.Argon2 (Layout Version)

/-- The layout of new hashes. -/
def defaultLayout : Layout := ⟨.id, .v19, defaultCost⟩

/-- The tag of a password under a salt. -/
def tag (salt : Salt) (password : String) : Bytes :=
  Digest.Argon2.hash defaultLayout 32 (Bytes.ofString password) salt.toList []

/-- The parameters of new hashes. -/
def defaultParams : List (String × String) :=
  [("m", toString defaultCost.memory), ("t", toString defaultCost.passes),
    ("p", toString defaultCost.lanes)]

/-- The hash string of a password with its tag. -/
def hashString (salt : Salt) (tag : Bytes) : HashString where
  algorithm := variantName .id
  version := some Version.v19.number
  params := defaultParams
  salt := some (String.ofList (Digest.Base64.encode salt.toList))
  hash := some tag

variable {salt : Salt} {password presented : String}

/-- The stored form of a password is the text of a hash string with its tag. -/
theorem encode_eq : encode salt password = (hashString salt (tag salt password)).render := rfl

/-- A tag has 32 bytes. -/
theorem length_tag : (tag salt password).length = 32 :=
  Digest.Argon2.length_hash ..

/-- The parameters of new hashes can be written and read. -/
theorem isParam_defaultParams : ∀ p ∈ defaultParams, HashString.IsParam p := by
  intro p hp
  simp only [defaultParams, List.mem_cons, List.not_mem_nil, or_false] at hp
  rcases hp with rfl | rfl | rfl <;>
    exact ⟨by decide, HashString.isValue_toString (by decide)⟩

/-- The parameters of new hashes stand for the cost of new hashes. -/
theorem ofParams?_defaultParams : Settings.ofParams? defaultParams = some ⟨defaultCost, []⟩ := by
  have hm : HashString.decimal? (toString defaultCost.memory).toList = some defaultCost.memory :=
    HashString.decimal?_toString (by decide)
  have ht : HashString.decimal? (toString defaultCost.passes).toList = some defaultCost.passes :=
    HashString.decimal?_toString (by decide)
  have hp : HashString.decimal? (toString defaultCost.lanes).toList = some defaultCost.lanes :=
    HashString.decimal?_toString (by decide)
  simp only [Settings.ofParams?, defaultParams, List.foldlM_cons, List.foldlM_nil,
    Settings.withParam, hm, ht, hp, Option.map_some, Option.bind_eq_bind, Option.bind_some,
    Option.pure_def]
  rfl

/-- A new hash string can be read, whatever the salt and the tag of 32 bytes. -/
theorem readable_hashString {tag : Bytes} (h : tag.length = 32) :
    (hashString salt tag).Readable where
  algorithm := show HashString.isName (variantName .id).toList = true by decide
  version n hn := by cases hn; decide
  params := isParam_defaultParams
  short := show (HashString.paramField defaultParams).length ≤ 127 by decide
  unversioned hv := by cases hv
  salt s hs := by
    cases hs
    have hlen : (Digest.Base64.encode salt.toList).length = 22 := by
      rw [Digest.Base64.length_encode, Vector.length_toList]
    rw [String.toList_ofList, HashString.isValue, hlen]
    refine ⟨by decide, ?_⟩
    rw [decide_eq_true (by decide), Bool.true_and, List.all_eq_true]
    exact fun c hc => HashString.isValueChar_of_mem_encode hc
  hash bs hbs := by
    cases hbs
    omega
  salted hs := by cases hs

/-- A presented password is judged by its tag. -/
theorem verify_hashString {expected : Bytes} (h : expected.length = 32) :
    verify presented (hashString salt expected) = (tag salt presented == expected) := by
  have hsalt : Digest.Base64.decode (String.ofList (Digest.Base64.encode salt.toList)).toList =
      some salt.toList := by
    rw [String.toList_ofList, Digest.Base64.decode_encode]
  have hlength : 8 ≤ salt.toList.length := by
    rw [Vector.length_toList]
    decide
  have hvariant : variant? (variantName .id) = some .id := rfl
  have hversion : version? (some Version.v19.number) = some .v19 := rfl
  simp only [verify, hashString, ofParams?_defaultParams, hvariant, hversion, hsalt, hlength, guard,
    if_true, h, Option.pure_def, Option.bind_eq_bind, Option.bind_some, Option.getD_some, tag,
    defaultLayout]

/-- **A presented password matches a stored form by its tag**: exactly if it has the same tag under
the same salt. -/
theorem accepts_encode :
    accepts presented (encode salt password) = (tag salt presented == tag salt password) := by
  have hparse : HashString.parse (encode salt password) =
      some (hashString salt (tag salt password)) := by
    rw [encode_eq, HashString.parse_render (readable_hashString length_tag)]
  rw [accepts, hparse]
  exact verify_hashString length_tag

end Argon2

/-! ## The encoders -/

namespace Encoder

variable {salt : Salt} {password presented stored encoded : String}

/-- Under every salt an encoder stores every password in a form that the password matches and that
is not due to be encoded anew. -/
def Knows (c : Encoder) : Prop :=
  ∀ salt password, ∃ encoded, c.encode salt password = .ok encoded ∧
    c.accepts password encoded = true ∧ c.outdated encoded = false

/-- The plain encoder knows its passwords: it stores them as they are. -/
theorem plain_knows : plain.Knows :=
  fun _ password => ⟨password, rfl, beq_self_eq_true password, rfl⟩

@[simp] theorem argon2_encode :
    argon2.encode salt password = .ok (Argon2.encode salt password) := rfl

@[simp] theorem argon2_accepts :
    argon2.accepts presented encoded = Argon2.accepts presented encoded := rfl

@[simp] theorem argon2_outdated : argon2.outdated encoded = false := rfl

/-- The Argon2 encoder knows them by their tags. -/
theorem argon2_knows : argon2.Knows := by
  intro salt password
  refine ⟨Argon2.encode salt password, argon2_encode, ?_, argon2_outdated⟩
  rw [argon2_accepts, Argon2.accepts_encode, beq_self_eq_true]

/-- Behind its mark a hash is judged as it is without. -/
theorem marked_accepts_hash :
    marked.accepts presented (argon2Mark ++ encoded) = argon2.accepts presented encoded := by
  simp [marked, argon2]

/-- A marked hash is up to date. -/
theorem marked_outdated_hash : marked.outdated (argon2Mark ++ encoded) = false := by
  simp [marked]

/-- The two marks differ in their second character. -/
theorem not_startsWith_plainMark : Text.startsWith argon2Mark (plainMark ++ stored) = false := by
  simp [Text.startsWith, argon2Mark, plainMark, List.isPrefixOf]

/-- Behind its mark a plain password is compared as it is. -/
theorem marked_accepts_plain :
    marked.accepts presented (plainMark ++ stored) = (presented == stored) := by
  have hhash : Text.dropLeading? argon2Mark (plainMark ++ stored) = none :=
    if_neg (by simp [not_startsWith_plainMark])
  simp [marked, hhash]

/-- A marked plain password is due to be encoded anew. -/
theorem marked_outdated_plain : marked.outdated (plainMark ++ stored) = true := by
  simp [marked, not_startsWith_plainMark]

/-- The encoder with marks knows its passwords: it stores marked hashes. -/
theorem marked_knows : marked.Knows := by
  intro salt password
  obtain ⟨encoded, hencoded, haccepts, -⟩ := argon2_knows salt password
  cases hencoded
  exact ⟨_, rfl, marked_accepts_hash.trans haccepts, marked_outdated_hash⟩

/-- **Every encoder accepts what it encoded.** All three succeed under every salt, in a form that
the password matches and that is not outdated; and of a marked plain password the marking encoder
accepts that password alone, and reports it as outdated. -/
theorem accepts_encoded :
    plain.Knows ∧ argon2.Knows ∧ marked.Knows ∧
      ∀ stored,
        (∀ presented, marked.accepts presented (plainMark ++ stored) = true ↔ presented = stored) ∧
          marked.outdated (plainMark ++ stored) = true := by
  refine ⟨plain_knows, argon2_knows, marked_knows, fun stored => ⟨fun presented => ?_, ?_⟩⟩
  · rw [marked_accepts_plain, beq_iff_eq]
  · exact marked_outdated_plain

end Encoder

end Admission.Password
