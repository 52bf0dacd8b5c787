import Mathlib.Data.Option.Basic
import Admission.Digest.Base64

/-!
# Base64 is read as it is written

What `encode` writes for a byte string is read back as that string (`decode_encode`): no letter has
two values, and the bits that the last group leaves over are written as zero. A written form
consists of letters of the alphabet (`exists_letter_of_mem_encode`), and its length depends on the
number of bytes alone (`length_encode`).
-/

namespace Admission.Digest.Base64

variable {bs : Bytes}

/-- A letter stands for the number that it was chosen for. -/
theorem value_letter : ∀ {n : Nat}, n < 64 → value (letter n) = some n := by
  decide

/-- The byte that a number stands for. -/
theorem toUInt8_eq {n : Nat} {b : UInt8} (h : n = b.toNat) : n.toUInt8 = b := by
  rw [h]
  exact UInt8.ofNat_toNat

/-- **What is written is read back.** -/
theorem decode_encode (bs : Bytes) : decode (encode bs) = some bs := by
  induction bs using encode.induct with
  | case1 => rfl
  | case2 a =>
    have ha := a.toNat_lt
    have hp := value_letter (n := a.toNat / 4) (by omega)
    have hq := value_letter (n := a.toNat % 4 * 16) (by omega)
    have hunused : a.toNat % 4 * 16 % 16 = 0 := by omega
    have hbyte : (a.toNat / 4 * 4 + a.toNat % 4 * 16 / 16).toUInt8 = a := toUInt8_eq (by omega)
    simp only [encode, decode, hp, hq, hunused, hbyte, guard, if_true, Option.bind_eq_bind,
      Option.bind_some, Option.pure_def]
  | case3 a b =>
    have ha := a.toNat_lt
    have hb := b.toNat_lt
    have hp := value_letter (n := a.toNat / 4) (by omega)
    have hq := value_letter (n := a.toNat % 4 * 16 + b.toNat / 16) (by omega)
    have hr := value_letter (n := b.toNat % 16 * 4) (by omega)
    have hunused : b.toNat % 16 * 4 % 4 = 0 := by omega
    have hfirst : (a.toNat / 4 * 4 + (a.toNat % 4 * 16 + b.toNat / 16) / 16).toUInt8 = a :=
      toUInt8_eq (by omega)
    have hsecond : ((a.toNat % 4 * 16 + b.toNat / 16) % 16 * 16 + b.toNat % 16 * 4 / 4).toUInt8
        = b := toUInt8_eq (by omega)
    simp only [encode, decode, hp, hq, hr, hunused, hfirst, hsecond, guard, if_true,
      Option.bind_eq_bind, Option.bind_some, Option.pure_def]
  | case4 a b c rest ih =>
    have ha := a.toNat_lt
    have hb := b.toNat_lt
    have hc := c.toNat_lt
    have hp := value_letter (n := a.toNat / 4) (by omega)
    have hq := value_letter (n := a.toNat % 4 * 16 + b.toNat / 16) (by omega)
    have hr := value_letter (n := b.toNat % 16 * 4 + c.toNat / 64) (by omega)
    have hs := value_letter (n := c.toNat % 64) (by omega)
    have hfirst : (a.toNat / 4 * 4 + (a.toNat % 4 * 16 + b.toNat / 16) / 16).toUInt8 = a :=
      toUInt8_eq (by omega)
    have hsecond : ((a.toNat % 4 * 16 + b.toNat / 16) % 16 * 16 +
        (b.toNat % 16 * 4 + c.toNat / 64) / 4).toUInt8 = b := toUInt8_eq (by omega)
    have hthird : ((b.toNat % 16 * 4 + c.toNat / 64) % 4 * 64 + c.toNat % 64).toUInt8 = c :=
      toUInt8_eq (by omega)
    simp only [encode, decode, hp, hq, hr, hs, ih, hfirst, hsecond, hthird, Option.bind_eq_bind,
      Option.bind_some, Option.pure_def]

/-- A written form consists of letters of the alphabet. -/
theorem exists_letter_of_mem_encode {c : Char} (h : c ∈ encode bs) : ∃ n, c = letter n := by
  induction bs using encode.induct with
  | case1 => cases h
  | case2 a | case3 a b =>
    simp only [encode, List.mem_cons, List.not_mem_nil, or_false] at h
    grind
  | case4 a b c rest ih =>
    simp only [encode, List.mem_cons] at h
    grind

/-- Every three bytes take four characters, and the rest as many as it needs. -/
theorem length_encode (bs : Bytes) : (encode bs).length = (4 * bs.length + 2) / 3 := by
  induction bs using encode.induct with
  | case1 => rfl
  | case2 a => simp [encode]
  | case3 a b => simp [encode]
  | case4 a b c rest ih =>
    simp only [encode, List.length_cons, ih]
    omega

end Admission.Digest.Base64
