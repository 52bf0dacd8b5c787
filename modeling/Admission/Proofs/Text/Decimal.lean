import Mathlib.Algebra.Group.Nat.Defs

/-!
# Decimals

How a natural number is written: by digits alone (`isDigit_of_mem_toString`), at least one
(`toString_ne_nil`), without a leading zero unless it is zero itself (`head?_toString_ne`), and so
that its digits stand for it (`foldl_toString`).
-/

namespace Admission.Text

variable {n : Nat}

/-- A number is written in its decimal digits. -/
theorem toList_toString (n : Nat) : (toString n).toList = Nat.toDigits 10 n :=
  Nat.toList_repr

/-- At least one digit is written. -/
theorem toString_ne_nil (n : Nat) : (toString n).toList ≠ [] := by
  rw [toList_toString]
  exact Nat.toDigits_ne_nil

/-- Nothing but digits is written. -/
theorem isDigit_of_mem_toString {c : Char} (h : c ∈ (toString n).toList) : c.isDigit = true := by
  rw [toList_toString] at h
  exact Nat.isDigit_of_mem_toDigits (by decide) (by decide) h

/-- The digits stand for the number. -/
theorem foldl_toString (n : Nat) :
    (toString n).toList.foldl (fun n c => 10 * n + (c.toNat - 48)) 0 = n := by
  rw [toList_toString]
  exact Nat.ofDigitChars_toDigits (by decide) (by decide)

/-- A number has at most so many digits if it is below that power of ten. -/
theorem length_toString_le {k : Nat} (hk : 0 < k) (h : n < 10 ^ k) :
    (toString n).toList.length ≤ k := by
  rw [toList_toString]
  exact (Nat.length_toDigits_le_iff (by decide) hk).2 h

/-- Only zero begins with a zero. -/
theorem head?_toString_ne (h : n ≠ 0) : (toString n).toList.head? ≠ some '0' := by
  rw [toList_toString]
  induction n using Nat.strongRecOn with
  | ind n ih =>
    rcases Nat.lt_or_ge n 10 with hlt | hge
    · rw [Nat.toDigits_of_lt_base hlt, List.head?_cons, ne_eq, Option.some.injEq,
        Nat.digitChar_eq_zero]
      exact h
    · have hhead : (Nat.toDigits 10 (n / 10)).head? ≠ some '0' := ih _ (by omega) (by omega)
      rw [Nat.toDigits_of_base_le (by decide) hge, List.head?_append,
        Option.or_of_isSome (List.isSome_head?.2 Nat.toDigits_ne_nil)]
      exact hhead

/-- A number of more than one digit is not zero. -/
theorem ne_zero_of_one_lt_length (h : 1 < (toString n).toList.length) : n ≠ 0 := by
  rintro rfl
  exact absurd h (by decide)

end Admission.Text
