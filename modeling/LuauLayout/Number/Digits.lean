/-
  LuauLayout.Number.Digits

  ASCII digits and the natural numbers they stand for.

    * `Digits.ofChar` — the value of one digit.
    * `Digits.value`  — the number that digits stand for, the first being the
      highest; of the digits of a number, this is the number (`value_toDigits`).
-/

namespace LuauLayout
namespace Digits

/-- The value of a digit. -/
def ofChar (c : Char) : Nat := c.toNat - 48

/-- The number that digits stand for. -/
def value (ds : List Char) : Nat := ds.foldl (fun n d => n * 10 + ofChar d) 0

/-- One more digit at the end is worth one. -/
theorem value_concat (ds : List Char) (d : Char) : value (ds ++ [d]) = value ds * 10 + ofChar d := by
  simp [value, List.foldl_append]

theorem value_eq_ofDigitChars (ds : List Char) : value ds = Nat.ofDigitChars 10 ds 0 := by
  have hstep : (fun n d => n * 10 + ofChar d) =
      fun n (d : Char) => 10 * n + (d.toNat - '0'.toNat) := by
    funext n d
    rw [Nat.mul_comm]
    rfl
  rw [value, hstep, Nat.ofDigitChars]

/-! ## The digits of a number -/

/-- A number is what its digits stand for. -/
theorem value_toDigits (n : Nat) : value (Nat.toDigits 10 n) = n := by
  rw [value_eq_ofDigitChars]
  exact Nat.ofDigitChars_toDigits (by decide) (by decide)

theorem isDigit_of_mem_toDigits {n : Nat} {d : Char} (h : d ∈ Nat.toDigits 10 n) :
    d.isDigit = true :=
  Nat.isDigit_of_mem_toDigits (by decide) (by decide) h

/-- The digits of a positive number begin with no zero. -/
theorem exists_toDigits_eq_cons {n : Nat} (h : 0 < n) :
    ∃ d ds, Nat.toDigits 10 n = d :: ds ∧ d ≠ '0' := by
  induction n using Nat.strongRecOn with
  | ind n ih =>
    by_cases hlt : n < 10
    · rw [Nat.toDigits_of_lt_base hlt]
      exact ⟨_, [], rfl, fun hzero => Nat.ne_of_gt h (Nat.digitChar_eq_zero.mp hzero)⟩
    · obtain ⟨d, ds, hds, hd⟩ := ih (n / 10) (by omega) (by omega)
      rw [Nat.toDigits_of_base_le (by decide) (by omega), hds]
      exact ⟨d, _, rfl, hd⟩

end Digits
end LuauLayout
