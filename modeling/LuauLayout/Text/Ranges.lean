/-
  LuauLayout.Text.Ranges

  Sets of characters as lists of ranges.

  A property of characters is tabulated as a list of inclusive ranges of code
  points, smallest first. A search in it stops at the first range behind the
  character; `inRanges_eq_any` says that this loses nothing as long as the list
  is `ascending`.
-/

namespace LuauLayout
namespace Text

/-- Whether a code point lies in one of the ranges of an ascending list. -/
def inRanges (n : Nat) : List (Nat × Nat) → Bool
  | [] => false
  | (lo, hi) :: rest => decide (lo ≤ n) && (decide (n ≤ hi) || inRanges n rest)

/-- Whether every range ends before the next one begins, and none ends before its own beginning. -/
def ascending : List (Nat × Nat) → Bool
  | [] => true
  | (lo, hi) :: rest =>
    decide (lo ≤ hi) && rest.head?.all (fun r => decide (hi < r.1)) && ascending rest

/-- Nothing in front of an ascending list lies in one of its ranges. -/
theorem any_eq_false_of_lt {n : Nat} {rs : List (Nat × Nat)} (h : ascending rs = true)
    (hn : ∀ r ∈ rs.head?, n < r.1) :
    (rs.any fun r => decide (r.1 ≤ n) && decide (n ≤ r.2)) = false := by
  induction rs with
  | nil => rfl
  | cons r rest ih =>
    simp only [ascending, Bool.and_eq_true, decide_eq_true_eq] at h
    obtain ⟨⟨hr, hnext⟩, hrest⟩ := h
    have hlt : n < r.1 := hn r (by simp)
    have ih' := ih hrest (by
      intro r' hr'
      rw [Option.mem_def] at hr'
      simp only [hr', Option.all_some, decide_eq_true_eq] at hnext
      omega)
    simp only [List.any_cons, ih', Bool.or_false, Bool.and_eq_false_iff, decide_eq_false_iff_not]
    left
    omega

/-- The search finds what lies in any of the ranges. -/
theorem inRanges_eq_any {rs : List (Nat × Nat)} (h : ascending rs = true) (n : Nat) :
    inRanges n rs = rs.any fun r => decide (r.1 ≤ n) && decide (n ≤ r.2) := by
  induction rs with
  | nil => rfl
  | cons r rest ih =>
    have hcopy := h
    simp only [ascending, Bool.and_eq_true, decide_eq_true_eq] at h
    obtain ⟨⟨hr, hnext⟩, hrest⟩ := h
    by_cases hlo : r.1 ≤ n
    · simp [inRanges, List.any_cons, ih hrest, hlo]
    · rw [any_eq_false_of_lt hcopy (by intro r' hr'; simp at hr'; subst hr'; omega)]
      simp [inRanges, hlo]

end Text
end LuauLayout
