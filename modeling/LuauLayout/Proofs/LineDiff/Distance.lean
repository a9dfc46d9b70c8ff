/-
  LuauLayout.Proofs.LineDiff.Distance

  When two texts have no difference.

  The walk back through the table may miss common lines, so the distance of two
  texts is not always the least one. Two things hold of every table all the
  same: what the walk finds is a common subsequence of the lines, and from the
  last lines of two equal texts it runs along the diagonal and finds them all.
  So a distance of zero means that the texts are the same, and nothing else
  does.

    * `exists_walkBack`      — what the walk finds is a common subsequence.
    * `walkBack_self`        — over equal lines it finds all of them.
    * `distance_eq_zero_iff` — the distance of two texts is zero exactly if they
      are the same.
-/

import LuauLayout.LineDiff

namespace LuauLayout
namespace LineDiff

/-! ## What the walk finds -/

/-- The first lines with one more are the first lines and the line with that number, if there is
    one. -/
theorem take_succ (ls : Array String) (i : Nat) :
    ls.toList.take (i + 1) = ls.toList.take i ++ (ls[i]?).toList := by
  rw [List.take_add_one, Array.getElem?_toList]

/-- By the steps of the walk, with the lines found so far left as they are: a step takes a line that
    both texts have there, or leaves a line of one of them behind. -/
theorem exists_walkBack (entries : Array Nat) (expected actual : Array String) (i j : Nat)
    (found : List String) :
    ∃ more, walkBack entries expected actual i j found = more ++ found ∧
      more.Sublist (expected.toList.take i) ∧ more.Sublist (actual.toList.take j) := by
  fun_induction walkBack entries expected actual i j found with
  | case1 i j found same ih =>
    obtain ⟨more, hw, he, ha⟩ := ih
    -- the line that is taken stands behind everything the walk finds later
    refine ⟨more ++ (expected[i]?).toList, by rw [hw, List.append_assoc], ?_, ?_⟩
    · rw [take_succ]
      exact he.append (List.Sublist.refl _)
    · rw [take_succ, same]
      exact ha.append (List.Sublist.refl _)
  | case2 i j found _ _ => exact ⟨[], rfl, List.nil_sublist _, List.nil_sublist _⟩
  | case3 i j found _ _ _ ih =>
    obtain ⟨more, hw, he, ha⟩ := ih
    refine ⟨more, hw, he, ?_⟩
    rw [take_succ]
    exact ha.trans (List.sublist_append_left _ _)
  | case4 i j found _ _ _ ih =>
    obtain ⟨more, hw, he, ha⟩ := ih
    refine ⟨more, hw, ?_, ha⟩
    rw [take_succ]
    exact he.trans (List.sublist_append_left _ _)
  | case5 => exact ⟨[], rfl, List.nil_sublist _, List.nil_sublist _⟩
  | case6 => exact ⟨[], rfl, List.nil_sublist _, List.nil_sublist _⟩

/-- From equally many lines of one text, the walk never leaves the diagonal. -/
theorem walkBack_self (entries : Array Nat) (ls : Array String) (i : Nat) (found : List String) :
    walkBack entries ls ls i i found = ls.toList.take i ++ found := by
  induction i generalizing found with
  | zero => simp [walkBack]
  | succ i ih =>
    rw [walkBack, if_pos rfl, ih, take_succ, List.append_assoc]

/-! ## Common lines -/

/-- The lines found to be common are lines of both texts, in their order. -/
theorem common_sublist (expected actual : List String) :
    (common expected actual).Sublist expected ∧ (common expected actual).Sublist actual := by
  obtain ⟨more, hw, he, ha⟩ := exists_walkBack (table expected actual) expected.toArray
    actual.toArray expected.length actual.length []
  rw [List.append_nil] at hw
  rw [common, hw]
  exact ⟨by simpa using he, by simpa using ha⟩

/-- Of equal lines all are found to be common. -/
theorem common_self (ls : List String) : common ls ls = ls := by
  rw [common, walkBack_self]
  simp

/-! ## No distance -/

/-- Lines that are all common are the same lines: a subsequence of full length is the whole. -/
theorem eq_of_two_mul_common {expected actual : List String}
    (h : expected.length + actual.length ≤ 2 * (common expected actual).length) :
    expected = actual := by
  obtain ⟨he, ha⟩ := common_sublist expected actual
  have hle : (common expected actual).length ≤ expected.length := he.length_le
  have hla : (common expected actual).length ≤ actual.length := ha.length_le
  have hce : common expected actual = expected := he.eq_of_length (by omega)
  have hca : common expected actual = actual := ha.eq_of_length (by omega)
  exact hce.symm.trans hca

/-- Two texts have no distance exactly if they are the same. -/
theorem distance_eq_zero_iff {expected actual : String} :
    distance expected actual = 0 ↔ expected = actual := by
  constructor
  · intro h
    have hc : (Text.lines expected).length + (Text.lines actual).length
        ≤ 2 * (common (Text.lines expected) (Text.lines actual)).length :=
      Nat.le_of_sub_eq_zero h
    exact Text.lines_injective (eq_of_two_mul_common hc)
  · rintro rfl
    rw [distance, common_self]
    omega

end LineDiff
end LuauLayout
