/-
  LuauLayout.Text.Blank

  Blank characters, and the cutting of a text around them.

  `isBlank` is the Unicode property White_Space. It holds of the zero-width
  joiners and of the byte-order mark no more than of a letter, so those are
  kept by `trim`. `cut?` splits a text at the first occurrence of a separator.
-/

namespace LuauLayout
namespace Text

/-- The property White_Space: tab to carriage return, space, next line, no-break
    space, the Ogham and ideographic spaces, U+2000 to U+200A, the two Unicode
    separators, and the narrow and mathematical spaces. -/
def isBlank (c : Char) : Bool :=
  (0x9 ≤ c.toNat && c.toNat ≤ 0xd) || c.toNat == 0x20 || c.toNat == 0x85 || c.toNat == 0xa0
    || c.toNat == 0x1680 || (0x2000 ≤ c.toNat && c.toNat ≤ 0x200a)
    || c.toNat == 0x2028 || c.toNat == 0x2029 || c.toNat == 0x202f || c.toNat == 0x205f
    || c.toNat == 0x3000

/-- Removes blank characters from both ends. -/
def trim (cs : List Char) : List Char :=
  ((cs.dropWhile isBlank).reverse.dropWhile isBlank).reverse

/-- The parts before and after the first `sep`, if there is one. -/
def cut? (sep : Char) : List Char → Option (List Char × List Char)
  | [] => none
  | c :: cs => if c = sep then some ([], cs) else (cut? sep cs).map fun (a, b) => (c :: a, b)

/-! ## Cutting -/

/-- A successful cut is at the first separator, and loses nothing else. -/
theorem cut?_eq_some_iff {sep : Char} {cs a b : List Char} :
    cut? sep cs = some (a, b) ↔ cs = a ++ sep :: b ∧ sep ∉ a := by
  induction cs generalizing a b with
  | nil => simp [cut?]
  | cons c cs ih =>
    by_cases h : c = sep
    · subst h
      cases a with
      | nil => simp [cut?]
      | cons d a =>
        simp only [cut?, if_true, Option.some.injEq, Prod.mk.injEq, List.cons_append,
          List.cons.injEq, List.mem_cons, not_or]
        constructor
        · intro h
          simp at h
        · rintro ⟨⟨rfl, _⟩, hne, _⟩
          exact absurd rfl hne
    · cases a with
      | nil =>
        simp only [cut?, h, if_false, List.nil_append, List.cons.injEq, false_and, iff_false]
        simp
      | cons d a =>
        simp only [cut?, h, if_false, Option.map_eq_some_iff, Prod.exists, Prod.mk.injEq,
          List.cons.injEq, List.cons_append, List.mem_cons, not_or]
        constructor
        · rintro ⟨a', b', h', ⟨rfl, rfl⟩, rfl⟩
          exact ⟨⟨rfl, (ih.mp h').1⟩, Ne.symm h, (ih.mp h').2⟩
        · rintro ⟨⟨rfl, h'⟩, _, hn⟩
          exact ⟨a, b, ih.mpr ⟨h', hn⟩, ⟨rfl, rfl⟩, rfl⟩

/-- A cut fails exactly when the separator does not occur. -/
theorem cut?_eq_none_iff {sep : Char} {cs : List Char} : cut? sep cs = none ↔ sep ∉ cs := by
  induction cs with
  | nil => simp [cut?]
  | cons c cs ih =>
    by_cases h : c = sep
    · simp [cut?, h]
    · simp [cut?, h, ih, Ne.symm h]

end Text
end LuauLayout
