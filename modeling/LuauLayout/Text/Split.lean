/-
  LuauLayout.Text.Split

  Cutting a text at every occurrence of a separator.

  Nothing but the separators is lost, and there is one part more than there are
  separators, so that even the empty text has a part.

    * `split_cons_separator`, `split_cons` — the parts, character by character.
    * `intercalate_split`                  — the parts give the text back.
    * `split_append`                       — a first part that is put together.
    * `not_mem_of_mem_split`, `split_of_not_mem` — a part is what has no separator.
    * `split_intercalate`                  — joined parts are found again.
-/

namespace LuauLayout
namespace Text

/-- Puts a character in front of parts. -/
def consPart (separator c : Char) : List (List Char) → List (List Char)
  | [] => [[c]]
  | part :: rest => if c = separator then [] :: part :: rest else (c :: part) :: rest

/-- The parts of a text between separators. -/
def split (separator : Char) (cs : List Char) : List (List Char) :=
  cs.foldr (consPart separator) [[]]

theorem split_nil (separator : Char) : split separator [] = [[]] := rfl

theorem consPart_ne_nil (separator c : Char) (parts : List (List Char)) :
    consPart separator c parts ≠ [] := by
  cases parts with
  | nil => simp [consPart]
  | cons part rest =>
    by_cases h : c = separator <;> simp [consPart, h]

/-- There is at least one part. -/
theorem split_ne_nil (separator : Char) (cs : List Char) : split separator cs ≠ [] := by
  cases cs with
  | nil => simp [split_nil]
  | cons c cs => exact consPart_ne_nil separator c _

/-- A separator ends an empty part. -/
theorem split_cons_separator (separator : Char) (cs : List Char) :
    split separator (separator :: cs) = [] :: split separator cs := by
  obtain ⟨part, rest, h⟩ := List.exists_cons_of_ne_nil (split_ne_nil separator cs)
  have h' : split separator (separator :: cs) = consPart separator separator (split separator cs) :=
    rfl
  rw [h', h]
  simp [consPart]

/-- Any other character belongs to the first part. -/
theorem split_cons {separator c : Char} (hc : c ≠ separator) {cs part : List Char}
    {rest : List (List Char)} (h : split separator cs = part :: rest) :
    split separator (c :: cs) = (c :: part) :: rest := by
  have h' : split separator (c :: cs) = consPart separator c (split separator cs) := rfl
  rw [h', h]
  simp [consPart, hc]

/-- The parts with separators between them are the text. -/
theorem intercalate_split (separator : Char) (cs : List Char) :
    [separator].intercalate (split separator cs) = cs := by
  induction cs with
  | nil => rw [split_nil, List.intercalate_singleton]
  | cons c cs ih =>
    obtain ⟨part, rest, h⟩ := List.exists_cons_of_ne_nil (split_ne_nil separator cs)
    rw [h] at ih
    by_cases hc : c = separator
    · subst hc
      rw [split_cons_separator, h, List.intercalate_cons_cons, ih]
      rfl
    · rw [split_cons hc h]
      cases rest with
      | nil =>
        rw [List.intercalate_singleton] at ih ⊢
        rw [ih]
      | cons next rest =>
        rw [List.intercalate_cons_cons] at ih ⊢
        rw [List.cons_append, List.cons_append, ih]

/-- The parts determine the text. -/
theorem split_injective {separator : Char} {as bs : List Char}
    (h : split separator as = split separator bs) : as = bs := by
  rw [← intercalate_split separator as, h, intercalate_split]

/-- There is no separator in a part. -/
theorem not_mem_of_mem_split {separator : Char} {cs part : List Char}
    (h : part ∈ split separator cs) : separator ∉ part := by
  induction cs generalizing part with
  | nil =>
    rw [split_nil, List.mem_singleton] at h
    rw [h]
    exact List.not_mem_nil
  | cons c cs ih =>
    by_cases hc : c = separator
    · subst hc
      rw [split_cons_separator, List.mem_cons] at h
      rcases h with rfl | h
      · exact List.not_mem_nil
      · exact ih h
    · obtain ⟨first, rest, hsplit⟩ := List.exists_cons_of_ne_nil (split_ne_nil separator cs)
      rw [split_cons hc hsplit, List.mem_cons] at h
      rcases h with rfl | h
      · rw [List.mem_cons, not_or]
        exact ⟨Ne.symm hc, ih (hsplit ▸ List.mem_cons_self)⟩
      · exact ih (hsplit ▸ List.mem_cons_of_mem first h)

/-- A part is not longer than the whole. -/
theorem length_le_of_mem_split {separator : Char} {cs part : List Char}
    (h : part ∈ split separator cs) : part.length ≤ cs.length := by
  induction cs generalizing part with
  | nil =>
    rw [split_nil, List.mem_singleton] at h
    subst h
    exact Nat.le_refl _
  | cons c cs ih =>
    rw [List.length_cons]
    by_cases hc : c = separator
    · subst hc
      rw [split_cons_separator, List.mem_cons] at h
      rcases h with rfl | h
      · exact Nat.zero_le _
      · have hrest := ih h
        omega
    · obtain ⟨first, rest, hsplit⟩ := List.exists_cons_of_ne_nil (split_ne_nil separator cs)
      rw [split_cons hc hsplit, List.mem_cons] at h
      rcases h with rfl | h
      · have hfirst := ih (hsplit ▸ List.mem_cons_self)
        rw [List.length_cons]
        omega
      · have hrest := ih (hsplit ▸ List.mem_cons_of_mem first h)
        omega

/-- Characters in front that are no separators go to the first part. -/
theorem split_append {separator : Char} {cs rest part : List Char} {parts : List (List Char)}
    (hcs : separator ∉ cs) (h : split separator rest = part :: parts) :
    split separator (cs ++ rest) = (cs ++ part) :: parts := by
  induction cs with
  | nil => exact h
  | cons c cs ih =>
    have hc : c ≠ separator := (List.ne_of_not_mem_cons hcs).symm
    exact split_cons hc (ih (List.not_mem_of_not_mem_cons hcs))

/-- A text without a separator is its one part. -/
theorem split_of_not_mem {separator : Char} {cs : List Char} (h : separator ∉ cs) :
    split separator cs = [cs] := by
  have hsplit := split_append h (split_nil separator)
  rwa [List.append_nil] at hsplit

/-- The first separator ends the first part. -/
theorem split_append_separator {separator : Char} {part : List Char} (h : separator ∉ part)
    (cs : List Char) : split separator (part ++ separator :: cs) = part :: split separator cs := by
  have hsplit := split_append h (split_cons_separator separator cs)
  rwa [List.append_nil] at hsplit

/-- Parts that hold no separator are found again when they are joined by separators. -/
theorem split_intercalate {separator : Char} {parts : List (List Char)} (hne : parts ≠ [])
    (h : ∀ part ∈ parts, separator ∉ part) :
    split separator ([separator].intercalate parts) = parts := by
  induction parts with
  | nil => exact absurd rfl hne
  | cons part parts ih =>
    obtain ⟨hpart, hparts⟩ := List.forall_mem_cons.mp h
    cases parts with
    | nil => rw [List.intercalate_singleton, split_of_not_mem hpart]
    | cons next rest =>
      have hrest := ih (List.cons_ne_nil next rest) hparts
      rw [List.intercalate_cons_cons, List.append_assoc, List.singleton_append,
        split_append_separator hpart, hrest]

end Text
end LuauLayout
