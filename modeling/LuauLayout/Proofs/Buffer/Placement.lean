/-
  LuauLayout.Proofs.Buffer.Placement

  A text at a place, and the cells it covers.

  The first character of a text goes to the place, the others follow to the
  right, and every line behind the first begins in the first column of the next
  row. So a text covers a cell or not, whatever stood there before; writing it
  in place changes the cells it covers, to its own characters, and no other.

    * `Text.charAt?` — the character of a text in a cell; `charAt?_eq_some_iff`
      is the same by the lines of the text, and `charAt?_break`, `charAt?_cons`
      are the same by its first character.
    * `Placement`    — a text and its place.
    * `cell?_writeAt`, `rowCount_writeAt`, `rowLength_writeAt_le_iff` — the view
      after a text was written in place.
-/

import LuauLayout.Proofs.Buffer.View
import LuauLayout.Text.Split

namespace LuauLayout

/-! ## The cells of a text -/

namespace Text

/-- The column in which a line of a text begins if the text begins at a place: only the first line
    goes on where something else may stand. -/
def lineStart (start : Coordinate) (i : Nat) : Nat := if i = 0 then start.column else 0

/-- The character in a cell of a text that begins at a place. -/
def charAt? (cs : List Char) (start : Coordinate) (row column : Nat) : Option Char :=
  if start.row ≤ row ∧ lineStart start (row - start.row) ≤ column then
    (split '\n' cs)[row - start.row]?.bind fun l =>
      l[column - lineStart start (row - start.row)]?
  else none

variable {cs : List Char} {start : Coordinate} {row column : Nat}

/-- The `j`-th character of the `i`-th line stands `i` rows below the first, and `j` columns behind
    the column in which the line begins. -/
theorem charAt?_eq_some_iff {c : Char} : charAt? cs start row column = some c ↔
    ∃ i j l, (split '\n' cs)[i]? = some l ∧ l[j]? = some c ∧
      row = start.row + i ∧ column = lineStart start i + j := by
  rw [charAt?]
  constructor
  · intro h
    split at h
    · rename_i hin
      obtain ⟨l, hl, hc⟩ := Option.bind_eq_some_iff.mp h
      exact ⟨_, _, l, hl, hc, by omega, by omega⟩
    · cases h
  · rintro ⟨i, j, l, hl, hc, rfl, rfl⟩
    have hrow : start.row + i - start.row = i := by omega
    have hcolumn : lineStart start i + j - lineStart start i = j := by omega
    rw [hrow, hcolumn, if_pos ⟨by omega, by omega⟩, hl]
    exact hc

theorem charAt?_nil (start : Coordinate) (row column : Nat) :
    charAt? [] start row column = none := by
  rw [Option.eq_none_iff_forall_ne_some]
  intro c h
  obtain ⟨i, j, l, hl, hc, -, -⟩ := charAt?_eq_some_iff.mp h
  -- the one line of the empty text has no characters
  have hmem : l ∈ [[]] := List.mem_of_getElem? hl
  rw [List.mem_singleton.mp hmem] at hc
  cases hc

/-! Above the place, in its row, and below it. -/

theorem charAt?_above (h : row < start.row) : charAt? cs start row column = none := by
  rw [charAt?, if_neg]
  omega

theorem charAt?_first (cs : List Char) (start : Coordinate) (column : Nat) :
    charAt? cs start start.row column =
      if start.column ≤ column then
        (split '\n' cs)[0]?.bind fun l => l[column - start.column]?
      else none := by
  rw [charAt?, Nat.sub_self, lineStart, if_pos rfl]
  simp only [Nat.le_refl, true_and]

theorem charAt?_below (cs : List Char) (start : Coordinate) (i column : Nat) :
    charAt? cs start (start.row + i + 1) column
      = (split '\n' cs)[i + 1]?.bind fun l => l[column]? := by
  have hindex : start.row + i + 1 - start.row = i + 1 := by omega
  rw [charAt?, hindex, lineStart, if_neg (Nat.succ_ne_zero i), Nat.sub_zero,
    if_pos ⟨by omega, by omega⟩]

/-- Nothing stands before the place. -/
theorem charAt?_of_left (h : column < start.column) : charAt? cs start start.row column = none := by
  rw [charAt?_first, if_neg (by omega)]

/-- A line break covers no cell, and the text goes on in the next row. -/
theorem charAt?_break (cs : List Char) (start : Coordinate) (row column : Nat) :
    charAt? ('\n' :: cs) start row column = charAt? cs ⟨start.row + 1, 0⟩ row column := by
  have hsplit := split_cons_separator '\n' cs
  rcases Nat.lt_trichotomy row start.row with habove | rfl | hbelow
  · rw [charAt?_above habove, charAt?_above (Nat.lt_succ_of_lt habove)]
  · -- the line that the break ends is empty
    rw [charAt?_first, hsplit, charAt?_above (Nat.lt_succ_self _), List.getElem?_cons_zero,
      Option.bind_some, List.getElem?_nil, ite_self]
  · obtain ⟨i, rfl⟩ := Nat.exists_eq_add_of_lt hbelow
    rw [charAt?_below, hsplit, List.getElem?_cons_succ]
    -- the first line behind the break, or a later one
    cases i with
    | zero =>
      have hfirst := charAt?_first cs ⟨start.row + 1, 0⟩ column
      rw [if_pos (Nat.zero_le column), Nat.sub_zero] at hfirst
      exact hfirst.symm
    | succ i =>
      have hrow : start.row + (i + 1) + 1 = start.row + 1 + i + 1 := by omega
      have hlater := charAt?_below cs ⟨start.row + 1, 0⟩ i column
      rw [hrow]
      exact hlater.symm

/-- Any other character covers the place, and the text goes on behind it. -/
theorem charAt?_cons {c : Char} (hc : c ≠ '\n') (cs : List Char) (start : Coordinate)
    (row column : Nat) : charAt? (c :: cs) start row column =
      if row = start.row ∧ column = start.column then some c
      else charAt? cs ⟨start.row, start.column + 1⟩ row column := by
  obtain ⟨l, rest, hrest⟩ := List.exists_cons_of_ne_nil (split_ne_nil '\n' cs)
  have hsplit := split_cons hc hrest
  rcases Nat.lt_trichotomy row start.row with habove | rfl | hbelow
  · have hne : ¬(row = start.row ∧ column = start.column) := by omega
    have hbehind : charAt? cs ⟨start.row, start.column + 1⟩ row column = none :=
      charAt?_above habove
    rw [if_neg hne, charAt?_above habove, hbehind]
  · have hfirst : charAt? cs ⟨start.row, start.column + 1⟩ start.row column =
        if start.column + 1 ≤ column then (split '\n' cs)[0]?.bind fun l =>
          l[column - (start.column + 1)]? else none :=
      charAt?_first cs ⟨start.row, start.column + 1⟩ column
    rw [hrest, List.getElem?_cons_zero, Option.bind_some] at hfirst
    rw [charAt?_first, hsplit, List.getElem?_cons_zero, Option.bind_some, hfirst]
    -- left of the place, at it, or behind it
    rcases Nat.lt_trichotomy column start.column with hleft | rfl | hright
    · rw [if_neg (by omega), if_neg (by omega), if_neg (by omega)]
    · rw [if_pos (Nat.le_refl _), if_pos ⟨rfl, rfl⟩, Nat.sub_self, List.getElem?_cons_zero]
    · have hindex : column - start.column = column - (start.column + 1) + 1 := by omega
      rw [if_pos (by omega), if_neg (by omega), if_pos (by omega), hindex,
        List.getElem?_cons_succ]
  · obtain ⟨i, rfl⟩ := Nat.exists_eq_add_of_lt hbelow
    have hne : ¬(start.row + i + 1 = start.row ∧ column = start.column) := by omega
    have hlater := charAt?_below cs ⟨start.row, start.column + 1⟩ i column
    rw [if_neg hne, charAt?_below, hsplit, hlater, hrest, List.getElem?_cons_succ,
      List.getElem?_cons_succ]

/-- A text stays left of a column if its first character and the rest of it do. -/
theorem forall_charAt?_cons {c : Char} (hc : c ≠ '\n') (cs : List Char) (start : Coordinate)
    (row n : Nat) : (∀ j d, charAt? (c :: cs) start row j = some d → j < n) ↔
      (row = start.row → start.column < n) ∧
        ∀ j d, charAt? cs ⟨start.row, start.column + 1⟩ row j = some d → j < n := by
  simp only [charAt?_cons hc]
  constructor
  · intro h
    refine ⟨fun hrow => h _ c (if_pos ⟨hrow, rfl⟩), fun j d hd => h j d ?_⟩
    rw [if_neg]
    · exact hd
    · -- the rest does not come back to the place
      rintro ⟨rfl, rfl⟩
      have hleft : charAt? cs ⟨start.row, start.column + 1⟩ start.row start.column = none :=
        charAt?_of_left (Nat.lt_succ_self _)
      rw [hleft] at hd
      cases hd
  · rintro ⟨hfirst, hrest⟩ j d hd
    split at hd
    · rename_i hplace
      rw [hplace.2]
      exact hfirst hplace.1
    · exact hrest j d hd

end Text

/-- A text and the place of its first character. -/
structure Placement where
  text : String
  place : Coordinate
  deriving DecidableEq, Repr

namespace Placement

/-- The character with which a text covers a cell, if it covers it. -/
def char? (p : Placement) (row column : Nat) : Option Char :=
  Text.charAt? p.text.toList p.place row column

/-- How many rows a text needs, those above its place included: one more than it has line breaks,
    from the row of its place on. -/
def rowsNeeded (p : Placement) : Nat := p.place.row + p.text.toList.count '\n' + 1

end Placement

/-! ## Writing a text in place -/

namespace Buffer

variable {b : Buffer} {row : Nat}

theorem cell?_writeFrom (h : row < b.rowCount) (cs : List Char) (column i j : Nat) :
    (writeFrom .overwrite cs row column b).cell? i j
      = (Text.charAt? cs ⟨row, column⟩ i j).or (b.cell? i j) := by
  -- on the characters; the row being written to always exists
  induction cs generalizing b row column with
  | nil =>
    rw [writeFrom, Text.charAt?_nil, Option.none_or]
  | cons c cs ih =>
    rw [writeFrom]
    by_cases hc : c = '\n'
    · subst hc
      have hnext : row + 1 < (b.growTo (row + 2)).rowCount := by
        rw [rowCount_growTo]
        omega
      rw [if_pos rfl, nextRow, ih hnext, cell?_growTo, Text.charAt?_break]
    · have hsame : row < (b.put row column c).rowCount := by
        rw [rowCount_put]
        exact h
      rw [if_neg hc, ih hsame, cell?_put h, Text.charAt?_cons hc]
      by_cases hij : i = row ∧ j = column
      · have hleft : Text.charAt? cs ⟨row, column + 1⟩ row column = none :=
          Text.charAt?_of_left (Nat.lt_succ_self column)
        rw [if_pos hij, if_pos hij, hij.1, hij.2, hleft]
        rfl
      · rw [if_neg hij, if_neg hij]

theorem rowCount_writeFrom (h : row < b.rowCount) (cs : List Char) (column : Nat) :
    (writeFrom .overwrite cs row column b).rowCount
      = max b.rowCount (row + cs.count '\n' + 1) := by
  induction cs generalizing b row column with
  | nil =>
    rw [writeFrom, List.count_nil]
    omega
  | cons c cs ih =>
    rw [writeFrom]
    by_cases hc : c = '\n'
    · subst hc
      have hgrown := rowCount_growTo b (row + 2)
      rw [if_pos rfl, nextRow, ih (by omega), hgrown, List.count_cons_self]
      omega
    · have hput := rowCount_put b row column c
      rw [if_neg hc, ih (by omega), hput, List.count_cons_of_ne hc]

/-- A row ends behind all that stood in it and all that was written into it. -/
theorem rowLength_writeFrom_le_iff (h : row < b.rowCount) (cs : List Char) (column i n : Nat) :
    (writeFrom .overwrite cs row column b).rowLength i ≤ n ↔
      b.rowLength i ≤ n ∧ ∀ j c, Text.charAt? cs ⟨row, column⟩ i j = some c → j < n := by
  induction cs generalizing b row column with
  | nil =>
    rw [writeFrom]
    simp only [Text.charAt?_nil]
    simp
  | cons c cs ih =>
    rw [writeFrom]
    by_cases hc : c = '\n'
    · subst hc
      have hgrown := rowCount_growTo b (row + 2)
      rw [if_pos rfl, nextRow, ih (by omega), rowLength_growTo]
      simp only [Text.charAt?_break]
    · have hput := rowCount_put b row column c
      rw [if_neg hc, ih (by omega), rowLength_put h, Text.forall_charAt?_cons hc, ← and_assoc]
      refine and_congr_left fun _ => ?_
      by_cases hi : i = row
      · rw [if_pos hi, Nat.max_le]
        simp only [hi, forall_const, Nat.succ_le_iff]
      · rw [if_neg hi]
        simp only [hi, false_implies, and_true]

theorem row_lt_rowCount_growTo (b : Buffer) (row : Nat) : row < (b.growTo (row + 1)).rowCount := by
  rw [rowCount_growTo]
  omega

/-- A text replaces what it covers, and nothing else changes or moves. -/
theorem cell?_writeAt (b : Buffer) (p : Placement) (i j : Nat) :
    (b.writeAt p.text p.place .overwrite).cell? i j = (p.char? i j).or (b.cell? i j) := by
  rw [writeAt_overwrite, cell?_writeFrom (row_lt_rowCount_growTo b _), cell?_growTo]
  rfl

theorem rowCount_writeAt (b : Buffer) (p : Placement) :
    (b.writeAt p.text p.place .overwrite).rowCount = max b.rowCount p.rowsNeeded := by
  rw [writeAt_overwrite, rowCount_writeFrom (row_lt_rowCount_growTo b _), rowCount_growTo,
    Placement.rowsNeeded]
  omega

theorem rowLength_writeAt_le_iff (b : Buffer) (p : Placement) (i n : Nat) :
    (b.writeAt p.text p.place .overwrite).rowLength i ≤ n ↔
      b.rowLength i ≤ n ∧ ∀ j c, p.char? i j = some c → j < n := by
  rw [writeAt_overwrite, rowLength_writeFrom_le_iff (row_lt_rowCount_growTo b _),
    rowLength_growTo]
  rfl

end Buffer
end LuauLayout
