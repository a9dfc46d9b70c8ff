/-
  LuauLayout.Proofs.Buffer.View

  A text under construction, seen cell by cell.

  Of a buffer one can see how many rows it has, how long each row is, and what
  each cell holds. Whatever is done to a buffer comes down to two steps: rows are
  added at the end, and a character is put into a cell. Neither moves a row.

    * `cell?_growTo`, `rowLength_growTo` — empty rows at the end are not seen.
    * `cell?_put`, `rowLength_put`       — a character changes one cell, and may
      make one row longer.
    * `Buffer.stop`                      — the place behind everything.
    * `lines_eq_of_view`                 — what is seen determines the lines.
    * `eq_of_view`                       — what is seen determines the buffer.
-/

import LuauLayout.Proofs.Buffer.Lines

namespace LuauLayout
namespace Buffer

variable {b : Buffer}

/-! ## Rows at the end -/

theorem getElem?_rows_growTo (b : Buffer) (n row : Nat) :
    (b.growTo n).rows[row]? =
      if row < b.rowCount then b.rows[row]? else if row < n then some #[] else none := by
  rw [growTo, rowCount, Array.getElem?_append]
  by_cases hold : row < b.rows.size
  · rw [if_pos hold, if_pos hold]
  · rw [if_neg hold, if_neg hold, Array.getElem?_replicate]
    by_cases hnew : row < n
    · rw [if_pos hnew, if_pos (by omega)]
    · rw [if_neg hnew, if_neg (by omega)]

/-- Rows that are to be added anyway may be added first. -/
theorem growTo_growTo {m n : Nat} (h : m ≤ n) (b : Buffer) : (b.growTo m).growTo n = b.growTo n := by
  have hcount : m - b.rows.size + (n - (b.rows.size + (m - b.rows.size))) = n - b.rows.size := by
    omega
  rw [growTo, growTo, growTo, Array.size_append, Array.size_replicate, Array.append_assoc,
    Array.replicate_append_replicate, hcount]

theorem rows_eq_none {row : Nat} (h : b.rowCount ≤ row) : b.rows[row]? = none :=
  Array.getElem?_eq_none h

theorem exists_row {row : Nat} (h : row < b.rowCount) : ∃ cells, b.rows[row]? = some cells :=
  ⟨_, Array.getElem?_eq_getElem h⟩

theorem cell?_growTo (b : Buffer) (n row column : Nat) :
    (b.growTo n).cell? row column = b.cell? row column := by
  rw [cell?, cell?, getElem?_rows_growTo]
  by_cases hold : row < b.rowCount
  · rw [if_pos hold]
  · rw [if_neg hold, rows_eq_none (by omega)]
    split <;> rfl

theorem rowLength_growTo (b : Buffer) (n row : Nat) :
    (b.growTo n).rowLength row = b.rowLength row := by
  rw [rowLength, rowLength, getElem?_rows_growTo]
  by_cases hold : row < b.rowCount
  · rw [if_pos hold]
  · rw [if_neg hold, rows_eq_none (by omega)]
    split <;> rfl

/-! ## A character in a cell -/

theorem getElem?_rows_put (b : Buffer) (row column : Nat) (c : Char) (i : Nat) :
    (b.put row column c).rows[i]? =
      if row = i then b.rows[i]?.map fun cells => cells.set column c else b.rows[i]? := by
  rw [put, Array.getElem?_modify]

/-- Putting a character into a row that exists changes one cell. -/
theorem cell?_put {row : Nat} (h : row < b.rowCount) (column : Nat) (c : Char) (i j : Nat) :
    (b.put row column c).cell? i j = if i = row ∧ j = column then some c else b.cell? i j := by
  rw [cell?, getElem?_rows_put]
  by_cases hi : i = row
  · subst hi
    obtain ⟨cells, hrow⟩ := exists_row h
    rw [if_pos rfl, cell?, hrow, Option.map_some, Option.bind_some, Option.bind_some,
      Row.getElem?_set]
    -- the new cell, an old one, or one of the gaps up to the new one
    by_cases hj : j = column
    · rw [if_pos hj, if_pos ⟨rfl, hj⟩]
      rfl
    · have hne : ¬(i = i ∧ j = column) := fun hij => hj hij.2
      rw [if_neg hj, if_neg hne]
      by_cases hold : j < cells.size
      · rw [if_pos hold]
      · rw [if_neg hold, Array.getElem?_eq_none (Nat.le_of_not_lt hold)]
        split <;> rfl
  · rw [if_neg (Ne.symm hi), if_neg (fun h => hi h.1), cell?]

theorem rowLength_put {row : Nat} (h : row < b.rowCount) (column : Nat) (c : Char) (i : Nat) :
    (b.put row column c).rowLength i =
      if i = row then max (b.rowLength i) (column + 1) else b.rowLength i := by
  rw [rowLength, getElem?_rows_put]
  by_cases hi : i = row
  · subst hi
    obtain ⟨cells, hrow⟩ := exists_row h
    rw [if_pos rfl, if_pos rfl, rowLength, hrow]
    exact Row.size_set _ _ _
  · rw [if_neg (Ne.symm hi), if_neg hi, rowLength]

/-! ## The end -/

/-- The place behind everything: the last row, and its length. Without a row it is the first
    place. -/
def stop (b : Buffer) : Coordinate := ⟨b.rowCount - 1, b.rowLength (b.rowCount - 1)⟩

theorem endPlace_eq_stop (b : Buffer) : b.endPlace = b.stop := by
  rw [endPlace, stop, rowLength, Array.back?_eq_getElem?]
  rfl

/-! ## Lines -/

/-- A row holds what its cells hold, as far as it goes. -/
theorem getElem?_row {row : Nat} {cells : Row} (hrow : b.rows[row]? = some cells)
    (column : Nat) :
    cells[column]? = if column < b.rowLength row then some (b.cell? row column) else none := by
  have hlength : b.rowLength row = cells.size := by
    rw [rowLength, hrow]
    rfl
  rw [hlength, cell?, hrow, Option.bind_some]
  by_cases hin : column < cells.size
  · rw [if_pos hin, Array.getElem?_eq_getElem hin]
    rfl
  · rw [if_neg hin, Array.getElem?_eq_none (Nat.le_of_not_lt hin)]

/-- A line shows a character in every cell of its row. -/
theorem getElem?_chars {row : Nat} {cells : Row} (hrow : b.rows[row]? = some cells)
    (column : Nat) : cells.chars[column]? =
      if column < b.rowLength row then some ((b.cell? row column).getD ' ') else none := by
  rw [Row.chars, List.getElem?_map, Array.getElem?_toList, getElem?_row hrow]
  split <;> rfl

theorem rowLength_of_line {row : Nat} {l : Line} (h : b.lines[row]? = some l) :
    b.rowLength row = l.length := by
  rw [lines, List.getElem?_map, Array.getElem?_toList] at h
  obtain ⟨cells, hrow, rfl⟩ := Option.map_eq_some_iff.mp h
  rw [rowLength, hrow, Row.length_chars]
  rfl

theorem rowLength_of_rowCount_le {row : Nat} (h : b.rowCount ≤ row) : b.rowLength row = 0 := by
  rw [rowLength, rows_eq_none h]
  rfl

/-- The line of the last row, with its length, and the lines above it. -/
theorem exists_last_line {row : Nat} (h : b.rowCount = row + 1) : ∃ above l,
    b.lines = above ++ [l] ∧ above.length = row ∧ b.rowLength row = l.length := by
  have hlength : b.lines.length = row + 1 := (length_lines b).trans h
  have hne : b.lines ≠ [] := List.ne_nil_of_length_eq_add_one hlength
  refine ⟨b.lines.dropLast, b.lines.getLast hne, (List.dropLast_concat_getLast hne).symm, ?_, ?_⟩
  · rw [List.length_dropLast, hlength]
    rfl
  · apply rowLength_of_line
    rw [← List.getLast?_eq_some_getLast hne, List.getLast?_eq_getElem?, hlength]
    rfl

/-- What is seen of a buffer determines its lines. -/
theorem lines_eq_of_view {ls : List Line} (hcount : b.rowCount = ls.length)
    (hlength : ∀ row l, ls[row]? = some l → b.rowLength row = l.length)
    (hcell : ∀ row l column c, ls[row]? = some l → l[column]? = some c →
      (b.cell? row column).getD ' ' = c) : b.lines = ls := by
  apply List.ext_getElem?
  intro row
  rw [lines, List.getElem?_map, Array.getElem?_toList]
  by_cases hin : row < ls.length
  · obtain ⟨cells, hrow⟩ := exists_row (hcount ▸ hin)
    have hline : ls[row]? = some ls[row] := List.getElem?_eq_getElem hin
    rw [hrow, hline, Option.map_some]
    -- the line of an existing row, column by column
    refine congrArg some (List.ext_getElem? fun column => ?_)
    rw [getElem?_chars hrow, hlength row _ hline]
    by_cases hcolumn : column < ls[row].length
    · have hc := List.getElem?_eq_getElem hcolumn
      rw [if_pos hcolumn, hc, hcell row _ column _ hline hc]
    · rw [if_neg hcolumn, List.getElem?_eq_none (Nat.le_of_not_lt hcolumn)]
  · rw [rows_eq_none (by omega), List.getElem?_eq_none (Nat.le_of_not_lt hin)]
    rfl

/-- Nothing of a buffer is hidden: two of which the same is seen are equal. -/
theorem eq_of_view {b b' : Buffer} (hcount : b.rowCount = b'.rowCount)
    (hlength : ∀ row, b.rowLength row = b'.rowLength row)
    (hcell : ∀ row column, b.cell? row column = b'.cell? row column) : b = b' := by
  have hrows : b.rows = b'.rows := by
    apply Array.ext_getElem?
    intro row
    by_cases hin : row < b.rowCount
    · obtain ⟨cells, hrow⟩ := exists_row hin
      obtain ⟨cells', hrow'⟩ := exists_row (hcount ▸ hin)
      have hcells : cells = cells' := by
        apply Array.ext_getElem?
        intro column
        rw [getElem?_row hrow, getElem?_row hrow', hlength, hcell]
      rw [hrow, hrow', hcells]
    · rw [rows_eq_none (Nat.le_of_not_lt hin), rows_eq_none (by omega)]
  exact congrArg Buffer.mk hrows

end Buffer
end LuauLayout
