/-
  LuauLayout.Proofs.Buffer.Checked

  Writing with every index and every sum checked.

  The operations of a buffer are total: a character for a row that does not
  exist goes nowhere, a row inserted behind a gap of rows is dropped, and a
  number grows as far as it has to. A machine does none of this. Below the
  operations are written once more in the steps of a machine whose words have
  `word` values: an index has to name something, a row is inserted between rows
  that are there, and a sum has to fit into a word. Where one of these fails
  there is no result.

  What a text needs of its place is little: that its last row, and the column
  behind its characters, can be counted. Then all checks hold, in either mode
  and whatever stood there before.

    * `sum?`, `Row.set?`, `Buffer.put?`, ... — the steps with their checks.
    * `writeFrom?_eq_some` — the run over the characters of a text.
    * `writeAt?_eq_some`, `append?_eq_some` — the checks hold.
-/

import LuauLayout.Proofs.Buffer.Placement
import LuauLayout.Render.Action

namespace LuauLayout

/-! ## Steps with checks -/

/-- The sum of two numbers, if it is one of the `word` values of a machine word. -/
def sum? (word m n : Nat) : Option Nat := if m + n < word then some (m + n) else none

theorem sum?_eq_some {word m n : Nat} (h : m + n < word) : sum? word m n = some (m + n) := if_pos h

/-- Extends a row that is too short, and puts a character into a cell that has to be there. -/
def Row.set? (word : Nat) (cells : Row) (column : Nat) (c : Char) : Option Row := do
  let grown ←
    if cells.size ≤ column then do
      let size ← sum? word column 1
      pure (cells ++ Array.replicate (size - cells.size) none)
    else pure cells
  if column < grown.size then some (grown.setIfInBounds column (some c)) else none

namespace Buffer

variable (word : Nat)

/-- Puts a character into a row that has to be there. -/
def put? (b : Buffer) (row column : Nat) (c : Char) : Option Buffer := do
  let cells ← b.rows[row]?
  let cells ← cells.set? word column c
  return ⟨b.rows.setIfInBounds row cells⟩

/-- Puts a row before one that is there, or behind the last one. -/
def insertRow? (b : Buffer) (i : Nat) : Option Buffer :=
  if i ≤ b.rowCount then some (b.insertRow i) else none

/-- Makes rows up to and including one. -/
def growPast? (b : Buffer) (row : Nat) : Option Buffer := do
  let count ← sum? word row 1
  return b.growTo count

/-- Opens a row for the line behind a line break. -/
def openRow? (b : Buffer) (mode : WriteMode) (row : Nat) : Option Buffer :=
  match mode with
  | .overwrite => b.growPast? word row
  | .insert => b.insertRow? row

/-- Writes characters from a place in a row on. -/
def writeFrom? (mode : WriteMode) : List Char → Nat → Nat → Buffer → Option Buffer
  | [], _, _, b => some b
  | c :: cs, row, column, b =>
    if c = '\n' then do
      let row ← sum? word row 1
      let b ← b.openRow? word mode row
      writeFrom? mode cs row 0 b
    else do
      let b ← b.put? word row column c
      let column ← sum? word column 1
      writeFrom? mode cs row column b

/-- Makes the row in which a text begins. -/
def firstRow? (b : Buffer) (mode : WriteMode) (cs : List Char) (row : Nat) : Option Buffer :=
  if mode = .insert ∧ '\n' ∈ cs then (b.growTo row).insertRow? row else b.growPast? word row

/-- Writes a text from a coordinate on. -/
def writeAt? (b : Buffer) (text : String) (place : Coordinate) (mode : WriteMode) :
    Option Buffer := do
  let b ← b.firstRow? word mode text.toList place.row
  b.writeFrom? word mode text.toList place.row place.column

/-- Writes a text behind the last cell of the last row, which is made if there is none. -/
def append? (b : Buffer) (text : String) : Option Buffer := do
  let b := if b.rows.isEmpty then b.growTo 1 else b
  let last ← if 1 ≤ b.rowCount then some (b.rowCount - 1) else none
  let cells ← b.rows[last]?
  b.writeAt? word text ⟨last, cells.size⟩ .overwrite

/-- The effect of an action. -/
def perform? (b : Buffer) : Action → Option Buffer
  | .write text place mode => b.writeAt? word text place mode
  | .append text => b.append? word text
  | .report _ => some b

/-- The effect of actions, in order. -/
def performAll? (b : Buffer) : List Action → Option Buffer
  | [] => some b
  | a :: actions => do
    let b ← b.perform? word a
    b.performAll? actions

end Buffer

/-! ## The checks hold -/

variable {word : Nat}

/-- A cell is in its row once the row has been extended up to it. -/
theorem Row.set?_eq_some {column : Nat} (h : column + 1 < word) (cells : Row) (c : Char) :
    cells.set? word column c = some (cells.set column c) := by
  rw [set?, set]
  by_cases hshort : cells.size ≤ column
  · have hin : column < (cells ++ Array.replicate (column + 1 - cells.size) none).size := by
      rw [Array.size_append, Array.size_replicate]
      omega
    rw [if_pos hshort, sum?_eq_some h]
    exact if_pos hin
  · have hnone : column + 1 - cells.size = 0 := by omega
    have hin : column < cells.size := by omega
    rw [if_neg hshort, hnone, Array.replicate_zero, Array.append_empty]
    exact if_pos hin

namespace Buffer

variable {b : Buffer} {row column : Nat}

theorem put?_eq_some (hrow : row < b.rowCount) (hcolumn : column + 1 < word) (c : Char) :
    b.put? word row column c = some (b.put row column c) := by
  obtain ⟨cells, hcells⟩ := exists_row hrow
  have hrows : b.rows.setIfInBounds row (cells.set column c)
      = b.rows.modify row fun cells => cells.set column c := by
    apply Array.ext_getElem?
    intro i
    rw [Array.getElem?_setIfInBounds, Array.getElem?_modify]
    by_cases hi : row = i
    · subst hi
      rw [if_pos rfl, if_pos (show row < b.rows.size from hrow), if_pos rfl, hcells]
      rfl
    · rw [if_neg hi, if_neg hi]
  rw [put?, hcells, put, ← hrows]
  simp only [Option.bind_eq_bind, Option.bind_some, Row.set?_eq_some hcolumn]
  rfl

theorem insertRow?_eq_some {i : Nat} (h : i ≤ b.rowCount) :
    b.insertRow? i = some (b.insertRow i) := if_pos h

theorem growPast?_eq_some (h : row + 1 < word) (b : Buffer) :
    b.growPast? word row = some (b.growTo (row + 1)) := by
  rw [growPast?, sum?_eq_some h]
  rfl

/-- The row behind an existing one is opened, and then it exists. -/
theorem openRow?_eq_some (hrow : row < b.rowCount) (h : row + 2 < word) (mode : WriteMode) :
    b.openRow? word mode (row + 1) = some (b.nextRow mode row) ∧
      row + 1 < (b.nextRow mode row).rowCount := by
  cases mode with
  | overwrite =>
    refine ⟨growPast?_eq_some h b, ?_⟩
    rw [nextRow, rowCount_growTo]
    omega
  | insert =>
    refine ⟨insertRow?_eq_some hrow, ?_⟩
    rw [nextRow, rowCount_insertRow hrow]
    omega

/-- On the characters; the row being written to always exists. There are as many rows to come as
    line breaks, and never more columns than characters. -/
theorem writeFrom?_eq_some {cs : List Char} (hrow : row < b.rowCount)
    (hrows : row + cs.count '\n' + 1 < word) (hcolumns : column + cs.length < word)
    (mode : WriteMode) :
    writeFrom? word mode cs row column b = some (writeFrom mode cs row column b) := by
  induction cs generalizing b row column with
  | nil => rfl
  | cons c cs ih =>
    rw [writeFrom?, writeFrom]
    rw [List.length_cons] at hcolumns
    by_cases hc : c = '\n'
    · subst hc
      rw [List.count_cons_self] at hrows
      -- the break counts among the rows to come, which leaves room for the row it opens
      have htwo : row + 2 < word := by omega
      obtain ⟨hopen, hnext⟩ := openRow?_eq_some hrow htwo mode
      have hrest : writeFrom? word mode cs (row + 1) 0 (b.nextRow mode row)
          = some (writeFrom mode cs (row + 1) 0 (b.nextRow mode row)) :=
        ih hnext (by omega) (by omega)
      rw [if_pos rfl, if_pos rfl, sum?_eq_some (by omega)]
      simp only [Option.bind_eq_bind, Option.bind_some, hopen]
      exact hrest
    · rw [List.count_cons_of_ne hc] at hrows
      have hsame : row < (b.put row column c).rowCount := by
        rw [rowCount_put]
        exact hrow
      have hrest : writeFrom? word mode cs row (column + 1) (b.put row column c)
          = some (writeFrom mode cs row (column + 1) (b.put row column c)) :=
        ih hsame (by omega) (by omega)
      rw [if_neg hc, if_neg hc, put?_eq_some hrow (by omega)]
      simp only [Option.bind_eq_bind, Option.bind_some, sum?_eq_some (show column + 1 < word by omega)]
      exact hrest

theorem firstRow?_eq_some (h : row + 1 < word) (b : Buffer) (mode : WriteMode) (cs : List Char) :
    b.firstRow? word mode cs row = some (b.firstRow mode cs row) ∧
      row < (b.firstRow mode cs row).rowCount := by
  rw [firstRow?, firstRow]
  have hgrown := rowCount_growTo b row
  by_cases hspliced : mode = .insert ∧ '\n' ∈ cs
  · have hle : row ≤ (b.growTo row).rowCount := by omega
    rw [if_pos hspliced, if_pos hspliced]
    refine ⟨insertRow?_eq_some hle, ?_⟩
    rw [rowCount_insertRow hle]
    omega
  · rw [if_neg hspliced, if_neg hspliced]
    exact ⟨growPast?_eq_some h b, row_lt_rowCount_growTo b row⟩

/-- Wherever a text is written, and in either mode, all checks hold if its rows and the columns
    behind its characters can be counted. -/
theorem writeAt?_eq_some {text : String} {place : Coordinate}
    (hrows : place.row + text.toList.count '\n' + 1 < word)
    (hcolumns : place.column + text.toList.length < word) (b : Buffer) (mode : WriteMode) :
    b.writeAt? word text place mode = some (b.writeAt text place mode) := by
  have hone : place.row + 1 < word := by omega
  obtain ⟨hfirst, hrow⟩ := firstRow?_eq_some hone b mode text.toList
  rw [writeAt?, hfirst]
  exact writeFrom?_eq_some hrow hrows hcolumns mode

/-- The row that an append makes if there is none. -/
theorem ite_isEmpty_eq_growTo (b : Buffer) :
    (if b.rows.isEmpty then b.growTo 1 else b) = b.growTo 1 := by
  by_cases hempty : b.rows.isEmpty
  · rw [if_pos hempty]
  · have hsize : b.rows.size ≠ 0 := fun h0 => hempty (Array.isEmpty_iff_size_eq_zero.mpr h0)
    have hnone : 1 - b.rows.size = 0 := by omega
    rw [if_neg hempty, growTo, hnone, Array.replicate_zero, Array.append_empty]

/-- The last row exists, or is made first. -/
theorem append?_eq_some {text : String} (hrows : b.stop.row + text.toList.count '\n' + 1 < word)
    (hcolumns : b.stop.column + text.toList.length < word) :
    b.append? word text = some (b.append text) := by
  have hstop : b.stop.row = b.rowCount - 1 := rfl
  have hcount : (b.growTo 1).rowCount - 1 = b.stop.row := by
    rw [rowCount_growTo]
    omega
  have hpos : 1 ≤ (b.growTo 1).rowCount := by
    rw [rowCount_growTo]
    omega
  -- a buffer without rows gets one first; its end is at the top left before and after
  have hlast : b.stop.row < (b.growTo 1).rowCount := by omega
  obtain ⟨cells, hcells⟩ := exists_row hlast
  have hlength : cells.size = b.stop.column := by
    have hsize : (b.growTo 1).rowLength b.stop.row = cells.size := by
      rw [rowLength, hcells]
      rfl
    rw [← hsize, rowLength_growTo]
    rfl
  have hsame : (b.growTo 1).writeAt text b.stop .overwrite = b.writeAt text b.stop .overwrite := by
    rw [writeAt_overwrite, writeAt_overwrite, growTo_growTo (Nat.le_add_left 1 b.stop.row)]
  have hwrite := writeAt?_eq_some hrows hcolumns (b.growTo 1) .overwrite
  rw [hsame] at hwrite
  rw [append?, ite_isEmpty_eq_growTo, append, endPlace_eq_stop]
  simp only [if_pos hpos, hcount, Option.bind_eq_bind, Option.bind_some, hcells, hlength]
  exact hwrite

end Buffer
end LuauLayout
