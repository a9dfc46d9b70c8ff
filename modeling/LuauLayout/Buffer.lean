/-
  LuauLayout.Buffer

  A text that is written at coordinates, in any order.

  The buffer holds rows of cells. A cell that was never written is a gap and is
  shown as a space; a later write to a cell replaces what it held.

    * `writeAt`  — writes a text from a coordinate on. A line break goes to the
      first column of the next row, which in the mode `insert` is a fresh row
      between the old ones.
    * `append`   — writes behind the last cell of the last row.
    * `cell? r c`, `rowLength r`, `rowCount` — the view in which the operations
      are described below.
    * `render`   — the rows, joined by line breaks.
-/

import LuauLayout.Span

namespace LuauLayout

/-- What a line break inside a written text does. -/
inductive WriteMode where
  /-- It moves to the next row; existing rows stay where they are. -/
  | overwrite
  /-- Every line of the text gets a fresh row, and the rows from the first one on move down.
      A text without a line break is written in place. -/
  | insert
  deriving DecidableEq, Repr, Inhabited

/-- A row of cells; `none` is a gap. -/
abbrev Row := Array (Option Char)

namespace Row

/-- The row with a character in one cell, extended by gaps if it is too short. -/
def set (cells : Row) (column : Nat) (c : Char) : Row :=
  (cells ++ Array.replicate (column + 1 - cells.size) none).setIfInBounds column (some c)

/-- The characters of a row; a gap is a space. -/
def chars (cells : Row) : List Char := cells.toList.map (·.getD ' ')

/-- The row as a text. -/
def text (cells : Row) : String := String.ofList cells.chars

end Row

/-- A text under construction. -/
structure Buffer where
  rows : Array Row
  deriving DecidableEq, Inhabited

namespace Buffer

/-- A buffer without rows. -/
def empty : Buffer := ⟨#[]⟩

def rowCount (b : Buffer) : Nat := b.rows.size

def isEmpty (b : Buffer) : Bool := b.rows.isEmpty

/-- The text of one row, if there is such a row. -/
def row? (b : Buffer) (i : Nat) : Option String := b.rows[i]?.map Row.text

/-- All rows, joined by line breaks. -/
def render (b : Buffer) : String := "\n".intercalate (b.rows.toList.map Row.text)

/-! ## Writing -/

/-- Adds empty rows at the end until there are `n`. -/
def growTo (b : Buffer) (n : Nat) : Buffer :=
  ⟨b.rows ++ Array.replicate (n - b.rows.size) #[]⟩

/-- Puts an empty row before row `i`. -/
def insertRow (b : Buffer) (i : Nat) : Buffer := ⟨b.rows.insertIdxIfInBounds i #[]⟩

/-- Writes one character into an existing row. -/
def put (b : Buffer) (row column : Nat) (c : Char) : Buffer :=
  ⟨b.rows.modify row fun cells => cells.set column c⟩

/-- Opens the row behind `row`, as the mode says. -/
def nextRow (b : Buffer) (mode : WriteMode) (row : Nat) : Buffer :=
  match mode with
  | .overwrite => b.growTo (row + 2)
  | .insert => b.insertRow (row + 1)

/-- Writes characters from a place in an existing row on. -/
def writeFrom (mode : WriteMode) : List Char → Nat → Nat → Buffer → Buffer
  | [], _, _, b => b
  | c :: cs, row, column, b =>
    if c = '\n' then writeFrom mode cs (row + 1) 0 (b.nextRow mode row)
    else writeFrom mode cs row (column + 1) (b.put row column c)

/-- Makes the row in which a text begins: a fresh one for an insertion of more than one line,
    otherwise the one that is there. -/
def firstRow (b : Buffer) (mode : WriteMode) (cs : List Char) (row : Nat) : Buffer :=
  if mode = .insert ∧ '\n' ∈ cs then (b.growTo row).insertRow row else b.growTo (row + 1)

/-- Writes a text from a coordinate on. -/
def writeAt (b : Buffer) (text : String) (place : Coordinate) (mode : WriteMode) : Buffer :=
  (b.firstRow mode text.toList place.row).writeFrom mode text.toList place.row place.column

/-- The place behind the last cell of the last row; the first place if there is no row. -/
def endPlace (b : Buffer) : Coordinate := ⟨b.rows.size - 1, (b.rows.back?.map Array.size).getD 0⟩

/-- Writes a text behind the last cell of the last row. -/
def append (b : Buffer) (text : String) : Buffer := b.writeAt text b.endPlace .overwrite

/-! ## The view -/

/-- How many cells a row has; a row that does not exist has none. -/
def rowLength (b : Buffer) (row : Nat) : Nat := (b.rows[row]?.map Array.size).getD 0

/-- The character of a cell, unless it is a gap or does not exist. -/
def cell? (b : Buffer) (row column : Nat) : Option Char :=
  (b.rows[row]?.bind fun cells => cells[column]?).join

theorem rowCount_empty : empty.rowCount = 0 := rfl

theorem rowCount_growTo (b : Buffer) (n : Nat) : (b.growTo n).rowCount = max b.rowCount n := by
  simp only [rowCount, growTo, Array.size_append, Array.size_replicate]
  omega

theorem rowCount_put (b : Buffer) (row column : Nat) (c : Char) :
    (b.put row column c).rowCount = b.rowCount := by
  simp [rowCount, put]

theorem rowCount_insertRow {b : Buffer} {i : Nat} (h : i ≤ b.rowCount) :
    (b.insertRow i).rowCount = b.rowCount + 1 := by
  simp only [rowCount] at h
  simp [rowCount, insertRow, Array.insertIdxIfInBounds, h]

end Buffer

namespace Row

theorem size_set (cells : Row) (column : Nat) (c : Char) :
    (cells.set column c).size = max cells.size (column + 1) := by
  simp only [set, Array.size_setIfInBounds, Array.size_append, Array.size_replicate]
  omega

/-- Setting a cell makes gaps up to it and changes no other cell. -/
theorem getElem?_set (cells : Row) (column : Nat) (c : Char) (j : Nat) :
    (cells.set column c)[j]? =
      if j = column then some (some c)
      else if j < cells.size then cells[j]?
      else if j < column then some none
      else none := by
  simp only [set, Array.getElem?_setIfInBounds, Array.size_append, Array.size_replicate,
    Array.getElem?_append, Array.getElem?_replicate]
  by_cases h : j = column
  · subst h
    rw [if_pos rfl, if_pos rfl, if_pos (by omega)]
  · rw [if_neg (Ne.symm h), if_neg h]
    by_cases h1 : j < cells.size
    · rw [if_pos h1, if_pos h1]
    · rw [if_neg h1, if_neg h1]
      by_cases h2 : j < column
      · rw [if_pos h2, if_pos (by omega)]
      · rw [if_neg h2, if_neg (by omega)]

end Row
end LuauLayout
