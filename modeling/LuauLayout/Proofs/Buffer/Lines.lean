/-
  LuauLayout.Proofs.Buffer.Lines

  Writing a text from left to right and from top to bottom.

  Out of order a write may go anywhere. In order it does one thing: it makes the
  last line longer, by blanks up to its place and then by its own characters. An
  append does the same without blanks, as long as the last line is not empty: a
  line that is still to be made has no end yet.

    * `Buffer.lines`  — the rows as they are shown.
    * `Buffer.Shows`  — the rows are given lines, except that empty lines at the
      end may still be missing.
    * `Shows.write`, `Shows.append` — what is written in order ends up in order.
    * `Shows.render`  — the text that comes out.
-/

import LuauLayout.Buffer

namespace LuauLayout

/-- A text that stands on one line. -/
structure OneLine (text : String) : Prop where
  ne_empty : text ≠ ""
  unbroken : '\n' ∉ text.toList

instance (text : String) : Decidable (OneLine text) :=
  decidable_of_iff (text ≠ "" ∧ '\n' ∉ text.toList)
    ⟨fun h => ⟨h.1, h.2⟩, fun h => ⟨h.ne_empty, h.unbroken⟩⟩

theorem OneLine.toList_ne_nil {text : String} (h : OneLine text) : text.toList ≠ [] :=
  fun hnil => h.ne_empty (String.toList_eq_nil_iff.mp hnil)

/-- The characters of a row, from the left. -/
abbrev Line := List Char

namespace Line

/-- The line with a text behind it, some blanks away. -/
def put (line : Line) (gap : Nat) (text : String) : Line :=
  line ++ List.replicate gap ' ' ++ text.toList

theorem put_ne_nil (line : Line) (gap : Nat) {text : String} (h : OneLine text) :
    line.put gap text ≠ [] :=
  List.append_ne_nil_of_right_ne_nil _ h.toList_ne_nil

end Line

/-! ## One row -/

namespace Row

theorem length_chars (cells : Row) : cells.chars.length = cells.size := by
  rw [chars, List.length_map, Array.length_toList]

/-- A cell set behind the last one: blanks up to it, and its character. -/
theorem chars_set {cells : Row} {column : Nat} (h : cells.size ≤ column) (c : Char) :
    (cells.set column c).chars
      = cells.chars ++ List.replicate (column - cells.size) ' ' ++ [c] := by
  apply List.ext_getElem?
  intro j
  have hset := getElem?_set cells column c j
  rw [chars, List.getElem?_map, Array.getElem?_toList, hset]
  -- left of the old end, in the blanks, at the new cell, or behind it
  by_cases hold : j < cells.size
  · rw [if_neg (by omega), if_pos hold, List.append_assoc,
      List.getElem?_append_left (by rw [length_chars]; exact hold), chars, List.getElem?_map,
      Array.getElem?_toList]
  · rw [if_neg hold, List.append_assoc,
      List.getElem?_append_right (by rw [length_chars]; omega), length_chars]
    by_cases hblank : j < column
    · rw [if_neg (by omega), if_pos hblank,
        List.getElem?_append_left (by rw [List.length_replicate]; omega),
        List.getElem?_replicate, if_pos (by omega)]
      rfl
    · rw [if_neg hblank, List.getElem?_append_right (by rw [List.length_replicate]; omega),
        List.length_replicate]
      by_cases hnew : j = column
      · rw [if_pos hnew, hnew, Nat.sub_self]
        rfl
      · rw [if_neg hnew, List.getElem?_eq_none (by rw [List.length_singleton]; omega)]
        rfl

end Row

/-! ## All rows -/

namespace Buffer

variable {b : Buffer} {above : List Line} {line : Line}

/-- The rows as they are shown. -/
def lines (b : Buffer) : List Line := b.rows.toList.map Row.chars

theorem length_lines (b : Buffer) : b.lines.length = b.rows.size := by
  rw [lines, List.length_map, Array.length_toList]

theorem render_eq_lines (b : Buffer) :
    b.render = "\n".intercalate (b.lines.map String.ofList) := by
  rw [render, lines, List.map_map]
  rfl

theorem toList_render (b : Buffer) : b.render.toList = ['\n'].intercalate b.lines := by
  have hid : String.toList ∘ String.ofList = id := funext fun _ => String.toList_ofList
  rw [render_eq_lines, String.toList_intercalate, List.map_map, hid, List.map_id]
  rfl

theorem lines_growTo (b : Buffer) (n : Nat) :
    (b.growTo n).lines = b.lines ++ List.replicate (n - b.lines.length) [] := by
  rw [length_lines, lines, growTo, Array.toList_append, List.map_append, Array.toList_replicate,
    List.map_replicate]
  rfl

/-- The last row, and the rows above it. -/
theorem rows_of_lines (h : b.lines = above ++ [line]) : ∃ (upper : List Row) (cells : Row),
    b.rows.toList = upper ++ [cells] ∧ upper.map Row.chars = above ∧ cells.chars = line := by
  obtain ⟨upper, last, hrows, habove, hlast⟩ := List.map_eq_append_iff.mp h
  obtain ⟨cells, rfl, hcells⟩ := List.map_eq_singleton_iff.mp hlast
  exact ⟨upper, cells, hrows, habove, hcells⟩

/-- A character put into a row changes that row alone. -/
theorem toList_rows_put {upper lower : List Row} {cells : Row}
    (h : b.rows.toList = upper ++ cells :: lower) (column : Nat) (c : Char) :
    (b.put upper.length column c).rows.toList = upper ++ cells.set column c :: lower := by
  have hmodify := List.modifyTailIdx_add (List.modifyHead fun cells : Row => cells.set column c) 0
    upper (cells :: lower)
  rw [Nat.add_zero] at hmodify
  rw [put, Array.toList_modify, h]
  exact hmodify

/-- A character put behind the last line. -/
theorem lines_put (h : b.lines = above ++ [line]) (gap : Nat) (c : Char) :
    (b.put above.length (line.length + gap) c).lines
      = above ++ [line ++ List.replicate gap ' ' ++ [c]] := by
  obtain ⟨upper, cells, hrows, rfl, rfl⟩ := rows_of_lines h
  have hsize : cells.size ≤ cells.chars.length + gap := by
    rw [Row.length_chars]
    omega
  have hgap : cells.chars.length + gap - cells.size = gap := by
    rw [Row.length_chars]
    omega
  rw [lines, List.length_map, toList_rows_put hrows, List.map_append, List.map_singleton,
    Row.chars_set hsize, hgap]

/-- Characters written from the end of the last line on. -/
theorem lines_writeFrom (mode : WriteMode) {cs : List Char} (hcs : '\n' ∉ cs)
    (h : b.lines = above ++ [line]) :
    (writeFrom mode cs above.length line.length b).lines = above ++ [line ++ cs] := by
  -- on the characters; the column to write at stays the length of the line
  induction cs generalizing b line with
  | nil =>
    rw [writeFrom, h, List.append_nil]
  | cons c cs ih =>
    have hc : c ≠ '\n' := (List.ne_of_not_mem_cons hcs).symm
    have hput := lines_put h 0 c
    rw [List.replicate_zero, List.append_nil, Nat.add_zero] at hput
    have hrest := ih (List.not_mem_of_not_mem_cons hcs) hput
    rw [List.length_append, List.length_singleton] at hrest
    rw [writeFrom, if_neg hc, hrest, List.append_assoc]
    rfl

/-- Characters written some blanks behind the end of the last line. Without a character there
    would be no blanks either. -/
theorem lines_writeFrom_gap (mode : WriteMode) {cs : List Char} (hne : cs ≠ []) (hcs : '\n' ∉ cs)
    (h : b.lines = above ++ [line]) (gap : Nat) :
    (writeFrom mode cs above.length (line.length + gap) b).lines
      = above ++ [line ++ List.replicate gap ' ' ++ cs] := by
  cases cs with
  | nil => exact absurd rfl hne
  | cons c cs =>
    -- the first character brings the blanks, the others follow without
    have hc : c ≠ '\n' := (List.ne_of_not_mem_cons hcs).symm
    have hrest := lines_writeFrom mode (List.not_mem_of_not_mem_cons hcs) (lines_put h gap c)
    have hlength : (line ++ List.replicate gap ' ' ++ [c]).length = line.length + gap + 1 := by
      simp only [List.length_append, List.length_replicate, List.length_singleton]
    rw [hlength] at hrest
    rw [writeFrom, if_neg hc, hrest, List.append_assoc _ [c]]
    rfl

/-- Writing in place makes the rows down to its first one, and goes on from there. -/
theorem writeAt_overwrite (b : Buffer) (text : String) (place : Coordinate) :
    b.writeAt text place .overwrite
      = writeFrom .overwrite text.toList place.row place.column (b.growTo (place.row + 1)) := by
  rw [writeAt, firstRow, if_neg]
  rintro ⟨hmode, -⟩
  cases hmode

theorem lines_writeAt (h : (b.growTo (above.length + 1)).lines = above ++ [line]) {text : String}
    (ht : OneLine text) (gap : Nat) :
    (b.writeAt text ⟨above.length, line.length + gap⟩ .overwrite).lines
      = above ++ [line.put gap text] := by
  rw [writeAt_overwrite, lines_writeFrom_gap .overwrite ht.toList_ne_nil ht.unbroken h gap]
  rfl

theorem endPlace_of_lines (h : b.lines = above ++ [line]) :
    b.endPlace = ⟨above.length, line.length⟩ := by
  obtain ⟨upper, cells, hrows, rfl, rfl⟩ := rows_of_lines h
  have hsize : b.rows.size = upper.length + 1 := by
    rw [← Array.length_toList, hrows, List.length_append, List.length_singleton]
  have hback : b.rows.back? = some cells := by
    rw [← Array.getLast?_toList, hrows, List.getLast?_concat]
  rw [endPlace, hsize, hback, List.length_map, Row.length_chars]
  rfl

/-! ## Writing in order -/

/-- The rows are these lines; empty lines at the end may still be missing. -/
def Shows (b : Buffer) (ls : List Line) : Prop := ∃ k, ls = b.lines ++ List.replicate k []

namespace Shows

variable {ls : List Line}

theorem empty : Buffer.empty.Shows [] := ⟨0, rfl⟩

theorem of_lines (h : b.lines = ls) : b.Shows ls := ⟨0, by rw [h, List.replicate_zero, List.append_nil]⟩

/-- Rows below the last one need not be there. -/
theorem below (h : b.Shows ls) (k : Nat) : b.Shows (ls ++ List.replicate k []) := by
  obtain ⟨j, rfl⟩ := h
  exact ⟨j + k, by rw [List.append_assoc, List.replicate_append_replicate]⟩

/-- Nothing is missing if the last line has a character. -/
theorem lines_eq (h : b.Shows ls) (hlast : ls.getLast? ≠ some []) : b.lines = ls := by
  obtain ⟨k, rfl⟩ := h
  cases k with
  | zero => rw [List.replicate_zero, List.append_nil]
  | succ k =>
    rw [List.replicate_succ', ← List.append_assoc, List.getLast?_concat] at hlast
    exact absurd rfl hlast

theorem lines_growTo (h : b.Shows ls) : (b.growTo ls.length).lines = ls := by
  obtain ⟨k, rfl⟩ := h
  have hk : (b.lines ++ List.replicate k []).length - b.lines.length = k := by
    rw [List.length_append, List.length_replicate]
    omega
  rw [Buffer.lines_growTo, hk]

/-- A text written behind the last line, some blanks away. -/
theorem write (h : b.Shows (above ++ [line])) {text : String} (ht : OneLine text) (gap : Nat) :
    (b.writeAt text ⟨above.length, line.length + gap⟩ .overwrite).Shows
      (above ++ [line.put gap text]) := by
  have hgrown := h.lines_growTo
  rw [List.length_append, List.length_singleton] at hgrown
  exact of_lines (lines_writeAt hgrown ht gap)

/-- A text appended to a last line that has a character. -/
theorem append (h : b.Shows (above ++ [line])) (hline : line ≠ []) {text : String}
    (ht : OneLine text) : (b.append text).Shows (above ++ [line.put 0 text]) := by
  have hlast : (above ++ [line]).getLast? ≠ some [] := by
    rw [List.getLast?_concat]
    exact fun heq => hline (Option.some.inj heq)
  have hplace := endPlace_of_lines (h.lines_eq hlast)
  have hwrite := h.write ht 0
  rw [Nat.add_zero] at hwrite
  rw [Buffer.append, hplace]
  exact hwrite

theorem render (h : b.Shows ls) (hlast : ls.getLast? ≠ some []) :
    b.render = "\n".intercalate (ls.map String.ofList) := by
  rw [render_eq_lines, h.lines_eq hlast]

end Shows

end Buffer
end LuauLayout
