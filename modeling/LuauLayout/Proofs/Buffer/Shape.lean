/-
  LuauLayout.Proofs.Buffer.Shape

  What every text under construction looks like.

  A line break that is written opens a row and stands in no cell, and gaps are
  made only in front of a character. So whatever is written, in either mode and
  in any order, no cell holds a line break and no row ends in a gap. The first
  makes the rows the lines of the text that is shown; the second makes a row end
  with the last character that was written into it.

    * `Row.WellFormed`, `Buffer.WellFormed` — the invariant.
    * `WellFormed.growTo`, `WellFormed.insertRow`, `WellFormed.put` — the steps
      that make up every write; `WellFormed.writeFrom` is the run.
    * `Buffer.Reachable`   — all that can come of a text without rows.
    * `rows_of_reachable`  — what the invariant says of the rows that are shown.
-/

import LuauLayout.Proofs.Buffer.View
import LuauLayout.Render.Action
import LuauLayout.Text.Lines

namespace LuauLayout

/-! ## Rows -/

/-- No cell holds a line break, and the last one is no gap. -/
structure Row.WellFormed (cells : Row) : Prop where
  unbroken : some '\n' ∉ cells
  ended : cells.back? ≠ some none

namespace Row.WellFormed

variable {cells : Row}

theorem empty : WellFormed #[] where
  unbroken := Array.not_mem_empty _
  ended := by simp

/-- The new character is the last one, or the old last one still is. -/
theorem set (h : cells.WellFormed) {c : Char} (hc : c ≠ '\n') (column : Nat) :
    (cells.set column c).WellFormed where
  unbroken := by
    intro hmem
    obtain ⟨j, hj⟩ := Array.mem_iff_getElem?.mp hmem
    rw [getElem?_set] at hj
    split at hj
    · simp only [Option.some.injEq] at hj
      exact hc hj
    · split at hj
      · exact h.unbroken (Array.mem_of_getElem? hj)
      · split at hj
        · cases hj
        · cases hj
  ended := by
    rw [Array.back?_eq_getElem?, size_set, getElem?_set]
    by_cases hin : column + 1 < cells.size
    · have hlast : max cells.size (column + 1) - 1 = cells.size - 1 := by omega
      rw [hlast, if_neg (by omega), if_pos (by omega), ← Array.back?_eq_getElem?]
      exact h.ended
    · have hlast : max cells.size (column + 1) - 1 = column := by omega
      rw [if_pos hlast]
      simp

end Row.WellFormed

namespace Buffer

variable {b : Buffer}

/-- Every row is well formed. -/
def WellFormed (b : Buffer) : Prop := ∀ cells ∈ b.rows, cells.WellFormed

/-! ## Steps -/

namespace WellFormed

theorem empty : Buffer.empty.WellFormed := by
  intro cells hcells
  exact absurd hcells (Array.not_mem_empty cells)

theorem growTo (h : b.WellFormed) (n : Nat) : (b.growTo n).WellFormed := by
  intro cells hcells
  rcases Array.mem_append.mp hcells with hold | hnew
  · exact h cells hold
  · rw [(Array.mem_replicate.mp hnew).2]
    exact .empty

theorem insertRow (h : b.WellFormed) (i : Nat) : (b.insertRow i).WellFormed := by
  intro cells hcells
  rw [Buffer.insertRow, Array.insertIdxIfInBounds] at hcells
  split at hcells
  · rw [Array.mem_insertIdx] at hcells
    rcases hcells with rfl | hold
    · exact .empty
    · exact h cells hold
  · exact h cells hcells

theorem put (h : b.WellFormed) {c : Char} (hc : c ≠ '\n') (row column : Nat) :
    (b.put row column c).WellFormed := by
  intro cells hcells
  obtain ⟨i, hi⟩ := Array.mem_iff_getElem?.mp hcells
  rw [getElem?_rows_put] at hi
  split at hi
  · obtain ⟨old, hold, rfl⟩ := Option.map_eq_some_iff.mp hi
    exact (h old (Array.mem_of_getElem? hold)).set hc column
  · exact h cells (Array.mem_of_getElem? hi)

theorem nextRow (h : b.WellFormed) (mode : WriteMode) (row : Nat) :
    (b.nextRow mode row).WellFormed := by
  cases mode with
  | overwrite => exact h.growTo _
  | insert => exact h.insertRow _

theorem firstRow (h : b.WellFormed) (mode : WriteMode) (cs : List Char) (row : Nat) :
    (b.firstRow mode cs row).WellFormed := by
  rw [Buffer.firstRow]
  split
  · exact (h.growTo row).insertRow row
  · exact h.growTo (row + 1)

/-! ## Runs -/

theorem writeFrom (h : b.WellFormed) (mode : WriteMode) (cs : List Char) (row column : Nat) :
    (writeFrom mode cs row column b).WellFormed := by
  induction cs generalizing b row column with
  | nil => exact h
  | cons c cs ih =>
    rw [Buffer.writeFrom]
    by_cases hc : c = '\n'
    · -- a line break goes into no cell
      rw [if_pos hc]
      exact ih (h.nextRow mode row) (row + 1) 0
    · rw [if_neg hc]
      exact ih (h.put hc row column) row (column + 1)

theorem writeAt (h : b.WellFormed) (text : String) (place : Coordinate) (mode : WriteMode) :
    (b.writeAt text place mode).WellFormed :=
  (h.firstRow mode text.toList place.row).writeFrom mode text.toList place.row place.column

theorem append (h : b.WellFormed) (text : String) : (b.append text).WellFormed :=
  h.writeAt text b.endPlace .overwrite

end WellFormed

/-- What can come of a text without rows, by writes in either mode and by appends. -/
inductive Reachable : Buffer → Prop where
  | empty : Reachable .empty
  | writeAt {b : Buffer} (h : Reachable b) (text : String) (place : Coordinate) (mode : WriteMode) :
    Reachable (b.writeAt text place mode)
  | append {b : Buffer} (h : Reachable b) (text : String) : Reachable (b.append text)

theorem Reachable.wellFormed (h : b.Reachable) : b.WellFormed := by
  induction h with
  | empty => exact .empty
  | writeAt _ text place mode ih => exact ih.writeAt text place mode
  | append _ text ih => exact ih.append text

/-- The text that any rendering makes is reachable, also if it fails. -/
theorem Reachable.performAll (h : b.Reachable) (actions : List Action) :
    (b.performAll actions).Reachable := by
  induction actions generalizing b with
  | nil => exact h
  | cons a actions ih =>
    refine ih ?_
    cases a with
    | write text place mode => exact h.writeAt text place mode
    | append text => exact h.append text
    | report u => exact h

/-! ## What is shown -/

/-- The lines of the text that is shown are the rows. Without a row the text is empty, but the empty
    text has a line. -/
theorem WellFormed.split_render (h : b.WellFormed) (hrows : b.rowCount ≠ 0) :
    Text.split '\n' b.render.toList = b.lines := by
  rw [toList_render]
  apply Text.split_intercalate
  · intro hnil
    apply hrows
    rw [rowCount, ← length_lines, hnil]
    rfl
  · intro l hl
    obtain ⟨cells, hcells, rfl⟩ := List.mem_map.mp hl
    intro hbreak
    obtain ⟨cell, hcell, hshown⟩ := List.mem_map.mp hbreak
    cases cell with
    | none => exact absurd hshown (by decide)
    | some c =>
      cases hshown
      exact (h cells (Array.mem_toList_iff.mp hcells)).unbroken (Array.mem_toList_iff.mp hcell)

theorem WellFormed.lines_render (h : b.WellFormed) (hrows : b.rowCount ≠ 0) (i : Nat) :
    (Text.lines b.render)[i]? = b.row? i := by
  rw [Text.lines, h.split_render hrows, lines, List.map_map, List.getElem?_map,
    Array.getElem?_toList]
  rfl

theorem row?_eq_none_iff {i : Nat} : b.row? i = none ↔ b.rowCount ≤ i := by
  rw [row?, Option.map_eq_none_iff, Array.getElem?_eq_none_iff]
  rfl

/-- A row reaches up to the last character written into it. -/
theorem WellFormed.lt_rowLength_iff (h : b.WellFormed) (row column : Nat) :
    column < b.rowLength row ↔ ∃ k ≥ column, (b.cell? row k).isSome := by
  constructor
  · intro hcolumn
    refine ⟨b.rowLength row - 1, by omega, ?_⟩
    by_cases hrow : row < b.rowCount
    · obtain ⟨cells, hcells⟩ := exists_row hrow
      have hlength : b.rowLength row = cells.size := by
        rw [rowLength, hcells]
        rfl
      have hlast : cells.size - 1 < cells.size := by omega
      have hended := (h cells (Array.mem_of_getElem? hcells)).ended
      rw [Array.back?_eq_getElem?, Array.getElem?_eq_getElem hlast] at hended
      rw [cell?, hcells, hlength, Option.bind_some, Array.getElem?_eq_getElem hlast]
      -- the last cell exists, and it is no gap
      cases hcell : cells[cells.size - 1] with
      | none => exact absurd (congrArg some hcell) hended
      | some c => rfl
    · rw [rowLength_of_rowCount_le (by omega)] at hcolumn
      omega
  · rintro ⟨k, hk, hcell⟩
    obtain ⟨c, hc⟩ := Option.isSome_iff_exists.mp hcell
    rw [cell?, Option.join_eq_some_iff] at hc
    obtain ⟨cells, hcells, hkth⟩ := Option.bind_eq_some_iff.mp hc
    obtain ⟨hin, -⟩ := Array.getElem?_eq_some_iff.mp hkth
    rw [rowLength, hcells]
    exact Nat.lt_of_le_of_lt hk hin

theorem WellFormed.cell?_ne_break (h : b.WellFormed) (row column : Nat) :
    b.cell? row column ≠ some '\n' := by
  intro hcell
  rw [cell?, Option.join_eq_some_iff] at hcell
  obtain ⟨cells, hcells, hbreak⟩ := Option.bind_eq_some_iff.mp hcell
  exact (h cells (Array.mem_of_getElem? hcells)).unbroken (Array.mem_of_getElem? hbreak)

theorem length_toList_row {i : Nat} {t : String} (h : b.row? i = some t) :
    t.toList.length = b.rowLength i := by
  obtain ⟨cells, hcells, rfl⟩ := Option.map_eq_some_iff.mp h
  rw [Row.text, String.toList_ofList, Row.length_chars, rowLength, hcells]
  rfl

/-- A row is shown with one character for every column. -/
theorem getElem?_toList_row {i : Nat} {t : String} (h : b.row? i = some t) (j : Nat) :
    t.toList[j]? = if j < b.rowLength i then some ((b.cell? i j).getD ' ') else none := by
  obtain ⟨cells, hcells, rfl⟩ := Option.map_eq_some_iff.mp h
  rw [Row.text, String.toList_ofList, getElem?_chars hcells]

/-- What all that can be written has in common. No cell holds a line break, and a row is empty or
    ends in a character. So if there are rows, they are the lines of the text that is shown, from
    the first to the last; asking for a row fails exactly behind the last one; and a row is shown
    with one character for every column up to the last one written, a gap being a space. -/
theorem rows_of_reachable (h : b.Reachable) :
    ((∀ row column, b.cell? row column ≠ some '\n') ∧
      ∀ cells ∈ b.rows, cells = #[] ∨ ∃ c, cells.back? = some (some c)) ∧
    (b.rowCount ≠ 0 → (Text.lines b.render).length = b.rowCount ∧
      ∀ i, (Text.lines b.render)[i]? = b.row? i) ∧
    (∀ i, b.row? i = none ↔ b.rowCount ≤ i) ∧
    ∀ i t, b.row? i = some t →
      (∀ j, j < t.toList.length ↔ ∃ k ≥ j, (b.cell? i k).isSome) ∧
        ∀ j c, t.toList[j]? = some c → c = (b.cell? i j).getD ' ' := by
  have hb := h.wellFormed
  refine ⟨⟨hb.cell?_ne_break, fun cells hcells => ?_⟩, fun hrows => ⟨?_, hb.lines_render hrows⟩,
    fun i => row?_eq_none_iff, fun i t ht => ⟨fun j => ?_, fun j c hc => ?_⟩⟩
  · by_cases hempty : cells = #[]
    · exact .inl hempty
    · have hpos : cells.size - 1 < cells.size := by
        have hsize : cells.size ≠ 0 := fun h0 => hempty (Array.eq_empty_of_size_eq_zero h0)
        omega
      have hended := (hb cells hcells).ended
      rw [Array.back?_eq_getElem?, Array.getElem?_eq_getElem hpos] at hended ⊢
      obtain ⟨c, hc⟩ := Option.ne_none_iff_exists'.mp fun hnone => hended (congrArg some hnone)
      exact .inr ⟨c, congrArg some hc⟩
  · rw [Text.lines, List.length_map, hb.split_render hrows, length_lines]
    rfl
  · rw [length_toList_row ht]
    exact hb.lt_rowLength_iff i j
  · rw [getElem?_toList_row ht] at hc
    split at hc
    · exact (Option.some.inj hc).symm
    · cases hc

/-- A text of two lines, one spliced in between them, and an append that opens a row. -/
theorem rows_of_reachable_mixed :
    let b := ((empty.writeAt "do\nend" ⟨1, 2⟩ .overwrite).writeAt "-\n" ⟨2, 4⟩ .insert).append "\nx"
    b.Reachable ∧ b.rowCount ≠ 0 ∧
      (Text.lines b.render)[2]? = some "    -" ∧ (Text.lines b.render).length = 6 := by
  intro b
  have hb : b.Reachable :=
    ((Reachable.empty.writeAt "do\nend" ⟨1, 2⟩ .overwrite).writeAt "-\n" ⟨2, 4⟩ .insert).append "\nx"
  have hrows : b.rowCount = 6 := by decide +kernel
  obtain ⟨-, hlines, -, -⟩ := rows_of_reachable hb
  obtain ⟨hlength, hrow⟩ := hlines (by omega)
  refine ⟨hb, by omega, ?_, hlength.trans hrows⟩
  rw [hrow]
  decide +kernel

end Buffer
end LuauLayout
