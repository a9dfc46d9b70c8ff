/-
  LuauLayout.Proofs.Buffer.Splice

  Text spliced in between rows.

  In the mode `insert` a text of several lines is not written over what stands
  there. Each of its lines gets a row of its own: the first in front of the row
  that is written to, every other right behind the one before. What stood above
  stays, and what stood from that row on moves down as a whole.

    * `freshRows`  — the rows that the lines of a text get.
    * `splice`     — rows with others put in between.
    * `toList_rows_insertRow`, `toList_rows_writeFrom_insert` — one step, and the
      run over the characters of a text.
    * `growTo_succ_eq_insertRow` — behind the last row an inserted row is an
      added one.
    * `writeAt_insert_splices`   — the whole write, in terms of `splice`.
-/

import LuauLayout.Proofs.Buffer.Placement

namespace LuauLayout

/-! ## Fresh rows -/

namespace Row

/-- A row with a line from a column on and gaps before it. Without a character there are no gaps
    either. -/
def ofLine (column : Nat) (l : Line) : Row :=
  if l = [] then #[] else (List.replicate column none ++ l.map some).toArray

theorem ofLine_nil (column : Nat) : ofLine column [] = #[] := if_pos rfl

theorem toList_ofLine {l : Line} (h : l ≠ []) (column : Nat) :
    (ofLine column l).toList = List.replicate column none ++ l.map some := by
  rw [ofLine, if_neg h]

/-- A character put behind a line is the next of the line. The first one brings the gaps. -/
theorem set_ofLine (column : Nat) (l : Line) (c : Char) :
    (ofLine column l).set (column + l.length) c = ofLine column (l ++ [c]) := by
  have hne : l ++ [c] ≠ [] := List.append_ne_nil_of_right_ne_nil _ (List.cons_ne_nil c [])
  have hlength : (List.replicate column none ++ l.map some).length = column + l.length := by
    rw [List.length_append, List.length_replicate, List.length_map]
  -- either way the row that the character is put into has one gap at its end
  have hgrown : (ofLine column l).toList
      ++ List.replicate (column + l.length + 1 - (ofLine column l).size) none
        = List.replicate column none ++ l.map some ++ [none] := by
    by_cases hl : l = []
    · subst hl
      rw [ofLine_nil, List.map_nil, List.append_nil, ← List.replicate_succ']
      rfl
    · have hsize : (ofLine column l).size = column + l.length := by
        rw [← Array.length_toList, toList_ofLine hl, hlength]
      have hone : column + l.length + 1 - (ofLine column l).size = 1 := by omega
      rw [hone, toList_ofLine hl]
      rfl
  apply Array.toList_inj.mp
  rw [toList_ofLine hne, set, Array.toList_setIfInBounds, Array.toList_append,
    Array.toList_replicate, hgrown, List.set_append_right _ _ (Nat.le_of_eq hlength), hlength,
    Nat.sub_self, List.map_append, ← List.append_assoc]
  rfl

end Row

/-- The rows that lines get: the first line goes from a column on, the others from the first
    column on. -/
def freshRows (column : Nat) : List Line → List Row
  | [] => []
  | first :: rest => Row.ofLine column first :: rest.map (Row.ofLine 0)

theorem length_freshRows (column : Nat) (ls : List Line) :
    (freshRows column ls).length = ls.length := by
  cases ls with
  | nil => rfl
  | cons first rest => rw [freshRows, List.length_cons, List.length_map, List.length_cons]

/-- Rows with others put in before one of them. Rows that are missing above it are made. -/
def splice (rows : List Row) (row : Nat) (fresh : List Row) : List Row :=
  rows.take row ++ List.replicate (row - rows.length) #[] ++ fresh ++ rows.drop row

section Splice

variable (rows : List Row) (row : Nat) (fresh : List Row)

theorem length_splice : (splice rows row fresh).length = max rows.length row + fresh.length := by
  simp only [splice, List.length_append, List.length_take, List.length_replicate,
    List.length_drop]
  omega

/-- What stood above stays. -/
theorem getElem?_splice_above {i : Nat} (hi : i < row) (hrows : i < rows.length) :
    (splice rows row fresh)[i]? = rows[i]? := by
  have htake : i < (rows.take row).length := by
    rw [List.length_take]
    omega
  rw [splice, List.append_assoc, List.append_assoc, List.getElem?_append_left htake,
    List.getElem?_take_of_lt hi]

/-- What stood from there on moves down. -/
theorem getElem?_splice_below {i : Nat} (hi : row ≤ i) :
    (splice rows row fresh)[i + fresh.length]? = rows[i]? := by
  by_cases hrows : rows.length ≤ i
  · have hlength := length_splice rows row fresh
    rw [List.getElem?_eq_none hrows, List.getElem?_eq_none (by omega)]
  · have habove : (rows.take row ++ List.replicate (row - rows.length) #[] ++ fresh).length
        = row + fresh.length := by
      simp only [List.length_append, List.length_take, List.length_replicate]
      omega
    have hindex : i + fresh.length - (row + fresh.length) = i - row := by omega
    have hback : row + (i - row) = i := by omega
    rw [splice, List.getElem?_append_right (by omega), habove, hindex, List.getElem?_drop, hback]

end Splice

/-! ## The steps -/

namespace Text

theorem length_split (separator : Char) (cs : List Char) :
    (split separator cs).length = cs.count separator + 1 := by
  induction cs with
  | nil => rfl
  | cons c cs ih =>
    by_cases hc : c = separator
    · subst hc
      rw [split_cons_separator, List.length_cons, ih, List.count_cons_self]
    · obtain ⟨l, ls, hsplit⟩ := List.exists_cons_of_ne_nil (split_ne_nil separator cs)
      have hlength : ls.length + 1 = cs.count separator + 1 := by
        rw [← ih, hsplit, List.length_cons]
      rw [split_cons hc hsplit, List.length_cons, hlength, List.count_cons_of_ne hc]

end Text

namespace Buffer

variable {b : Buffer} {upper lower : List Row} {row : Nat}

/-- An inserted row stands between the rows above and those below. -/
theorem toList_rows_insertRow (h : b.rows.toList = upper ++ lower) :
    (b.insertRow upper.length).rows.toList = upper ++ #[] :: lower := by
  have hle : upper.length ≤ b.rows.size := by
    rw [← Array.length_toList, h, List.length_append]
    omega
  have hinsert := List.modifyTailIdx_add (List.cons (#[] : Row)) 0 upper lower
  rw [Nat.add_zero] at hinsert
  rw [insertRow, Array.insertIdxIfInBounds, dif_pos hle, Array.toList_insertIdx, h]
  exact hinsert

/-- Behind the last row there is nothing that could move: inserting a row there adds it. -/
theorem growTo_succ_eq_insertRow (h : b.rowCount = row) : b.growTo (row + 1) = b.insertRow row := by
  have hone : row + 1 - b.rows.size = 1 := by
    rw [rowCount] at h
    omega
  have hend : b.rows.toList.length = row := by
    rw [Array.length_toList]
    exact h
  have hinsert := toList_rows_insertRow (List.append_nil b.rows.toList).symm
  rw [hend] at hinsert
  have hrows : (b.growTo (row + 1)).rows.toList = b.rows.toList ++ [#[]] := by
    rw [growTo, hone, Array.toList_append, Array.toList_replicate]
    rfl
  have hsame : (b.growTo (row + 1)).rows = (b.insertRow row).rows :=
    Array.toList_inj.mp (hrows.trans hinsert.symm)
  cases hg : b.growTo (row + 1)
  cases hi : b.insertRow row
  rw [hg, hi] at hsame
  exact congrArg Buffer.mk hsame

/-! ## A text of several lines -/

/-- On the characters, `done` being what the current row has of its line already. Every line break
    leaves that row to the rows above and begins a fresh one. -/
theorem toList_rows_writeFrom_insert {cs done l : Line} {ls : List Line} {column : Nat}
    (hsplit : Text.split '\n' cs = l :: ls)
    (h : b.rows.toList = upper ++ Row.ofLine column done :: lower) :
    (writeFrom .insert cs upper.length (column + done.length) b).rows.toList
      = upper ++ freshRows column ((done ++ l) :: ls) ++ lower := by
  induction cs generalizing b upper column done l ls with
  | nil =>
    cases hsplit
    rw [writeFrom, h, List.append_nil, List.append_assoc]
    rfl
  | cons c cs ih =>
    obtain ⟨next, rest, hrest⟩ := List.exists_cons_of_ne_nil (Text.split_ne_nil '\n' cs)
    by_cases hc : c = '\n'
    · subst hc
      rw [Text.split_cons_separator, hrest] at hsplit
      cases hsplit
      -- the finished row joins those above, and an empty row below it is the current one
      have hlength : (upper ++ [Row.ofLine column done]).length = upper.length + 1 := by
        rw [List.length_append, List.length_singleton]
      have hopened : (b.insertRow (upper.length + 1)).rows.toList
          = (upper ++ [Row.ofLine column done]) ++ Row.ofLine 0 [] :: lower := by
        rw [← hlength, Row.ofLine_nil]
        apply toList_rows_insertRow
        rw [h, List.append_assoc]
        rfl
      have hlines := ih hrest hopened
      rw [hlength, List.length_nil, Nat.add_zero, List.nil_append] at hlines
      rw [writeFrom, if_pos rfl, nextRow, hlines, List.append_nil]
      simp only [freshRows, List.map_cons, List.append_assoc, List.cons_append, List.nil_append]
    · rw [Text.split_cons hc hrest] at hsplit
      cases hsplit
      -- the character lengthens what the current row has of its line
      have hput := toList_rows_put h (column + done.length) c
      rw [Row.set_ofLine] at hput
      have hlines := ih hrest hput
      rw [List.length_append, List.length_singleton, ← Nat.add_assoc,
        List.append_assoc done] at hlines
      rw [writeFrom, if_neg hc]
      exact hlines

/-- Where the first line of a text goes: in front of the row that is written to, when the rows
    above it are there. -/
theorem toList_rows_growTo (b : Buffer) (row : Nat) : (b.growTo row).rows.toList
    = (b.rows.toList.take row ++ List.replicate (row - b.rows.toList.length) #[])
      ++ b.rows.toList.drop row := by
  rw [growTo, Array.toList_append, Array.toList_replicate, ← Array.length_toList]
  by_cases hrow : row ≤ b.rows.toList.length
  · -- no row is missing
    rw [Nat.sub_eq_zero_of_le hrow, List.replicate_zero, List.append_nil, List.append_nil,
      List.take_append_drop]
  · have hall : b.rows.toList.length ≤ row := by omega
    rw [List.take_of_length_le hall, List.drop_of_length_le hall, List.append_nil]

/-- A text with a line break is spliced in, line by line. -/
theorem toList_rows_writeAt_insert (b : Buffer) {text : String} (h : '\n' ∈ text.toList)
    (place : Coordinate) : (b.writeAt text place .insert).rows.toList
      = splice b.rows.toList place.row (freshRows place.column (Text.split '\n' text.toList)) := by
  obtain ⟨l, ls, hsplit⟩ := List.exists_cons_of_ne_nil (Text.split_ne_nil '\n' text.toList)
  have hlength : (b.rows.toList.take place.row
      ++ List.replicate (place.row - b.rows.toList.length) #[]).length = place.row := by
    simp only [List.length_append, List.length_take, List.length_replicate]
    omega
  have hopened := toList_rows_insertRow (toList_rows_growTo b place.row)
  have hfresh : ((b.growTo place.row).insertRow place.row).rows.toList
      = (b.rows.toList.take place.row ++ List.replicate (place.row - b.rows.toList.length) #[])
        ++ Row.ofLine place.column [] :: b.rows.toList.drop place.row := by
    rw [Row.ofLine_nil, ← hopened, hlength]
  have hlines := toList_rows_writeFrom_insert hsplit hfresh
  rw [hlength, List.length_nil, Nat.add_zero, List.nil_append] at hlines
  rw [writeAt, firstRow, if_pos ⟨rfl, h⟩, hlines, hsplit, splice]

/-! ## The other mode -/

/-- Without a line break the mode is never asked for. -/
theorem writeFrom_eq_of_unbroken {cs : List Char} (h : '\n' ∉ cs) (mode : WriteMode)
    (row column : Nat) (b : Buffer) :
    writeFrom mode cs row column b = writeFrom .overwrite cs row column b := by
  induction cs generalizing column b with
  | nil => rw [writeFrom, writeFrom]
  | cons c cs ih =>
    have hc : c ≠ '\n' := (List.ne_of_not_mem_cons h).symm
    rw [writeFrom, writeFrom, if_neg hc, if_neg hc, ih (List.not_mem_of_not_mem_cons h)]

/-- In the last row the modes come to the same: the row behind it is always a fresh one. -/
theorem writeFrom_insert_eq_of_last (cs : List Char) (h : b.rowCount = row + 1) (column : Nat) :
    writeFrom .insert cs row column b = writeFrom .overwrite cs row column b := by
  induction cs generalizing b row column with
  | nil => rw [writeFrom, writeFrom]
  | cons c cs ih =>
    by_cases hc : c = '\n'
    · subst hc
      have hcount : (b.growTo (row + 2)).rowCount = row + 1 + 1 := by
        rw [rowCount_growTo]
        omega
      have hnext : b.nextRow .insert row = b.nextRow .overwrite row :=
        (growTo_succ_eq_insertRow h).symm
      rw [writeFrom, writeFrom, if_pos rfl, if_pos rfl, hnext]
      exact ih hcount 0
    · have hcount : (b.put row column c).rowCount = row + 1 := (rowCount_put b row column c).trans h
      rw [writeFrom, writeFrom, if_neg hc, if_neg hc, ih hcount]

theorem writeAt_insert_of_unbroken {text : String} (h : '\n' ∉ text.toList) (b : Buffer)
    (place : Coordinate) : b.writeAt text place .insert = b.writeAt text place .overwrite := by
  have hfirst : ¬(WriteMode.insert = .insert ∧ '\n' ∈ text.toList) := fun hboth => h hboth.2
  rw [writeAt_overwrite, writeAt, firstRow, if_neg hfirst, writeFrom_eq_of_unbroken h]

theorem writeAt_insert_of_below {text : String} (h : '\n' ∈ text.toList) {place : Coordinate}
    (hbelow : b.rowCount ≤ place.row) :
    b.writeAt text place .insert = b.writeAt text place .overwrite := by
  have hcount : (b.growTo place.row).rowCount = place.row := by
    rw [rowCount_growTo]
    omega
  have hfirst : (b.growTo place.row).insertRow place.row = b.growTo (place.row + 1) := by
    rw [← growTo_succ_eq_insertRow hcount, growTo_growTo (Nat.le_succ place.row)]
  have hlast : (b.growTo (place.row + 1)).rowCount = place.row + 1 := by
    rw [rowCount_growTo]
    omega
  rw [writeAt_overwrite, writeAt, firstRow, if_pos ⟨rfl, h⟩, hfirst,
    writeFrom_insert_eq_of_last _ hlast]

/-! ## Insertion -/

/-- What an insertion does. A text with a line break is spliced in: the rows above the place, made
    as far as they are missing, then a fresh row for every line of the text, then all rows from the
    place on. So there are as many rows more as the text has lines, and every old row is there
    unchanged, above or moved down as a whole; and if no row had to move, the text might as well
    have been written in place. A text without a line break is written in place. -/
theorem writeAt_insert_splices (b : Buffer) (text : String) (place : Coordinate) :
    ('\n' ∈ text.toList →
      let after := b.writeAt text place .insert
      let breaks := text.toList.count '\n'
      after.rows.toList = b.rows.toList.take place.row
          ++ List.replicate (place.row - b.rowCount) #[]
          ++ freshRows place.column (Text.split '\n' text.toList)
          ++ b.rows.toList.drop place.row ∧
        after.rowCount = max b.rowCount place.row + breaks + 1 ∧
        (∀ i < min place.row b.rowCount, after.rows[i]? = b.rows[i]?) ∧
        (∀ i ≥ place.row, after.rows[i + (breaks + 1)]? = b.rows[i]?) ∧
        (b.rowCount ≤ place.row → after = b.writeAt text place .overwrite)) ∧
      ('\n' ∉ text.toList →
        b.writeAt text place .insert = b.writeAt text place .overwrite) := by
  refine ⟨fun h => ?_, fun h => writeAt_insert_of_unbroken h b place⟩
  intro after breaks
  have hrows : after.rows.toList
      = splice b.rows.toList place.row (freshRows place.column (Text.split '\n' text.toList)) :=
    toList_rows_writeAt_insert b h place
  have hfresh : (freshRows place.column (Text.split '\n' text.toList)).length = breaks + 1 := by
    rw [length_freshRows, Text.length_split]
  have hcount : b.rows.toList.length = b.rowCount := Array.length_toList
  refine ⟨?_, ?_, ?_, ?_, writeAt_insert_of_below h⟩
  · rw [hrows, splice, hcount]
  · rw [rowCount, ← Array.length_toList, hrows, length_splice, hfresh, hcount, Nat.add_assoc]
  · intro i hi
    rw [← Array.getElem?_toList, ← Array.getElem?_toList, hrows]
    exact getElem?_splice_above _ _ _ (by omega) (by omega)
  · intro i hi
    rw [← Array.getElem?_toList, ← Array.getElem?_toList, hrows, ← hfresh]
    exact getElem?_splice_below _ _ _ hi

/-- Between two rows, behind gaps and with an empty line in the text and at its end; and below a
    single row, where two rows are missing. -/
theorem writeAt_insert_splices_between :
    let b : Buffer := ⟨#[#[some 'x'], #[none, some 'y']]⟩
    let single : Buffer := ⟨#[#[some 'x']]⟩
    let text := "b\n\n"
    '\n' ∈ text.toList ∧ single.rowCount ≤ 3 ∧
      (b.writeAt text ⟨1, 2⟩ .insert).rows.toList
        = [#[some 'x'], #[none, none, some 'b'], #[], #[], #[none, some 'y']] ∧
      single.writeAt text ⟨3, 0⟩ .insert = single.writeAt text ⟨3, 0⟩ .overwrite := by
  intro b single text
  have hbreak : '\n' ∈ text.toList := by decide +kernel
  have hmissing : single.rowCount ≤ 3 := by decide
  obtain ⟨hrows, -⟩ := (writeAt_insert_splices b text ⟨1, 2⟩).1 hbreak
  obtain ⟨-, -, -, -, hbelow⟩ := (writeAt_insert_splices single text ⟨3, 0⟩).1 hbreak
  refine ⟨hbreak, hmissing, ?_, hbelow hmissing⟩
  rw [hrows]
  decide +kernel

end Buffer
end LuauLayout
