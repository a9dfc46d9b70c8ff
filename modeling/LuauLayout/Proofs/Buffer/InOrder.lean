/-
  LuauLayout.Proofs.Buffer.InOrder

  Writing in order makes the text longer at its end.

  An append always goes behind everything. A write goes where it says, and that
  may be behind everything too; then the rows and columns in between come out as
  line breaks and spaces. A run in which every write does so, at its moment,
  takes nothing back: the text that is shown is the one there was, and then, for
  every edit, what lies between and the text of the edit itself.

    * `Coordinate.gapTo`  — what lies between two places.
    * `Buffer.InOrder`    — every write of a run goes behind everything.
    * `toList_render_writeFrom` — characters written at the end.
    * `toList_render_edit`      — one edit.
    * `render_editAll_of_inOrder` — the run.
-/

import LuauLayout.Proofs.Buffer.LastWrite

namespace LuauLayout

namespace Coordinate

/-- In the order of reading, a place is not before another one. -/
def NotBefore (place start : Coordinate) : Prop :=
  start.row < place.row ∨ start.row = place.row ∧ start.column ≤ place.column

instance (place start : Coordinate) : Decidable (place.NotBefore start) :=
  inferInstanceAs (Decidable (_ ∨ _))

/-- What lies between a place and a later one: spaces in the same row, or a line break for every
    row and then the spaces in front of the later place. -/
def gapTo (start place : Coordinate) : List Char :=
  if place.row = start.row then List.replicate (place.column - start.column) ' '
  else List.replicate (place.row - start.row) '\n' ++ List.replicate place.column ' '

end Coordinate

namespace Edit

/-- The text of an edit. -/
def text : Edit → String
  | .write p => p.text
  | .append text => text

/-- A write goes behind everything and begins there, with a character of its own. -/
def IsInOrder (b : Buffer) : Edit → Prop
  | .write p => p.text ≠ "" ∧ p.text.toList.head? ≠ some '\n' ∧ p.place.NotBefore b.stop
  | .append _ => True

instance (b : Buffer) (e : Edit) : Decidable (e.IsInOrder b) :=
  match e with
  | .write p => inferInstanceAs (Decidable (p.text ≠ "" ∧ _ ∧ p.place.NotBefore b.stop))
  | .append _ => .isTrue trivial

/-- What lies between the text there is and the text of an edit. -/
def gap (b : Buffer) : Edit → List Char
  | .write p => b.stop.gapTo p.place
  | .append _ => []

end Edit

namespace Buffer

variable {b : Buffer} {row : Nat}

/-- Every write of a run is in order when its turn comes. -/
def InOrder (b : Buffer) : List Edit → Prop
  | [] => True
  | e :: es => e.IsInOrder b ∧ (b.edit e).InOrder es

instance decidableInOrder (b : Buffer) : (es : List Edit) → Decidable (b.InOrder es)
  | [] => .isTrue trivial
  | e :: es => @instDecidableAnd _ _ _ ((b.edit e).decidableInOrder es)

/-- What a run adds: for every edit the gap before it and its text. -/
def added (b : Buffer) : List Edit → List Char
  | [] => []
  | e :: es => e.gap b ++ e.text.toList ++ (b.edit e).added es

/-! ## Joining lines -/

/-- A line joined to others comes behind a separator. -/
theorem intercalate_concat (separator : List Char) {above : List Line} (h : above ≠ [])
    (line : Line) : separator.intercalate (above ++ [line])
      = separator.intercalate above ++ separator ++ line := by
  induction above with
  | nil => exact absurd rfl h
  | cons first above ih =>
    by_cases habove : above = []
    · subst habove
      rw [List.singleton_append, List.intercalate_cons_cons, List.intercalate_singleton,
        List.intercalate_singleton]
    · have hne : above ++ [line] ≠ [] := List.append_ne_nil_of_left_ne_nil habove _
      rw [List.cons_append, List.intercalate_cons_of_ne_nil hne, ih habove,
        List.intercalate_cons_of_ne_nil habove, ← List.append_assoc, ← List.append_assoc]

/-- The last of some joined lines stands at the end, whatever it is. -/
theorem exists_intercalate_concat (separator : List Char) (above : List Line) :
    ∃ front, ∀ line, separator.intercalate (above ++ [line]) = front ++ line := by
  by_cases habove : above = []
  · subst habove
    exact ⟨[], fun line => List.intercalate_singleton⟩
  · exact ⟨_, intercalate_concat separator habove⟩

/-- Empty lines behind others are line breaks. -/
theorem intercalate_append_replicate {ls : List Line} (h : ls ≠ []) (k : Nat) :
    ['\n'].intercalate (ls ++ List.replicate k [])
      = ['\n'].intercalate ls ++ List.replicate k '\n' := by
  induction k with
  | zero => rw [List.replicate_zero, List.replicate_zero, List.append_nil, List.append_nil]
  | succ k ih =>
    have hne : ls ++ List.replicate k [] ≠ [] := List.append_ne_nil_of_left_ne_nil h _
    rw [List.replicate_succ', List.replicate_succ', ← List.append_assoc,
      intercalate_concat _ hne, ih, List.append_nil, List.append_assoc]

/-! ## One edit -/

/-- Rows made below the last one are line breaks. -/
theorem toList_render_growTo (b : Buffer) {row : Nat} (h : b.stop.row ≤ row) :
    (b.growTo (row + 1)).render.toList
      = b.render.toList ++ List.replicate (row - b.stop.row) '\n' := by
  rw [toList_render, toList_render, lines_growTo]
  have hcount : b.lines.length = b.rowCount := length_lines b
  have hstop : b.stop.row = b.rowCount - 1 := rfl
  by_cases hlines : b.lines = []
  · -- without a row the first one made takes no line break
    rw [hlines, List.length_nil] at hcount
    have hempty := intercalate_append_replicate (List.cons_ne_nil ([] : Line) []) row
    have hrow : row - b.stop.row = row := by omega
    rw [List.singleton_append, ← List.replicate_succ, List.intercalate_singleton] at hempty
    rw [hlines, hrow]
    exact hempty
  · have hpos : b.lines.length ≠ 0 := fun h0 => hlines (List.length_eq_zero_iff.mp h0)
    have hrows : row + 1 - b.lines.length = row - b.stop.row := by omega
    rw [intercalate_append_replicate hlines, hrows]

/-- A character put behind the last row, some blanks away. -/
theorem toList_render_put (h : b.rowCount = row + 1) (blanks : Nat) (c : Char) :
    (b.put row (b.rowLength row + blanks) c).render.toList
      = b.render.toList ++ List.replicate blanks ' ' ++ [c] := by
  obtain ⟨above, line, hlines, rfl, hlength⟩ := exists_last_line h
  obtain ⟨front, hfront⟩ := exists_intercalate_concat ['\n'] above
  rw [toList_render, toList_render, hlength, lines_put hlines, hlines, hfront, hfront,
    ← List.append_assoc, ← List.append_assoc]

/-- A row that was made longer by a character ends behind it. -/
theorem rowLength_put_end (h : b.rowCount = row + 1) (blanks : Nat) (c : Char) :
    (b.put row (b.rowLength row + blanks) c).rowLength row = b.rowLength row + blanks + 1 := by
  rw [rowLength_put (by omega), if_pos rfl]
  omega

/-- What is written from the end of the last row on comes out as it is, with its line breaks. -/
theorem toList_render_writeFrom (cs : List Char) (h : b.rowCount = row + 1) :
    (writeFrom .overwrite cs row (b.rowLength row) b).render.toList = b.render.toList ++ cs := by
  -- on the characters; the row being written to stays the last one, and the column its end
  induction cs generalizing b row with
  | nil => rw [writeFrom, List.append_nil]
  | cons c cs ih =>
    rw [writeFrom]
    by_cases hc : c = '\n'
    · subst hc
      have hstop : b.stop.row = b.rowCount - 1 := rfl
      have hone : row + 1 - b.stop.row = 1 := by omega
      have hbreak := toList_render_growTo b (show b.stop.row ≤ row + 1 by omega)
      have hgrown : (b.growTo (row + 2)).rowCount = row + 1 + 1 := by
        rw [rowCount_growTo]
        omega
      have hfresh : (b.growTo (row + 2)).rowLength (row + 1) = 0 := by
        rw [rowLength_growTo]
        exact rowLength_of_rowCount_le (by omega)
      have hrest := ih hgrown
      rw [hfresh, hbreak, hone, List.append_assoc] at hrest
      rw [if_pos rfl]
      exact hrest
    · have hcount : (b.put row (b.rowLength row) c).rowCount = row + 1 :=
        (rowCount_put b _ _ c).trans h
      have hput := toList_render_put h 0 c
      rw [Nat.add_zero, List.replicate_zero, List.append_nil] at hput
      have hend := rowLength_put_end h 0 c
      rw [Nat.add_zero] at hend
      have hrest := ih hcount
      rw [hend, hput, List.append_assoc] at hrest
      rw [if_neg hc]
      exact hrest

/-- The same some blanks away. The first character brings the blanks, so there has to be one, and
    it may not be a line break. -/
theorem toList_render_writeFrom_blanks {cs : List Char} (hne : cs ≠ [])
    (hbreak : cs.head? ≠ some '\n') (h : b.rowCount = row + 1) (blanks : Nat) :
    (writeFrom .overwrite cs row (b.rowLength row + blanks) b).render.toList
      = b.render.toList ++ List.replicate blanks ' ' ++ cs := by
  cases cs with
  | nil => exact absurd rfl hne
  | cons c cs =>
    have hc : c ≠ '\n' := fun heq => hbreak (congrArg some heq)
    have hcount : (b.put row (b.rowLength row + blanks) c).rowCount = row + 1 :=
      (rowCount_put b _ _ c).trans h
    have hrest := toList_render_writeFrom cs hcount
    rw [rowLength_put_end h, toList_render_put h, List.append_assoc _ [c]] at hrest
    rw [writeFrom, if_neg hc]
    exact hrest

theorem rowCount_growTo_of_stop (h : b.stop.row ≤ row) :
    (b.growTo (row + 1)).rowCount = row + 1 := by
  have hstop : b.stop.row = b.rowCount - 1 := rfl
  rw [rowCount_growTo]
  omega

/-- Up to a place behind everything there are line breaks, and then the blanks that its row does
    not have yet. -/
theorem exists_blanks {place : Coordinate} (h : place.NotBefore b.stop) : ∃ blanks,
    place.column = b.rowLength place.row + blanks ∧
      b.stop.gapTo place
        = List.replicate (place.row - b.stop.row) '\n' ++ List.replicate blanks ' ' := by
  have hstop : b.stop.row = b.rowCount - 1 := rfl
  rw [Coordinate.gapTo]
  rcases h with hbelow | ⟨hsame, hcolumn⟩
  · have hlength : b.rowLength place.row = 0 := rowLength_of_rowCount_le (by omega)
    refine ⟨place.column, by omega, ?_⟩
    rw [if_neg (by omega)]
  · have hlength : b.rowLength place.row = b.stop.column := by
      rw [← hsame]
      rfl
    refine ⟨place.column - b.stop.column, by omega, ?_⟩
    rw [if_pos hsame.symm, hsame, Nat.sub_self, List.replicate_zero, List.nil_append]

/-- A write behind everything adds what lies between, and its text. -/
theorem toList_render_writeAt {p : Placement} (h : Edit.IsInOrder b (.write p)) :
    (b.writeAt p.text p.place .overwrite).render.toList
      = b.render.toList ++ b.stop.gapTo p.place ++ p.text.toList := by
  obtain ⟨hne, hbreak, hplace⟩ := h
  have hchars : p.text.toList ≠ [] := fun hnil => hne (String.toList_eq_nil_iff.mp hnil)
  have hrow : b.stop.row ≤ p.place.row := by
    rcases hplace with hlt | ⟨heq, -⟩ <;> omega
  obtain ⟨blanks, hcolumn, hgap⟩ := exists_blanks hplace
  have hwrite := toList_render_writeFrom_blanks hchars hbreak (rowCount_growTo_of_stop hrow) blanks
  rw [rowLength_growTo, ← hcolumn, toList_render_growTo b hrow] at hwrite
  rw [writeAt_overwrite, hwrite, hgap, ← List.append_assoc]

/-- An append adds its text. -/
theorem toList_render_append (b : Buffer) (text : String) :
    (b.append text).render.toList = b.render.toList ++ text.toList := by
  have hrow : b.stop.row ≤ b.stop.row := Nat.le_refl _
  have hlength : (b.growTo (b.stop.row + 1)).rowLength b.stop.row = b.stop.column := by
    rw [rowLength_growTo]
    rfl
  have hwrite := toList_render_writeFrom text.toList (rowCount_growTo_of_stop hrow)
  rw [hlength, toList_render_growTo b hrow, Nat.sub_self, List.replicate_zero,
    List.append_nil] at hwrite
  rw [append, endPlace_eq_stop, writeAt_overwrite]
  exact hwrite

/-- An edit in order adds the gap before it, and its text. -/
theorem toList_render_edit {e : Edit} (h : e.IsInOrder b) :
    (b.edit e).render.toList = b.render.toList ++ e.gap b ++ e.text.toList := by
  cases e with
  | write p => exact toList_render_writeAt h
  | append text =>
    rw [Edit.gap, List.append_nil]
    exact toList_render_append b text

/-! ## Runs -/

theorem toList_render_editAll {es : List Edit} (h : b.InOrder es) :
    (b.editAll es).render.toList = b.render.toList ++ b.added es := by
  induction es generalizing b with
  | nil => rw [editAll_nil, added, List.append_nil]
  | cons e es ih =>
    obtain ⟨he, hes⟩ := h
    rw [editAll_cons, ih hes, toList_render_edit he, added]
    simp only [List.append_assoc]

/-- The rest of a run in order is in order where the run has come to. -/
theorem InOrder.rest {done rest : List Edit} (h : b.InOrder (done ++ rest)) :
    (b.editAll done).InOrder rest := by
  induction done generalizing b with
  | nil => exact h
  | cons e done ih => exact ih h.2

/-- A run in which every write goes behind everything adds to the text that is shown, for each
    edit in turn, the gap before it and its text. So every edit, and an append without a gap,
    stands right behind all that was there before it, and nothing is taken back. -/
theorem render_editAll_of_inOrder {es : List Edit} (h : b.InOrder es) :
    (b.editAll es).render = b.render ++ String.ofList (b.added es) ∧
      ∀ done e rest, es = done ++ e :: rest →
        ∃ more, (b.editAll es).render = (b.editAll done).render ++
          String.ofList (e.gap (b.editAll done)) ++ e.text ++ more := by
  refine ⟨?_, ?_⟩
  · apply String.toList_inj.mp
    rw [String.toList_append, String.toList_ofList]
    exact toList_render_editAll h
  · rintro done e rest rfl
    have hrest := toList_render_editAll h.rest
    refine ⟨String.ofList (((b.editAll done).edit e).added rest), String.toList_inj.mp ?_⟩
    rw [editAll_append, hrest, added]
    simp only [String.toList_append, String.toList_ofList, List.append_assoc]

/-- From a row that ends in a gap: an append that ends in a line break, a write of two lines in the
    row it opens, an append, a write two rows below, and an append of a line break alone. -/
theorem render_editAll_of_inOrder_over_gaps :
    let b : Buffer := ⟨#[#[some 'a', none]]⟩
    let es : List Edit := [.append "=\n", .write ⟨"b\nc", ⟨1, 2⟩⟩, .append ",", .write ⟨"d", ⟨4, 1⟩⟩,
      .append "\n"]
    b.InOrder es ∧ (b.editAll es).render = "a =\n  b\nc,\n\n d\n" := by
  intro b es
  have h : b.InOrder es := by decide +kernel
  have hadded : b.render ++ String.ofList (b.added es) = "a =\n  b\nc,\n\n d\n" := by
    decide +kernel
  exact ⟨h, (render_editAll_of_inOrder h).1.trans hadded⟩

end Buffer
end LuauLayout
