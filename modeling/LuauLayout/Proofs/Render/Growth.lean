/-
  LuauLayout.Proofs.Render.Growth

  How large a text can get while it is laid out.

  A location comes from outside and may name any place; but a place beyond the
  limit is not read, and what a renderer makes of two ends of a span stays
  within the limit. So a write begins within the limit, and an append begins
  where the text ends at that moment. What the text gains beyond the limit is
  therefore no more than what has been written: a row for a line break, a cell
  for a character. The bound is an invariant of every action of a renderer of
  this library, and with it none of the checks of a machine can fail.

    * `written`          — the characters of actions.
    * `Buffer.GrownBy`   — the bound, by the characters written so far.
    * `GrownBy.perform`, `perform?_eq_some`       — what one action keeps, and
      that its checks hold.
    * `GrownBy.performAll`, `performAll?_eq_some` — the same for a run.
    * `walk_growsWithin` — every stage of a walk.
-/

import LuauLayout.Proofs.Buffer.Checked
import LuauLayout.Proofs.Render.BuiltIn

namespace LuauLayout

/-! ## What is written -/

/-- The characters that an action writes. -/
def Action.written : Action → List Char
  | .write text _ _ => text.toList
  | .append text => text.toList
  | .report _ => []

/-- The characters that actions write, in order. -/
def written (actions : List Action) : List Char := actions.flatMap Action.written

theorem written_cons (a : Action) (actions : List Action) :
    written (a :: actions) = a.written ++ written actions := rfl

namespace Text

/-- A text reaches no further to the right than its characters would in one line. -/
theorem column_lt_of_charAt? {cs : List Char} {start : Coordinate} {row column : Nat} {c : Char}
    (h : charAt? cs start row column = some c) : column < start.column + cs.length := by
  obtain ⟨i, j, l, hl, hc, -, rfl⟩ := charAt?_eq_some_iff.mp h
  obtain ⟨hj, -⟩ := List.getElem?_eq_some_iff.mp hc
  have hlength := length_le_of_mem_split (List.mem_of_getElem? hl)
  have hstart : lineStart start i ≤ start.column := by
    rw [lineStart]
    split
    · exact Nat.le_refl _
    · exact Nat.zero_le _
  omega

end Text

/-! ## The bound -/

namespace Buffer

/-- Beyond the limit there are at most as many rows as line breaks, and at most as many cells in a
    row as characters, have been written. -/
structure GrownBy (b : Buffer) (breaks characters : Nat) : Prop where
  breaks_le : breaks ≤ characters
  rows : b.rowCount ≤ Coordinate.limit + 1 + breaks
  cells : ∀ row, b.rowLength row ≤ Coordinate.limit + characters

namespace GrownBy

variable {b : Buffer} {breaks characters word : Nat} {a : Action}

theorem empty : Buffer.empty.GrownBy 0 0 where
  breaks_le := Nat.le_refl 0
  rows := Nat.zero_le _
  cells _ := Nat.zero_le _

/-- Where everything ends so far. -/
theorem stop_row_le (h : b.GrownBy breaks characters) :
    b.stop.row ≤ Coordinate.limit + breaks := by
  have hrows := h.rows
  have hstop : b.stop.row = b.rowCount - 1 := rfl
  omega

theorem stop_column_le (h : b.GrownBy breaks characters) :
    b.stop.column ≤ Coordinate.limit + characters := h.cells _

/-- A text adds its line breaks and its characters to what may lie beyond the limit, if its place
    does not lie further beyond it than the text so far. -/
theorem writeAt (h : b.GrownBy breaks characters) {p : Placement}
    (hrow : p.place.row ≤ Coordinate.limit + breaks)
    (hcolumn : p.place.column ≤ Coordinate.limit + characters) :
    (b.writeAt p.text p.place .overwrite).GrownBy (breaks + p.text.toList.count '\n')
      (characters + p.text.toList.length) where
  breaks_le := by
    have hcount : p.text.toList.count '\n' ≤ p.text.toList.length := List.count_le_length
    have hbreaks := h.breaks_le
    omega
  rows := by
    have hrows := h.rows
    rw [rowCount_writeAt, Placement.rowsNeeded]
    omega
  cells row := by
    have hcells := h.cells row
    refine (rowLength_writeAt_le_iff b p row _).mpr ⟨by omega, fun j c hc => ?_⟩
    have hreach := Text.column_lt_of_charAt? hc
    omega

/-- A write begins within the limit, and an append at the end. -/
theorem perform (h : b.GrownBy breaks characters) (ha : a.IsPlain) :
    (b.perform a).GrownBy (breaks + a.written.count '\n') (characters + a.written.length) := by
  cases a with
  | write text place mode =>
    obtain ⟨rfl, hrow, hcolumn⟩ := ha
    exact h.writeAt (p := ⟨text, place⟩) (Nat.le_add_right_of_le hrow)
      (Nat.le_add_right_of_le hcolumn)
  | append text =>
    rw [Buffer.perform, append, endPlace_eq_stop]
    exact h.writeAt (p := ⟨text, b.stop⟩) h.stop_row_le h.stop_column_le
  | report u => exact h

/-- Whatever an action counts is at most one more than a row or a column that there may be after
    it. -/
theorem perform?_eq_some (h : b.GrownBy breaks characters) (ha : a.IsPlain)
    (hword : Coordinate.limit + 1 + (characters + a.written.length) < word) :
    b.perform? word a = some (b.perform a) := by
  have hcount : a.written.count '\n' ≤ a.written.length := List.count_le_length
  have hbreaks := h.breaks_le
  cases a with
  | write text place mode =>
    obtain ⟨-, hrow, hcolumn⟩ := ha
    rw [Action.written] at hword hcount
    exact writeAt?_eq_some (by omega) (by omega) b mode
  | append text =>
    have hrow := h.stop_row_le
    have hcolumn := h.stop_column_le
    rw [Action.written] at hword hcount
    exact append?_eq_some (by omega) (by omega)
  | report u => rfl

/-! ## Runs -/

theorem performAll {actions : List Action} (h : b.GrownBy breaks characters)
    (hactions : ∀ a ∈ actions, a.IsPlain) :
    (b.performAll actions).GrownBy (breaks + (written actions).count '\n')
      (characters + (written actions).length) := by
  induction actions generalizing b breaks characters with
  | nil => exact h
  | cons a actions ih =>
    obtain ⟨ha, hrest⟩ := List.forall_mem_cons.mp hactions
    have hrun := ih (h.perform ha) hrest
    rw [written_cons, List.count_append, List.length_append, ← Nat.add_assoc, ← Nat.add_assoc]
    exact hrun

theorem performAll?_eq_some {actions : List Action} (h : b.GrownBy breaks characters)
    (hactions : ∀ a ∈ actions, a.IsPlain)
    (hword : Coordinate.limit + 1 + (characters + (written actions).length) < word) :
    b.performAll? word actions = some (b.performAll actions) := by
  induction actions generalizing b breaks characters with
  | nil => rfl
  | cons a actions ih =>
    obtain ⟨ha, hrest⟩ := List.forall_mem_cons.mp hactions
    rw [written_cons, List.length_append] at hword
    have hstep : b.perform? word a = some (b.perform a) := h.perform?_eq_some ha (by omega)
    rw [Buffer.performAll?, hstep]
    exact ih (h.perform ha) hrest (by omega)

end GrownBy
end Buffer

namespace Render

/-- At every stage of a walk under renderers of this library, also of one that fails later. Every
    write so far went to a row and a column within the limit. Beyond the limit the text has at most
    a row more than line breaks, and a row at most as many cells as characters, have been written.
    All rows and cells that were named were there, and a row was inserted only between rows, on a
    machine of any word that can count that far; a word of 64 bits can, as long as there are fewer
    than 2^63 characters. -/
theorem walk_growsWithin {reg : Registry Renderer} (hreg : reg.IsBuiltIn) (b : Block)
    {done : List Action} (hdone : done <+: (walk reg b).actions) :
    let text := Buffer.empty.performAll done
    let breaks := (written done).count '\n'
    let characters := (written done).length
    (∀ t place mode, .write t place mode ∈ done →
        place.row ≤ Coordinate.limit ∧ place.column ≤ Coordinate.limit) ∧
      text.rowCount ≤ Coordinate.limit + 1 + breaks ∧
      (∀ row, text.rowLength row ≤ Coordinate.limit + characters) ∧
      (∀ word, Coordinate.limit + 1 + characters < word →
        Buffer.empty.performAll? word done = some text) ∧
      (characters < Nat.pow 2 63 →
        Buffer.empty.performAll? (Nat.pow 2 64) done = some text) := by
  intro text breaks characters
  have hplain : ∀ a ∈ done, a.IsPlain := fun a ha => plain_walk hreg b a (hdone.subset ha)
  have hgrown := Buffer.GrownBy.empty.performAll hplain
  rw [Nat.zero_add, Nat.zero_add] at hgrown
  have hchecked : ∀ word, Coordinate.limit + 1 + characters < word →
      Buffer.empty.performAll? word done = some text := by
    intro word hword
    apply Buffer.GrownBy.empty.performAll?_eq_some hplain
    rw [Nat.zero_add]
    exact hword
  refine ⟨fun t place mode hmem => (hplain _ hmem).2, hgrown.rows, hgrown.cells, hchecked,
    fun hfew => hchecked _ ?_⟩
  have hlimit : Coordinate.limit = 1048576 := rfl
  have hhalf : Nat.pow 2 63 = 9223372036854775808 := rfl
  have hwhole : Nat.pow 2 64 = 18446744073709551616 := rfl
  omega

/-- A call that is written over three rows, behind a name with a line break in it, and then a
    statement in a row beyond the limit. It ends the walk, and nothing has been written for it. -/
theorem walk_growsWithin_until_failure :
    let reg := Registry.standard.remove "AstExprGroup"
    let call : Node := .call ⟨"1,2 - 3,0"⟩ (.atom ⟨"1,2 - 1,3"⟩ (.global "f\n")) []
    let b : Block := ⟨⟨""⟩, false, [.exprStat ⟨""⟩ call, .atom ⟨"1048577,0 - 0,0"⟩ .breakStat]⟩
    let done := (walk reg b).actions
    let text := Buffer.empty.performAll done
    reg.IsBuiltIn ∧ (walk reg b).result.toOption = none ∧
      written done = ['f', '\n', '(', ')'] ∧ text.render = "\n  f\n(\n)" ∧
      Buffer.empty.performAll? (Nat.pow 2 64) done = some text := by
  intro reg call b done text
  have hreg : reg.IsBuiltIn := Registry.isBuiltIn_standard.remove _
  have hwritten : written done = ['f', '\n', '(', ')'] := by decide +kernel
  have hfew : (written done).length < Nat.pow 2 63 := by
    rw [hwritten]
    decide
  obtain ⟨-, -, -, -, hchecked⟩ := walk_growsWithin hreg b (List.prefix_refl done)
  exact ⟨hreg, by decide +kernel, hwritten, by decide +kernel, hchecked hfew⟩

end Render
end LuauLayout
