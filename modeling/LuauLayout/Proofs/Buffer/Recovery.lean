/-
  LuauLayout.Proofs.Buffer.Recovery

  A text from its tokens, in any order.

  Pieces of a text are written where they stand in it. As long as they leave out
  nothing but blanks, it does not matter in which order they come, whether they
  overlap, or how often one is written: the text that comes out is the one they
  were cut from. What is left out is a gap, and a gap is shown as a space; but
  no gap can stand at the end of a line or of the text, so a text may not end
  there in what the pieces leave out.

    * `Placement.IsPieceOf` — a piece of a line, at its place.
    * `Text.IsTight`        — a text that ends, and whose lines end, in a
      character other than a space.
    * `render_of_cover`     — the pieces of a tight text give the text.
-/

import LuauLayout.Proofs.Buffer.LastWrite

namespace LuauLayout

/-- A text that stands, without a line break, at its place in another text. -/
def Placement.IsPieceOf (p : Placement) (t : String) : Prop :=
  ∃ l, (Text.split '\n' t.toList)[p.place.row]? = some l ∧
    p.text.toList <+: l.drop p.place.column

instance (p : Placement) (t : String) : Decidable (p.IsPieceOf t) :=
  decidable_of_iff (∃ l ∈ (Text.split '\n' t.toList)[p.place.row]?,
    p.text.toList <+: l.drop p.place.column) Iff.rfl

namespace Text

/-- The last line of a text is not empty, and none of its lines ends in a space. -/
structure IsTight (t : String) : Prop where
  last : (split '\n' t.toList).getLast? ≠ some []
  ends : ∀ l ∈ split '\n' t.toList, l.getLast? ≠ some ' '

instance (t : String) : Decidable (IsTight t) :=
  decidable_of_iff ((split '\n' t.toList).getLast? ≠ some [] ∧
      ∀ l ∈ split '\n' t.toList, l.getLast? ≠ some ' ')
    ⟨fun h => ⟨h.1, h.2⟩, fun h => ⟨h.last, h.ends⟩⟩

/-- Every character of a text but its spaces is under one of the pieces. -/
def CoveredBy (t : String) (ps : List Placement) : Prop :=
  ∀ row l column c, (split '\n' t.toList)[row]? = some l → l[column]? = some c →
    c ≠ ' ' → ∃ p ∈ ps, (p.char? row column).isSome

/-- Only the characters that the text has need to be looked at. -/
theorem coveredBy_iff {t : String} {ps : List Placement} : CoveredBy t ps ↔
    ∀ row : Fin (split '\n' t.toList).length, ∀ column : Fin (split '\n' t.toList)[row].length,
      (split '\n' t.toList)[row][column] ≠ ' ' → ∃ p ∈ ps, (p.char? row column).isSome := by
  constructor
  · intro h row column
    exact h row _ column _ (List.getElem?_eq_getElem row.isLt) (List.getElem?_eq_getElem column.isLt)
  · intro h row l column c hl hc
    obtain ⟨hrow, rfl⟩ := List.getElem?_eq_some_iff.mp hl
    obtain ⟨hcolumn, rfl⟩ := List.getElem?_eq_some_iff.mp hc
    exact h ⟨row, hrow⟩ ⟨column, hcolumn⟩

instance (t : String) (ps : List Placement) : Decidable (CoveredBy t ps) :=
  decidable_of_iff _ coveredBy_iff.symm

end Text

/-! ## Pieces -/

namespace Placement

variable {p : Placement} {t : String} {row column : Nat} {c : Char}

/-- A piece of a line has no line break. -/
theorem IsPieceOf.unbroken (h : p.IsPieceOf t) : '\n' ∉ p.text.toList := by
  obtain ⟨l, hl, hpiece⟩ := h
  intro hmem
  have hin : '\n' ∈ l := List.mem_of_mem_drop (hpiece.subset hmem)
  exact Text.not_mem_of_mem_split (List.mem_of_getElem? hl) hin

/-- A text without a line break covers cells of one row. -/
theorem char?_eq_some_iff_of_unbroken (h : '\n' ∉ p.text.toList) :
    p.char? row column = some c ↔
      ∃ j, p.text.toList[j]? = some c ∧ row = p.place.row ∧ column = p.place.column + j := by
  rw [char?, Text.charAt?_eq_some_iff, Text.split_of_not_mem h]
  constructor
  · rintro ⟨i, j, l, hl, hc, hrow, hcolumn⟩
    cases i with
    | zero =>
      cases hl
      exact ⟨j, hc, hrow, hcolumn⟩
    | succ i =>
      rw [List.getElem?_cons_succ, List.getElem?_nil] at hl
      cases hl
  · rintro ⟨j, hc, hrow, hcolumn⟩
    exact ⟨0, j, _, rfl, hc, hrow, hcolumn⟩

/-- A piece has in every cell it covers the character of the whole. -/
theorem IsPieceOf.char?_eq (h : p.IsPieceOf t) (hc : p.char? row column = some c) :
    ∃ l, (Text.split '\n' t.toList)[row]? = some l ∧ l[column]? = some c := by
  obtain ⟨j, hj, rfl, rfl⟩ := (char?_eq_some_iff_of_unbroken h.unbroken).mp hc
  obtain ⟨l, hl, rest, hrest⟩ := h
  have hlt : j < p.text.toList.length := (List.getElem?_eq_some_iff.mp hj).1
  refine ⟨l, hl, ?_⟩
  rw [← List.getElem?_drop, ← hrest, List.getElem?_append_left hlt]
  exact hj

theorem IsPieceOf.rowsNeeded_le (h : p.IsPieceOf t) :
    p.rowsNeeded ≤ (Text.split '\n' t.toList).length := by
  have hbreaks := List.count_eq_zero.mpr h.unbroken
  obtain ⟨l, hl, -⟩ := h
  have hlt : p.place.row < (Text.split '\n' t.toList).length :=
    (List.getElem?_eq_some_iff.mp hl).1
  rw [rowsNeeded, hbreaks]
  omega

end Placement

/-! ## Texts from pieces -/

namespace Buffer

/-- Writes go where they say. -/
theorem placements_map_write (b : Buffer) (ps : List Placement) :
    b.placements (ps.map .write) = ps := by
  induction ps generalizing b with
  | nil => rfl
  | cons p ps ih =>
    rw [List.map_cons, placements, ih]
    rfl

variable {t : String} {ps : List Placement} {row : Nat} {l : Line}

/-- In a line of a tight text, the last character is under a piece. -/
theorem exists_piece_at_end (htight : Text.IsTight t) (hcover : Text.CoveredBy t ps)
    (hl : (Text.split '\n' t.toList)[row]? = some l) (hne : l ≠ []) :
    ∃ p ∈ ps, ∃ c, p.char? row (l.length - 1) = some c := by
  have hlast : l[l.length - 1]? = some (l.getLast hne) := by
    rw [← List.getLast?_eq_getElem?, List.getLast?_eq_some_getLast hne]
  have hspace : l.getLast hne ≠ ' ' := by
    intro heq
    apply htight.ends l (List.mem_of_getElem? hl)
    rw [List.getLast?_eq_some_getLast hne, heq]
  obtain ⟨p, hp, hsome⟩ := hcover row l _ _ hl hlast hspace
  exact ⟨p, hp, Option.isSome_iff_exists.mp hsome⟩

/-- There is a row for every line, since the last one is not empty. -/
theorem rowCount_of_cover (htight : Text.IsTight t) (hpieces : ∀ p ∈ ps, p.IsPieceOf t)
    (hcover : Text.CoveredBy t ps) :
    (empty.editAll (ps.map .write)).rowCount = (Text.split '\n' t.toList).length := by
  have hbound := fun n => rowCount_editAll_le_iff empty (ps.map .write) n
  simp only [placements_map_write] at hbound
  apply Nat.le_antisymm
  · exact (hbound _).mpr ⟨Nat.zero_le _, fun p hp => (hpieces p hp).rowsNeeded_le⟩
  · obtain ⟨-, hrows⟩ := (hbound _).mp (Nat.le_refl _)
    have hsplit : Text.split '\n' t.toList ≠ [] := Text.split_ne_nil _ _
    have hlast := List.getLast?_eq_some_getLast hsplit
    have hne : (Text.split '\n' t.toList).getLast hsplit ≠ [] := by
      intro heq
      apply htight.last
      rw [hlast, heq]
    rw [List.getLast?_eq_getElem?] at hlast
    -- the piece at the end of the last line stands in the last row
    obtain ⟨p, hp, c, hc⟩ := exists_piece_at_end htight hcover hlast hne
    obtain ⟨j, -, hrow, -⟩ :=
      (Placement.char?_eq_some_iff_of_unbroken (hpieces p hp).unbroken).mp hc
    have hneeded := hrows p hp
    rw [Placement.rowsNeeded, ← hrow] at hneeded
    omega

/-- A row is as long as its line, since a line does not end in a space. -/
theorem rowLength_of_cover (htight : Text.IsTight t) (hpieces : ∀ p ∈ ps, p.IsPieceOf t)
    (hcover : Text.CoveredBy t ps) (hl : (Text.split '\n' t.toList)[row]? = some l) :
    (empty.editAll (ps.map .write)).rowLength row = l.length := by
  have hbound := fun n => rowLength_editAll_le_iff empty (ps.map .write) row n
  simp only [placements_map_write] at hbound
  apply Nat.le_antisymm
  · refine (hbound _).mpr ⟨Nat.zero_le _, fun p hp column c hc => ?_⟩
    obtain ⟨l', hl', hcolumn⟩ := (hpieces p hp).char?_eq hc
    have hsame : l' = l := Option.some.inj (hl'.symm.trans hl)
    subst hsame
    exact (List.getElem?_eq_some_iff.mp hcolumn).1
  · obtain ⟨-, hcells⟩ := (hbound _).mp (Nat.le_refl _)
    by_cases hne : l = []
    · rw [hne, List.length_nil]
      exact Nat.zero_le _
    · obtain ⟨p, hp, c, hc⟩ := exists_piece_at_end htight hcover hl hne
      have hend := hcells p hp _ c hc
      omega

/-- A cell holds the character of the text, or it is a gap where the text has a space. -/
theorem cell?_of_cover (hpieces : ∀ p ∈ ps, p.IsPieceOf t) (hcover : Text.CoveredBy t ps)
    (hl : (Text.split '\n' t.toList)[row]? = some l) {column : Nat} {c : Char}
    (hc : l[column]? = some c) :
    ((empty.editAll (ps.map .write)).cell? row column).getD ' ' = c := by
  rw [cell?_editAll, placements_map_write]
  cases hlast : ps.reverse.findSome? fun p => p.char? row column with
  | some d =>
    -- whichever piece was the last, it has the character of the text
    obtain ⟨p, hp, hd⟩ := List.exists_of_findSome?_eq_some hlast
    obtain ⟨l', hl', hcolumn⟩ := (hpieces p (List.mem_reverse.mp hp)).char?_eq hd
    have hsame : l' = l := Option.some.inj (hl'.symm.trans hl)
    subst hsame
    exact Option.some.inj (hcolumn.symm.trans hc)
  | none =>
    by_contra hspace
    have hnone := List.findSome?_eq_none_iff.mp hlast
    obtain ⟨p, hp, hsome⟩ := hcover row l column c hl hc (fun heq => hspace heq.symm)
    rw [hnone p (List.mem_reverse.mpr hp)] at hsome
    cases hsome

/-- Pieces of a text, each written where it stands in it and together covering all but spaces,
    give the text, whatever their order, their overlaps and their number. -/
theorem render_of_cover (htight : Text.IsTight t) (hpieces : ∀ p ∈ ps, p.IsPieceOf t)
    (hcover : Text.CoveredBy t ps) : (empty.editAll (ps.map .write)).render = t := by
  have hls : (empty.editAll (ps.map .write)).lines = Text.split '\n' t.toList :=
    lines_eq_of_view (rowCount_of_cover htight hpieces hcover)
      (fun _ _ hl => rowLength_of_cover htight hpieces hcover hl)
      (fun _ _ _ _ hl hc => cell?_of_cover hpieces hcover hl hc)
  apply String.toList_inj.mp
  rw [toList_render, hls, Text.intercalate_split]

/-- A text with a blank line, from the last piece to the first: one piece spans the gap of the
    first line, one is written over it again, and one is empty. -/
theorem render_of_cover_backwards :
    let t := "if  x\n\n  end"
    let ps : List Placement := [⟨"end", ⟨2, 2⟩⟩, ⟨"x", ⟨0, 4⟩⟩, ⟨"", ⟨1, 7⟩⟩, ⟨"f  x", ⟨0, 1⟩⟩,
      ⟨"if", ⟨0, 0⟩⟩]
    (Text.IsTight t ∧ (∀ p ∈ ps, p.IsPieceOf t) ∧ Text.CoveredBy t ps) ∧
      (empty.editAll (ps.map .write)).render = t := by
  intro t ps
  have htight : Text.IsTight t := by decide +kernel
  have hpieces : ∀ p ∈ ps, p.IsPieceOf t := by decide +kernel
  have hcover : Text.CoveredBy t ps := by decide +kernel
  exact ⟨⟨htight, hpieces, hcover⟩, render_of_cover htight hpieces hcover⟩

end Buffer
end LuauLayout
