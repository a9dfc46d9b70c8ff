/-
  LuauLayout.Proofs.Buffer.Disjoint

  Writes that may come in any order.

  What a run of writes leaves depends on their order only where two of them meet
  in a cell and disagree on it. If no two disagree, it depends on which texts are
  written and where, and on nothing else: neither on the order nor on how often
  one of them is written. Rows and gaps are no exception, since how many there
  are is a matter of how far the texts reach.

    * `Placement.Agrees`, `Placement.Disjoint` — two texts that have the same
      characters where they meet, and two that do not meet.
    * `cell?_editAll_write`   — a cell after writes that agree.
    * `editAll_write_congr`   — the same texts leave the same buffer.
    * `editAll_of_disjoint`   — writes that do not meet.
-/

import LuauLayout.Proofs.Buffer.Recovery
import Mathlib.Data.List.Pairwise

namespace LuauLayout

namespace Placement

/-- Two texts that have the same character in every cell that both of them cover. -/
def Agrees (p q : Placement) : Prop :=
  ∀ row column c d, p.char? row column = some c → q.char? row column = some d → c = d

/-- Two texts that cover no cell in common. -/
def Disjoint (p q : Placement) : Prop :=
  ∀ row column, p.char? row column = none ∨ q.char? row column = none

variable {p q : Placement}

instance : Std.Symm Disjoint := ⟨fun _ _ h row column => (h row column).symm⟩

theorem Disjoint.agrees (h : p.Disjoint q) : p.Agrees q := by
  intro row column c d hc hd
  rcases h row column with hnone | hnone
  · rw [hnone] at hc
    cases hc
  · rw [hnone] at hd
    cases hd

theorem Agrees.refl (p : Placement) : p.Agrees p := by
  intro row column c d hc hd
  exact Option.some.inj (hc.symm.trans hd)

/-- The cells of a text are those of its lines, so only these need to be looked at. -/
theorem disjoint_iff : p.Disjoint q ↔
    ∀ i : Fin (Text.split '\n' p.text.toList).length,
      ∀ j : Fin (Text.split '\n' p.text.toList)[i].length,
        q.char? (p.place.row + i) (Text.lineStart p.place i + j) = none := by
  constructor
  · intro h i j
    have hline := List.getElem?_eq_getElem i.isLt
    have hchar := List.getElem?_eq_getElem j.isLt
    have hcovered : p.char? (p.place.row + i) (Text.lineStart p.place i + j)
        = some (Text.split '\n' p.text.toList)[i][j] :=
      Text.charAt?_eq_some_iff.mpr ⟨i, j, _, hline, hchar, rfl, rfl⟩
    rcases h (p.place.row + i) (Text.lineStart p.place i + j) with hnone | hnone
    · rw [hnone] at hcovered
      cases hcovered
    · exact hnone
  -- a cell that `p` covers at all is that of some character of some line
  · intro h row column
    cases hp : p.char? row column with
    | none => exact .inl rfl
    | some c =>
      obtain ⟨i, j, l, hl, hc, rfl, rfl⟩ := Text.charAt?_eq_some_iff.mp hp
      obtain ⟨hi, rfl⟩ := List.getElem?_eq_some_iff.mp hl
      obtain ⟨hj, -⟩ := List.getElem?_eq_some_iff.mp hc
      exact .inr (h ⟨i, hi⟩ ⟨j, hj⟩)

instance (p q : Placement) : Decidable (p.Disjoint q) := decidable_of_iff _ disjoint_iff.symm

/-- Texts of which no two meet agree with each other, and each of them with itself. -/
theorem agrees_of_pairwise {ps : List Placement} (h : ps.Pairwise Disjoint) :
    ∀ p ∈ ps, ∀ q ∈ ps, p.Agrees q := by
  intro p hp q hq
  by_cases heq : p = q
  · subst heq
    exact Agrees.refl p
  · exact (h.forall hp hq heq).agrees

end Placement

namespace Buffer

variable {ps qs : List Placement}

/-! ## Writes that agree -/

/-- Where texts agree, whichever was written last has the character of any that covers the
    cell. -/
theorem cell?_editAll_write (h : ∀ p ∈ ps, ∀ q ∈ ps, p.Agrees q) (b : Buffer)
    {p : Placement} (hp : p ∈ ps) {row column : Nat} {c : Char}
    (hc : p.char? row column = some c) : (b.editAll (ps.map .write)).cell? row column = some c := by
  rw [cell?_editAll, placements_map_write]
  cases hlast : ps.reverse.findSome? fun q => q.char? row column with
  | none =>
    have hnone := List.findSome?_eq_none_iff.mp hlast p (List.mem_reverse.mpr hp)
    rw [hnone] at hc
    cases hc
  | some d =>
    obtain ⟨q, hq, hd⟩ := List.exists_of_findSome?_eq_some hlast
    have hcd : c = d := h p hp q (List.mem_reverse.mp hq) row column c d hc hd
    rw [hcd, Option.some_or]

/-- A cell that no text covers keeps what it held. -/
theorem cell?_editAll_write_of_uncovered (b : Buffer) {row column : Nat}
    (h : ∀ p ∈ ps, p.char? row column = none) :
    (b.editAll (ps.map .write)).cell? row column = b.cell? row column := by
  have hnone : (ps.reverse.findSome? fun p => p.char? row column) = none :=
    List.findSome?_eq_none_iff.mpr fun p hp => h p (List.mem_reverse.mp hp)
  rw [cell?_editAll, placements_map_write, hnone, Option.none_or]

/-- Texts that agree leave the same buffer whenever the same ones are written, in whatever order
    and however often. -/
theorem editAll_write_congr (hmem : ∀ p, p ∈ ps ↔ p ∈ qs) (h : ∀ p ∈ ps, ∀ q ∈ ps, p.Agrees q)
    (b : Buffer) : b.editAll (ps.map .write) = b.editAll (qs.map .write) := by
  have hqs : ∀ p ∈ qs, ∀ q ∈ qs, p.Agrees q :=
    fun p hp q hq => h p ((hmem p).mpr hp) q ((hmem q).mpr hq)
  apply eq_of_view
  · -- the number of rows and their lengths are known by their bounds, which name the texts
    apply eq_of_forall_ge_iff
    intro n
    simp only [rowCount_editAll_le_iff, placements_map_write, hmem]
  · intro row
    apply eq_of_forall_ge_iff
    intro n
    simp only [rowLength_editAll_le_iff, placements_map_write, hmem]
  · intro row column
    by_cases hcovered : ∃ p ∈ ps, ∃ c, p.char? row column = some c
    · obtain ⟨p, hp, c, hc⟩ := hcovered
      rw [cell?_editAll_write h b hp hc, cell?_editAll_write hqs b ((hmem p).mp hp) hc]
    · have hnone : ∀ p ∈ ps, p.char? row column = none := by
        intro p hp
        rw [Option.eq_none_iff_forall_ne_some]
        intro c hc
        exact hcovered ⟨p, hp, c, hc⟩
      rw [cell?_editAll_write_of_uncovered b hnone,
        cell?_editAll_write_of_uncovered b fun p hp => hnone p ((hmem p).mpr hp)]

/-! ## Writes that do not meet -/

/-- Writes of which no two cover a cell in common, on any text to begin with. In whatever order
    they are made, they leave one and the same buffer; and once all of them have been made, making
    some of them again, in any order and any number of times, changes nothing. -/
theorem editAll_of_disjoint (h : ps.Pairwise Placement.Disjoint) (b : Buffer) :
    (∀ qs : List Placement, qs.Perm ps →
      b.editAll (qs.map .write) = b.editAll (ps.map .write)) ∧
    ∀ again : List Placement, (∀ p ∈ again, p ∈ ps) →
      (b.editAll (ps.map .write)).editAll (again.map .write) = b.editAll (ps.map .write) := by
  have hagree := Placement.agrees_of_pairwise h
  refine ⟨fun qs hperm => ?_, fun again hagain => ?_⟩
  · exact (editAll_write_congr (fun p => hperm.symm.mem_iff) hagree b).symm
  · have hmem : ∀ p, p ∈ ps ↔ p ∈ ps ++ again := by
      intro p
      rw [List.mem_append]
      exact ⟨.inl, fun hp => hp.elim id (hagain p)⟩
    rw [← editAll_append, ← List.map_append]
    exact (editAll_write_congr hmem hagree b).symm

/-- Over a row that holds a character and ends in a gap: a text of three lines whose second is
    empty, one in its gap, one to the right of its last line, and two empty ones, of which the
    lower opens rows. Read from the last to the first they leave the same rows. -/
theorem editAll_of_disjoint_around_gaps :
    let b : Buffer := ⟨#[#[some '-', none]]⟩
    let ps : List Placement := [⟨"do\n\nend", ⟨0, 4⟩⟩, ⟨"x", ⟨1, 3⟩⟩, ⟨"", ⟨0, 4⟩⟩, ⟨"\n", ⟨4, 9⟩⟩,
      ⟨"--", ⟨2, 5⟩⟩]
    ps.Pairwise Placement.Disjoint ∧
      b.editAll (ps.reverse.map .write) = b.editAll (ps.map .write) ∧
      (b.editAll (ps.map .write)).editAll ([⟨"", ⟨0, 4⟩⟩, ⟨"do\n\nend", ⟨0, 4⟩⟩].map .write)
        = b.editAll (ps.map .write) ∧
      (b.editAll (ps.map .write)).render = "-   do\n   x\nend  --\n\n\n" := by
  intro b ps
  have hdisjoint : ps.Pairwise Placement.Disjoint := by decide +kernel
  obtain ⟨hperm, hagain⟩ := editAll_of_disjoint hdisjoint b
  refine ⟨hdisjoint, hperm _ ps.reverse_perm, hagain _ ?_, by decide +kernel⟩
  decide +kernel

end Buffer
end LuauLayout
