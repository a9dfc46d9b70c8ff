/-
  LuauLayout.Proofs.Buffer.LastWrite

  What a run of edits leaves.

  An edit writes a text in place or appends one. An append goes behind the last
  row as it is at that moment, so where it goes depends on the edits before it;
  once the places are known, a run is a list of texts at places, and of those
  the last one to cover a cell decides what it holds. Rows are only ever made
  longer and added at the end.

    * `Edit`, `Buffer.editAll` — a run of edits.
    * `Buffer.placements`      — the texts of a run at the places they got.
    * `cell?_editAll`, `rowCount_editAll_le_iff`, `rowLength_editAll_le_iff` —
      the view after a run, from that after one text.
    * `editAll_isLastWrite`    — all three together.
-/

import LuauLayout.Proofs.Buffer.Placement
import Mathlib.Order.Bounds.Basic

namespace LuauLayout

/-- A change to a text under construction that moves no row. -/
inductive Edit where
  /-- The text replaces what stands there. -/
  | write (p : Placement)
  /-- The text goes behind everything. -/
  | append (text : String)
  deriving DecidableEq, Repr

/-- The text of an edit and the place it goes to: for an append, the place behind everything that
    is there when its turn comes. -/
def Edit.placementIn (b : Buffer) : Edit → Placement
  | .write p => p
  | .append text => ⟨text, b.stop⟩

namespace Buffer

/-- The effect of an edit. -/
def edit (b : Buffer) : Edit → Buffer
  | .write p => b.writeAt p.text p.place .overwrite
  | .append text => b.append text

/-- The effect of edits, in order. -/
def editAll (b : Buffer) (es : List Edit) : Buffer := es.foldl edit b

/-- The texts of a run of edits at the places they go to. -/
def placements (b : Buffer) : List Edit → List Placement
  | [] => []
  | e :: es => e.placementIn b :: (b.edit e).placements es

theorem editAll_nil (b : Buffer) : b.editAll [] = b := rfl

theorem editAll_cons (b : Buffer) (e : Edit) (es : List Edit) :
    b.editAll (e :: es) = (b.edit e).editAll es := rfl

theorem editAll_append (b : Buffer) (es fs : List Edit) :
    b.editAll (es ++ fs) = (b.editAll es).editAll fs := List.foldl_append

/-- An append is a write behind everything. -/
theorem edit_eq_writeAt (b : Buffer) (e : Edit) :
    b.edit e = b.writeAt (e.placementIn b).text (e.placementIn b).place .overwrite := by
  cases e with
  | write p => rfl
  | append text =>
    rw [edit, append, endPlace_eq_stop]
    rfl

/-! ## The view after a run -/

/-- The last text that covers a cell decides what it holds. -/
theorem cell?_editAll (b : Buffer) (es : List Edit) (row column : Nat) :
    (b.editAll es).cell? row column =
      ((b.placements es).reverse.findSome? fun p => p.char? row column).or
        (b.cell? row column) := by
  -- on the edits from the first on, which are the ones looked at last
  induction es generalizing b with
  | nil =>
    rw [editAll_nil, placements, List.reverse_nil, List.findSome?_nil, Option.none_or]
  | cons e es ih =>
    rw [editAll_cons, ih, edit_eq_writeAt, cell?_writeAt, ← edit_eq_writeAt, placements,
      List.reverse_cons, List.findSome?_append, Option.or_assoc, List.findSome?_singleton]

theorem rowCount_editAll_le_iff (b : Buffer) (es : List Edit) (n : Nat) :
    (b.editAll es).rowCount ≤ n ↔
      b.rowCount ≤ n ∧ ∀ p ∈ b.placements es, p.rowsNeeded ≤ n := by
  induction es generalizing b with
  | nil => simp [editAll_nil, placements]
  | cons e es ih =>
    have hstep := rowCount_writeAt b (e.placementIn b)
    rw [← edit_eq_writeAt] at hstep
    rw [editAll_cons, ih, hstep, Nat.max_le, placements, List.forall_mem_cons, and_assoc]

theorem rowLength_editAll_le_iff (b : Buffer) (es : List Edit) (row n : Nat) :
    (b.editAll es).rowLength row ≤ n ↔
      b.rowLength row ≤ n ∧
        ∀ p ∈ b.placements es, ∀ column c, p.char? row column = some c → column < n := by
  induction es generalizing b with
  | nil => simp [editAll_nil, placements]
  | cons e es ih =>
    have hstep := rowLength_writeAt_le_iff b (e.placementIn b) row n
    rw [← edit_eq_writeAt] at hstep
    rw [editAll_cons, ih, hstep, placements, List.forall_mem_cons, and_assoc]

/-- A number whose upper bounds are those of a first number and of others is the greatest of
    them. -/
theorem isGreatest_insert_of_le_iff {m first : Nat} {others : Set Nat}
    (h : ∀ n, m ≤ n ↔ first ≤ n ∧ ∀ k ∈ others, k ≤ n) : IsGreatest (insert first others) m := by
  obtain ⟨hfirst, hothers⟩ := (h m).mp (Nat.le_refl m)
  refine ⟨?_, ?_⟩
  · -- otherwise all of them are smaller, and so `m` is not the least bound
    by_contra hout
    have hne : first ≠ m := fun heq => hout (heq ▸ Set.mem_insert first others)
    have hless : ∀ k ∈ others, k ≤ m - 1 := by
      intro k hk
      have hkm : k ≠ m := fun heq => hout (heq ▸ Set.mem_insert_of_mem first hk)
      have hle := hothers k hk
      omega
    have hbound := (h (m - 1)).mpr ⟨by omega, hless⟩
    omega
  · rintro k (rfl | hk)
    · exact hfirst
    · exact hothers k hk

/-- What a run of edits leaves, from any text. Every cell holds the character of the last text
    that covers it, and what it held before if none does; so no row moves. There are as many rows
    as there were or as some text needs, and every row is as long as it was or as a text reaches
    in it, whichever is most. -/
theorem editAll_isLastWrite (b : Buffer) (es : List Edit) :
    (∀ row column, (b.editAll es).cell? row column =
        ((b.placements es).reverse.findSome? fun p => p.char? row column).or
          (b.cell? row column)) ∧
      IsGreatest (insert b.rowCount {n | ∃ p ∈ b.placements es, n = p.rowsNeeded})
        (b.editAll es).rowCount ∧
      ∀ row, IsGreatest
        (insert (b.rowLength row)
          {n | ∃ p ∈ b.placements es, ∃ column c, p.char? row column = some c ∧ n = column + 1})
        ((b.editAll es).rowLength row) := by
  refine ⟨cell?_editAll b es, ?_, fun row => ?_⟩
  · apply isGreatest_insert_of_le_iff
    intro n
    rw [rowCount_editAll_le_iff]
    refine and_congr_right fun _ => ⟨?_, fun h p hp => h _ ⟨p, hp, rfl⟩⟩
    rintro h _ ⟨p, hp, rfl⟩
    exact h p hp
  · apply isGreatest_insert_of_le_iff
    intro n
    rw [rowLength_editAll_le_iff]
    refine and_congr_right fun _ => ⟨?_, fun h p hp column c hc => h _ ⟨p, hp, column, c, hc, rfl⟩⟩
    rintro h _ ⟨p, hp, column, c, hc, rfl⟩
    exact h p hp column c hc

end Buffer
end LuauLayout
