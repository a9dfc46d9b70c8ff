/-
  LuauLayout.Text.Escape

  What a terminal takes as an instruction and does not show.

  An escape character opens an instruction. Behind an opening bracket it runs up
  to a final character, behind a closing bracket up to a bell or to an escape
  character with a backslash; in every other case it is the one character that
  follows. What is never closed runs to the end of the text.

    * `Escape`  — where a reader stands who has come so far in a text.
    * `cells`   — the characters that are shown, each with the instructions in
      front of it; `cells_chars` says that nothing is lost.
    * `columns` — the columns that a text takes; `columns_of_ascii` says that
      printable ASCII takes one for each character.
-/

import LuauLayout.Text.Width

namespace LuauLayout
namespace Text

/-- Where a reader of a text stands. -/
inductive Escape where
  /-- In front of a character that is shown. -/
  | outside
  /-- Behind an escape character. -/
  | opened
  /-- Inside a control sequence. -/
  | control
  /-- Inside a command, behind this character. -/
  | command (last : Char)
  deriving DecidableEq, Repr, Inhabited

namespace Escape

/-- Whether the next character belongs to an instruction. -/
def hides : Escape → Char → Bool
  | .outside, c => c == '\x1b'
  | _, _ => true

/-- Where the reader stands behind the next character. -/
def next : Escape → Char → Escape
  | .outside, c => if c = '\x1b' then .opened else .outside
  | .opened, c => if c = '[' then .control else if c = ']' then .command ']' else .outside
  | .control, c => if '@' ≤ c ∧ c ≤ '~' then .outside else .control
  | .command last, c =>
    if c = '\x07' ∨ (c = '\\' ∧ last = '\x1b') then .outside else .command c

end Escape

/-- A character that is shown, and the instructions in front of it. -/
structure Cell where
  hidden : List Char
  shown : Char
  deriving DecidableEq, Repr, Inhabited

/-- The characters of a cell. -/
def Cell.chars (c : Cell) : List Char := c.hidden ++ [c.shown]

/-- The cells of a text, and the instructions behind the last one. The reader stands somewhere,
    and has passed over instructions on the way. -/
def cells (e : Escape) (hidden : List Char) : List Char → List Cell × List Char
  | [] => ([], hidden)
  | c :: rest =>
    if e.hides c then cells (e.next c) (hidden ++ [c]) rest
    else
      let (cs, tail) := cells (e.next c) [] rest
      (⟨hidden, c⟩ :: cs, tail)

/-- Nothing of a text is lost in its cells. -/
theorem cells_chars (e : Escape) (hidden text : List Char) :
    (cells e hidden text).1.flatMap Cell.chars ++ (cells e hidden text).2 = hidden ++ text := by
  induction text generalizing e hidden with
  | nil => simp [cells]
  | cons c rest ih =>
    by_cases h : e.hides c = true
    · simp [cells, h, ih]
    · simp [cells, h, ih, Cell.chars]

/-- The columns that a text takes. -/
def columns (text : List Char) : Nat :=
  (cells .outside [] text).1.foldr (fun c n => charColumns c.shown + n) 0

/-- Printable ASCII takes one column for each character. -/
theorem columns_of_ascii {text : List Char}
    (h : ∀ c ∈ text, 0x20 ≤ c.toNat ∧ c.toNat < 0x7f) : columns text = text.length := by
  unfold columns
  induction text with
  | nil => rfl
  | cons c rest ih =>
    have hc := h c (List.mem_cons_self ..)
    have hne : c ≠ '\x1b' := by
      rintro rfl
      exact absurd hc.1 (by decide)
    have ih' := ih fun d hd => h d (List.mem_cons_of_mem _ hd)
    simp only [cells, Escape.hides, Escape.next, beq_iff_eq, hne, if_false,
      List.foldr_cons, ih', charColumns_of_ascii hc.1 hc.2, List.length_cons]
    omega

end Text
end LuauLayout
