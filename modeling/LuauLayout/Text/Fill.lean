/-
  LuauLayout.Text.Fill

  Filling lines of a limited width with words.

  A line takes as many words as fit. It may be broken behind a word, whose spaces
  are then dropped, and inside a word behind a hyphen between two letters or
  numbers; what is wider than a whole line is cut at the width of the line. Line
  breaks of the text stay. Widths are counted in columns of a terminal.

    * `pieces`    — the parts of a word that stay together.
    * `Piece.cut` — the parts of a piece that is too wide.
    * `lay`       — pieces on lines, as many as fit on each.
    * `fill`      — a text with one indent in front of its first line and another
      in front of the others.
-/

import LuauLayout.Text.Alphanumeric
import LuauLayout.Text.Lines
import LuauLayout.Text.Word

namespace LuauLayout
namespace Text

/-- Characters that stay together, and the number of spaces behind them. -/
structure Piece where
  chars : List Char
  spaces : Nat
  deriving DecidableEq, Repr, Inhabited

/-- Pieces without spaces between them, and with spaces behind the last one. -/
def ofParts (spaces : Nat) : List (List Char) → List Piece
  | [] => []
  | [p] => [⟨p, spaces⟩]
  | p :: q :: rest => ⟨p, 0⟩ :: ofParts spaces (q :: rest)

/-- A text cut behind each hyphen between letters or numbers; `before` is the character in front
    of it. -/
def hyphenParts (before : Option Char) : List Char → List (List Char)
  | [] => [[]]
  | c :: rest =>
    if c = '-' && before.any isAlphanumeric && rest.head?.any isAlphanumeric then
      [c] :: hyphenParts (some c) rest
    else
      match hyphenParts (some c) rest with
      | [] => [[c]]
      | p :: ps => (c :: p) :: ps

/-- The pieces of a word. -/
def pieces (word : List Char) : List Piece :=
  let spaces := (word.reverse.takeWhile (· == ' ')).length
  ofParts spaces (hyphenParts none (word.take (word.length - spaces)))

/-- Cells cut where a part would grow wider than a width; `part` is what the first part has so
    far, and `used` its columns. A part has at least one character with columns of its own. -/
def cutCells (width : Nat) (tail part : List Char) (used : Nat) : List Cell → List (List Char)
  | [] => [part ++ tail]
  | c :: rest =>
    if 0 < used ∧ width < used + charColumns c.shown then
      (part ++ c.hidden) :: cutCells width tail [c.shown] (charColumns c.shown) rest
    else cutCells width tail (part ++ c.chars) (used + charColumns c.shown) rest

/-- A piece in parts that fit on a line. -/
def Piece.cut (width : Nat) (p : Piece) : List Piece :=
  if columns p.chars ≤ width then [p]
  else
    let (cs, tail) := cells .outside [] p.chars
    ofParts p.spaces (cutCells width tail [] 0 cs)

/-- Pieces on lines of a width, behind a line that has begun, the spaces that follow it, and the
    columns that both take. -/
def lay (width : Nat) (line : List Char) (spaces used : Nat) : List Piece → List (List Char)
  | [] => [line]
  | p :: rest =>
    let w := columns p.chars
    if width < used + w then line :: lay width p.chars p.spaces (w + p.spaces) rest
    else lay width (line ++ List.replicate spaces ' ' ++ p.chars) p.spaces (used + w + p.spaces) rest

/-- The lines of one line of text. -/
def layLine (width : Nat) (line : List Char) : List (List Char) :=
  lay width [] 0 0 (((words line).flatMap pieces).flatMap (Piece.cut width))

/-- A text on lines of a total width, behind an indent of its own for the first line. Both indents
    are equally wide. -/
def fill (first next : String) (width : Nat) (text : String) : String :=
  let laid := (split '\n' text.toList).flatMap (layLine (width - columns first.toList))
  joinLines <|
    match laid.map String.ofList with
    | [] => []
    | l :: rest => (first ++ l) :: rest.map (next ++ ·)

/-! ## Nothing is lost -/

theorem flatten_hyphenParts (before : Option Char) (text : List Char) :
    (hyphenParts before text).flatten = text := by
  induction text generalizing before with
  | nil => rfl
  | cons c rest ih =>
    simp only [hyphenParts]
    split
    · simp [ih]
    · split
      · next h => have := ih (some c); rw [h] at this; simp [← this]
      · next p ps h => have := ih (some c); rw [h] at this; simp [← this]

theorem flatten_cutCells (width : Nat) (tail part : List Char) (used : Nat) (cs : List Cell) :
    (cutCells width tail part used cs).flatten = part ++ cs.flatMap Cell.chars ++ tail := by
  induction cs generalizing part used with
  | nil => simp [cutCells]
  | cons c rest ih =>
    simp only [cutCells]
    split <;> simp [ih, Cell.chars]

end Text
end LuauLayout
