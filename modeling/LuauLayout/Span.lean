/-
  LuauLayout.Span

  Where a node stands in the source text.

  A location is a text `row,column - row,column`, kept as it was written and
  read only when a place is needed: a malformed location on a node that is never
  placed does no harm. Rows and columns count from zero, and the end of a span
  is the place behind its last character.

    * `Coordinate.read` — `row,column`, with blanks around either number.
    * `Location.read`   — both ends, cut at the first dash.
    * `Span.last`       — the place of the last character.
-/

import LuauLayout.Number.Digits
import LuauLayout.Text.Blank

namespace LuauLayout

/-- A place in the text, counted from zero. -/
structure Coordinate where
  row : Nat
  column : Nat
  deriving DecidableEq, Repr, Inhabited

/-- The two numbers of a coordinate. -/
inductive Axis where
  | row
  | column
  deriving DecidableEq, Repr

/-- Why a text is no coordinate or no span. -/
inductive SpanFault where
  /-- There is no dash between two coordinates. -/
  | noDash
  /-- There is no comma between two numbers. -/
  | noComma (text : String)
  /-- A part is no natural number of 64 bits. -/
  | notANumber (axis : Axis) (text : String)
  /-- A number is greater than any that a location may name. -/
  | beyondLimit (axis : Axis) (text : String)
  deriving DecidableEq, Repr

namespace Coordinate

/-- The greatest row and the greatest column that a location may name. -/
def limit : Nat := Nat.pow 2 20

/-- The place `n` columns to the left, but not past the first column. -/
def back (c : Coordinate) (n : Nat) : Coordinate := ⟨c.row, c.column - n⟩

/-- Row and column, with a comma between them. -/
def text (c : Coordinate) : String := c.row.repr ++ "," ++ c.column.repr

end Coordinate

namespace SpanFault

/-- The name of a number inside a message. -/
def axisName : Axis → String
  | .row => "row"
  | .column => "column"

/-- What is wrong, in words. -/
def message : SpanFault → String
  | .noDash => "expected `r1,c1 - r2,c2`"
  | .noComma text => "expected `row,col`, found `" ++ text ++ "`"
  | .notANumber axis text => axisName axis ++ " `" ++ text ++ "` is not a non-negative integer"
  | .beyondLimit axis text =>
    axisName axis ++ " `" ++ text ++ "` exceeds the limit of " ++ Coordinate.limit.repr

end SpanFault

namespace Coordinate

/-- A natural number of 64 bits: a plus sign or none, and one or more ASCII digits. -/
def natural? (cs : List Char) : Option Nat :=
  let ds := match cs with
    | '+' :: rest => rest
    | _ => cs
  if ds.isEmpty || !ds.all Char.isDigit || Nat.pow 2 64 ≤ Digits.value ds then none
  else some (Digits.value ds)

/-- One of the two numbers, with blanks around it. -/
def readNumber (axis : Axis) (cs : List Char) : Except SpanFault Nat :=
  match natural? (Text.trim cs) with
  | none => .error (.notANumber axis (String.ofList (Text.trim cs)))
  | some n =>
    if limit < n then .error (.beyondLimit axis (String.ofList (Text.trim cs))) else .ok n

/-- A row and a column, cut at the first comma; the row is read first. -/
def read (cs : List Char) : Except SpanFault Coordinate :=
  match Text.cut? ',' cs with
  | none => .error (.noComma (String.ofList cs))
  | some (row, column) => do
    let row ← readNumber .row row
    let column ← readNumber .column column
    return ⟨row, column⟩

end Coordinate

/-- The places from `start` up to, but not including, `stop`. -/
structure Span where
  start : Coordinate
  stop : Coordinate
  deriving DecidableEq, Repr, Inhabited

namespace Span

/-- The place of the last character, one column before the end. -/
def last (s : Span) : Coordinate := s.stop.back 1

/-- Both ends, with a dash between them. -/
def text (s : Span) : String := s.start.text ++ " - " ++ s.stop.text

end Span

/-- The location of a node, as it was written. -/
structure Location where
  text : String
  deriving DecidableEq, Repr, Inhabited

namespace Location

/-- The span that a location names; its start is read before its end. -/
def read (l : Location) : Except SpanFault Span :=
  match Text.cut? '-' l.text.toList with
  | none => .error .noDash
  | some (start, stop) => do
    let start ← Coordinate.read (Text.trim start)
    let stop ← Coordinate.read (Text.trim stop)
    return ⟨start, stop⟩

end Location

end LuauLayout
