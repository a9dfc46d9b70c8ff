/-
  LuauLayout.LineDiff

  How one text differs from another, line by line.

  The common lines come from the usual table of longest common subsequences,
  kept row after row in one array, and a walk back through it from its last
  entry. Where the lines differ the walk compares the entry before the current
  one with the entry above; for the first entry of a row the one before is the
  last of the row above, so that the walk may leave the table there and miss
  common lines.

    * `table`, `walkBack`   — the lines that the texts are found to have in common.
    * `distance`            — how many lines the texts have that are not common.
    * `groups`              — runs of lines that are common, only expected, or
      only actual.
    * `print`               — the groups as marked lines.

  An empty text takes part in the grouping as no line at all.
-/

import LuauLayout.Text.Lines

namespace LuauLayout
namespace LineDiff

/-! ## Common lines -/

/-- The next row of the table, for one expected line. Entry `j` counts the common lines up to this
    line and the actual line `j`. -/
def nextRow (line : String) (actual : List String) (above : Array Nat) : Array Nat :=
  actual.foldl (fun row other =>
    let j := row.size
    row.push <|
      if other = line then (if j = 0 then 0 else above.getD (j - 1) 0) + 1
      else max (row.back?.getD 0) (above.getD j 0)) #[]

/-- The rows for all expected lines, one behind the other. -/
def table (expected actual : List String) : Array Nat :=
  (expected.foldl (fun (entries, above) line =>
    let row := nextRow line actual above
    (entries ++ row, row)) (#[], (Array.replicate actual.length 0))).1

/-- Walks back from the entry of the last of `i` expected and `j` actual lines and puts the common
    lines in front of `found`. -/
def walkBack (entries : Array Nat) (expected actual : Array String) :
    (i j : Nat) → (found : List String) → List String
  | i + 1, j + 1, found =>
    if expected[i]? = actual[j]? then
      walkBack entries expected actual i j ((expected[i]?).toList ++ found)
    -- there is no entry before the first, and the walk ends
    else if i = 0 ∧ j = 0 then found
    -- the entry above against the one before, which may be the last of the row above
    else if i = 0 ∨ entries.getD ((i - 1) * actual.size + j) 0
        < entries.getD (i * actual.size + j - 1) 0 then
      walkBack entries expected actual (i + 1) j found
    else walkBack entries expected actual i (j + 1) found
  | 0, _, found => found
  | _ + 1, 0, found => found
termination_by i j => i + j

/-- The lines that two runs of lines are found to have in common. -/
def common (expected actual : List String) : List String :=
  walkBack (table expected actual) expected.toArray actual.toArray expected.length actual.length []

/-- How many lines of either text are not common. -/
def distance (expected actual : String) : Nat :=
  (Text.lines expected).length + (Text.lines actual).length
    - 2 * (common (Text.lines expected) (Text.lines actual)).length

/-! ## Groups -/

/-- Where a line comes from. -/
inductive Mark where
  | common
  /-- Only the expected text has it. -/
  | removed
  /-- Only the actual text has it. -/
  | added
  deriving DecidableEq, Repr, Inhabited

/-- A run of lines with the same mark. -/
structure Group where
  mark : Mark
  lines : List String
  deriving DecidableEq, Repr, Inhabited

/-- The lines of a text, or of a run that makes up an empty text, for the grouping. -/
def counted (ls : List String) : List String := if ls = [""] then [] else ls

/-- Every line with its mark. Before each common line stand the lines that only one text has,
    those of the expected text first. -/
def marked : (common expected actual : List String) → List (Mark × String)
  | [], expected, actual => expected.map (.removed, ·) ++ actual.map (.added, ·)
  | c :: rest, expected, actual =>
    (expected.takeWhile (· ≠ c)).map (.removed, ·) ++ (actual.takeWhile (· ≠ c)).map (.added, ·)
      ++ (.common, c) :: marked rest (expected.dropWhile (· ≠ c)).tail
        (actual.dropWhile (· ≠ c)).tail

/-- Puts a line in front of groups. -/
def consLine (entry : Mark × String) : List Group → List Group
  | [] => [⟨entry.1, [entry.2]⟩]
  | g :: rest =>
    if g.mark = entry.1 then ⟨g.mark, entry.2 :: g.lines⟩ :: rest
    else ⟨entry.1, [entry.2]⟩ :: g :: rest

/-- The difference of two texts as groups. -/
def groups (expected actual : String) : List Group :=
  let e := Text.lines expected
  let a := Text.lines actual
  (marked (counted (common e a)) (counted e) (counted a)).foldr consLine []

/-! ## Printing -/

namespace Mark

/-- The character in front of a line. -/
def sign : Mark → String
  | .common => " "
  | .removed => "-"
  | .added => "+"

/-- The terminal's code for the colour of a mark. -/
def colour : Mark → String
  | .common => "\x1b[0m"
  | .removed => "\x1b[0m\x1b[31m"
  | .added => "\x1b[0m\x1b[32m"

end Mark

/-- The marked lines of a group that are shown. -/
def Group.shown (g : Group) : List String := (Text.shown g.lines).map (g.mark.sign ++ ·)

/-- The marked lines of a difference. -/
def shown (gs : List Group) : List String := gs.flatMap Group.shown

/-- A group on the terminal; its colour is set even if no line is shown. -/
def Group.print (colours : Bool) (g : Group) : String :=
  (if colours then g.mark.colour else "") ++ String.join (g.shown.map (· ++ "\n"))

/-- The groups on the terminal, whose colour is reset at the end. -/
def print (colours : Bool) (gs : List Group) : String :=
  String.join (gs.map (Group.print colours)) ++ if colours then "\x1b[0m" else ""

end LineDiff
end LuauLayout
