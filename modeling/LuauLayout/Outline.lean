/-
  LuauLayout.Outline

  Values laid out for a reader: words, named tuples and records, lists, and
  tables with quoted keys. An outline is printed in two ways.

    * `compact` — on one line, parts separated by a comma and a space.
    * `pretty`  — every part on a line of its own, four columns further in than
      what holds it and followed by a comma. A list or a table without parts
      stays on its line.
-/

import LuauLayout.Text.Quoted

namespace LuauLayout

/-- A value as a tree of named parts. `label` is what stands before the bracket
    of a list or a table. -/
inductive Outline where
  | word (text : String)
  | tuple (name : String) (parts : List Outline)
  | record (name : String) (fields : List (String × Outline))
  | list (label : String) (items : List Outline)
  | table (label : String) (entries : List (String × Outline))

namespace Outline

/-! ## On one line -/

mutual

/-- The outline on one line. -/
def compact : Outline → String
  | .word text => text
  | .tuple name parts => name ++ "(" ++ compactItems "" parts ++ ")"
  | .record name fields => name ++ " \x7b " ++ compactFields "" fields ++ " \x7d"
  | .list label items => label ++ "[" ++ compactItems "" items ++ "]"
  | .table label entries => label ++ "\x7b" ++ compactEntries "" entries ++ "\x7d"

/-- Items, each after the first preceded by a comma. -/
def compactItems (before : String) : List Outline → String
  | [] => ""
  | item :: rest => before ++ item.compact ++ compactItems ", " rest

/-- Fields under their plain names. -/
def compactFields (before : String) : List (String × Outline) → String
  | [] => ""
  | (name, value) :: rest => before ++ name ++ ": " ++ value.compact ++ compactFields ", " rest

/-- Entries under their quoted keys. -/
def compactEntries (before : String) : List (String × Outline) → String
  | [] => ""
  | (key, value) :: rest =>
    before ++ Text.quote key ++ ": " ++ value.compact ++ compactEntries ", " rest

end

/-! ## On many lines -/

/-- One more level of indentation. -/
def deeper (margin : String) : String := margin ++ "    "

mutual

/-- The outline over several lines; `margin` stands before its closing bracket. -/
def prettyAt (margin : String) : Outline → String
  | .word text => text
  | .tuple name parts => name ++ "(\n" ++ prettyItems (deeper margin) parts ++ margin ++ ")"
  | .record name fields =>
    name ++ " \x7b\n" ++ prettyFields (deeper margin) fields ++ margin ++ "\x7d"
  | .list label [] => label ++ "[]"
  | .list label (item :: rest) =>
    label ++ "[\n" ++ deeper margin ++ item.prettyAt (deeper margin) ++ ",\n"
      ++ prettyItems (deeper margin) rest ++ margin ++ "]"
  | .table label [] => label ++ "\x7b\x7d"
  | .table label ((key, value) :: rest) =>
    label ++ "\x7b\n" ++ deeper margin ++ Text.quote key ++ ": "
      ++ value.prettyAt (deeper margin) ++ ",\n"
      ++ prettyEntries (deeper margin) rest ++ margin ++ "\x7d"

/-- Items, each on a line of its own after the margin. -/
def prettyItems (margin : String) : List Outline → String
  | [] => ""
  | item :: rest => margin ++ item.prettyAt margin ++ ",\n" ++ prettyItems margin rest

/-- Fields, each on a line of its own after the margin. -/
def prettyFields (margin : String) : List (String × Outline) → String
  | [] => ""
  | (name, value) :: rest =>
    margin ++ name ++ ": " ++ value.prettyAt margin ++ ",\n" ++ prettyFields margin rest

/-- Entries, each on a line of its own after the margin. -/
def prettyEntries (margin : String) : List (String × Outline) → String
  | [] => ""
  | (key, value) :: rest =>
    margin ++ Text.quote key ++ ": " ++ value.prettyAt margin ++ ",\n"
      ++ prettyEntries margin rest

end

/-- The outline over several lines. -/
def pretty (o : Outline) : String := o.prettyAt ""

end Outline
end LuauLayout
