/-
  LuauLayout.Json.Reader

  Reading JSON texts.

  The reader takes the tokens one by one and keeps a stack of the lists and
  objects that are still open, so that reading is a fold over the tokens and
  the depth of nesting is the height of the stack. At most `maxDepth` may be
  open at once. A key that occurs twice has its last value.
-/

import LuauLayout.Json.Token

namespace LuauLayout
namespace Json

/-- How many lists and objects may be open at once. -/
def maxDepth : Nat := 127

/-- An open list with its items so far, newest first; or an open object with its members so
    far and the key whose value is being read. -/
inductive Frame where
  | list (items : List Json)
  | object (members : List (String × Json)) (key : String)

/-- What has to come next. -/
inductive Reader where
  /-- A value. -/
  | value (stack : List Frame)
  /-- The first item of a new list, or its end. -/
  | firstItem (stack : List Frame)
  /-- The first key of a new object, or its end. -/
  | firstKey (stack : List Frame)
  /-- A key, behind a comma. -/
  | key (members : List (String × Json)) (stack : List Frame)
  /-- The colon behind a key. -/
  | colon (members : List (String × Json)) (key : String) (stack : List Frame)
  /-- What may follow a complete value. -/
  | after (value : Json) (stack : List Frame)

namespace Reader

/-- One token where a value is due. -/
def takeValue? (stack : List Frame) : Token → Option Reader
  | .null => some (.after .null stack)
  | .bool b => some (.after (.bool b) stack)
  | .number n => some (.after (.number n) stack)
  | .text s => some (.after (.text s) stack)
  | .openBracket => if stack.length < maxDepth then some (.firstItem stack) else none
  | .openBrace => if stack.length < maxDepth then some (.firstKey stack) else none
  | _ => none

/-- One token behind a complete value: a comma, or the end of what holds the value. -/
def takeAfter? (v : Json) : List Frame → Token → Option Reader
  | .list items :: stack, .comma => some (.value (.list (v :: items) :: stack))
  | .list items :: stack, .closeBracket => some (.after (.list (v :: items).reverse) stack)
  | .object members k :: stack, .comma => some (.key (SortedMap.insert k v members) stack)
  | .object members k :: stack, .closeBrace =>
    some (.after (.object (SortedMap.insert k v members)) stack)
  | _, _ => none

/-- Takes one token; `none` when it cannot stand here. -/
def step : Reader → Token → Option Reader
  | .value stack, t => takeValue? stack t
  | .firstItem stack, .closeBracket => some (.after (.list []) stack)
  | .firstItem stack, t => takeValue? (.list [] :: stack) t
  | .firstKey stack, .closeBrace => some (.after (.object []) stack)
  | .firstKey stack, .text k => some (.colon [] k stack)
  | .firstKey _, _ => none
  | .key members stack, .text k => some (.colon members k stack)
  | .key _ _, _ => none
  | .colon members k stack, .colon => some (.value (.object members k :: stack))
  | .colon _ _ _, _ => none
  | .after v stack, t => takeAfter? v stack t

/-- The value read, once the tokens have ended. -/
def finish : Reader → Option Json
  | .after v [] => some v
  | _ => none

end Reader

/-- The value that tokens stand for. -/
def ofTokens? (ts : List Token) : Option Json :=
  (ts.foldlM Reader.step (.value [])).bind Reader.finish

/-- The value that a text stands for; `none` when it is no JSON text, holds a number out of
    range, or nests too deeply. -/
def parse? (text : String) : Option Json :=
  (tokens? text.toList).bind ofTokens?

end Json
end LuauLayout
