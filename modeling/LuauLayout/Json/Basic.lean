/-
  LuauLayout.Json.Basic

  JSON values.

  A number keeps apart what a JSON text keeps apart: an integer, or a double.
  The members of an object are a `SortedMap`; the reader delivers them in
  ascending key order, each key once.

    * `get?`     — the member of an object under a key.
    * `compress` — the value as a JSON text without blanks.
-/

import LuauLayout.Number.Numeral
import LuauLayout.SortedMap

namespace LuauLayout

/-- A number of a JSON text. -/
inductive JsonNumber where
  | integer (value : Int)
  | double (value : Double)
  deriving DecidableEq, Repr

/-- A JSON value. -/
inductive Json where
  | null
  | bool (value : Bool)
  | number (value : JsonNumber)
  | text (value : String)
  | list (items : List Json)
  | object (members : List (String × Json))
  deriving Inhabited

namespace Json

/-- The member of an object under a key; no other value has members. -/
def get? (key : String) : Json → Option Json
  | .object members => SortedMap.lookup? key members
  | _ => none

/-- The text that a value is, if it is one. -/
def asText? : Json → Option String
  | .text s => some s
  | _ => none

end Json

/-! ## Numbers -/

namespace JsonNumber

/-- The nearest double. -/
def toDouble : JsonNumber → Double
  | .integer i => .ofInt i
  | .double x => x

/-- The digits of an integer, after a minus sign if it is negative. -/
def integerChars (i : Int) : List Char :=
  (if i < 0 then ['-'] else []) ++ Nat.toDigits 10 i.natAbs

/-- The number as a JSON text. What is no finite number has no such text and is `null`. -/
def chars : JsonNumber → List Char
  | .integer i => integerChars i
  | .double x => if x.isFinite then Numeral.finite .data x else ['n', 'u', 'l', 'l']

end JsonNumber

/-! ## Texts and values -/

namespace Json

/-- A lower-case hexadecimal digit. -/
def hexDigit (n : Nat) : Char := Nat.digitChar n

/-- One character as it stands inside a JSON string: quotes, backslashes and control
    characters are escaped, nothing else is. -/
def escapeChar (c : Char) : List Char :=
  if c = '"' then ['\\', '"']
  else if c = '\\' then ['\\', '\\']
  else if c = '\x08' then ['\\', 'b']
  else if c = '\x0c' then ['\\', 'f']
  else if c = '\n' then ['\\', 'n']
  else if c = '\r' then ['\\', 'r']
  else if c = '\t' then ['\\', 't']
  else if c.toNat < 0x20 then
    ['\\', 'u', '0', '0', hexDigit (c.toNat / 16), hexDigit (c.toNat % 16)]
  else [c]

/-- A text as a JSON string. -/
def textChars (s : String) : List Char := '"' :: (s.toList.flatMap escapeChar ++ ['"'])

mutual

/-- The characters of a value written without blanks. -/
def chars : Json → List Char
  | .null => ['n', 'u', 'l', 'l']
  | .bool true => ['t', 'r', 'u', 'e']
  | .bool false => ['f', 'a', 'l', 's', 'e']
  | .number n => n.chars
  | .text s => textChars s
  | .list [] => ['[', ']']
  | .list (item :: rest) => '[' :: (item.chars ++ itemChars rest)
  | .object [] => ['\x7b', '\x7d']
  | .object ((key, value) :: rest) =>
    '\x7b' :: (textChars key ++ ':' :: (value.chars ++ memberChars rest))

/-- The items after the first, each behind a comma, and the closing bracket. -/
def itemChars : List Json → List Char
  | [] => [']']
  | item :: rest => ',' :: (item.chars ++ itemChars rest)

/-- The members after the first, each behind a comma, and the closing brace. -/
def memberChars : List (String × Json) → List Char
  | [] => ['\x7d']
  | (key, value) :: rest => ',' :: (textChars key ++ ':' :: (value.chars ++ memberChars rest))

end

/-- The value as a JSON text without blanks. -/
def compress (v : Json) : String := String.ofList v.chars

end Json
end LuauLayout
