/-
  LuauLayout.Text.Quoted

  Texts between double quotes, with everything that cannot be read off a screen
  spelled out: the usual short escapes for quote, backslash, tab, line feed,
  carriage return and NUL, and the hexadecimal code point in braces for any
  other character that `isShown` refuses.
-/

import LuauLayout.Text.Unprintable

namespace LuauLayout
namespace Text

/-- The code point of a character in lower-case hexadecimal, between braces. -/
def codePoint (c : Char) : List Char :=
  '\\' :: 'u' :: '\x7b' :: (Nat.toDigits 16 c.toNat ++ ['\x7d'])

/-- One character as it stands inside a quoted text. -/
def quoteChar (c : Char) : List Char :=
  if c = '"' then ['\\', '"']
  else if c = '\\' then ['\\', '\\']
  else if c = '\t' then ['\\', 't']
  else if c = '\n' then ['\\', 'n']
  else if c = '\r' then ['\\', 'r']
  else if c = '\x00' then ['\\', '0']
  else if isShown c then [c]
  else codePoint c

/-- A text between double quotes. -/
def quote (s : String) : String :=
  String.ofList ('"' :: (s.toList.flatMap quoteChar ++ ['"']))

end Text
end LuauLayout
