/-
  LuauLayout.Json.Token

  The tokens of a JSON text.

  `Scan.step` takes one character, so that scanning is a fold over the text.
  Words and numerals end where a character stands that cannot belong to them;
  what they mean is settled then. Strings are decoded as they are read.
-/

import LuauLayout.Json.Literal

namespace LuauLayout
namespace Json

/-- A token of a JSON text. -/
inductive Token where
  | openBrace
  | closeBrace
  | openBracket
  | closeBracket
  | comma
  | colon
  | null
  | bool (value : Bool)
  | number (value : JsonNumber)
  | text (value : String)
  deriving DecidableEq, Repr

/-- What the scanner is in the middle of. Characters read so far are kept newest first. -/
inductive Mode where
  | between
  | word (chars : List Char)
  | numeral (chars : List Char)
  | text (chars : List Char)
  | escape (chars : List Char)
  /-- Inside the four digits of a `\u` escape: how many are missing and their value so far.
      `high` is the first half of a surrogate pair that this escape has to complete. -/
  | hex (chars : List Char) (missing value : Nat) (high : Option Nat)
  /-- Behind the first half of a surrogate pair. -/
  | pairSlash (chars : List Char) (high : Nat)
  | pairLetter (chars : List Char) (high : Nat)
  deriving DecidableEq, Repr

/-- The scanner: its mode, and the tokens found so far, newest first. -/
structure Scan where
  mode : Mode
  tokens : List Token
  deriving DecidableEq, Repr

namespace Scan

/-- Nothing read yet. -/
def start : Scan := ⟨.between, []⟩

/-- The blanks of a JSON text. -/
def isSpace (c : Char) : Bool := c = ' ' || c = '\t' || c = '\n' || c = '\r'

/-- A character that can stand inside a numeral. -/
def isNumeralChar (c : Char) : Bool :=
  c.isDigit || c = '-' || c = '+' || c = '.' || c = 'e' || c = 'E'

/-- The token that a word of letters is. -/
def wordToken? (chars : List Char) : Option Token :=
  if chars = ['n', 'u', 'l', 'l'] then some .null
  else if chars = ['t', 'r', 'u', 'e'] then some (.bool true)
  else if chars = ['f', 'a', 'l', 's', 'e'] then some (.bool false)
  else none

/-- The token that a numeral is. -/
def numeralToken? (chars : List Char) : Option Token :=
  (Literal.ofChars? chars).bind fun l => l.value?.map .number

/-- One character where a token may begin. -/
def begin? (tokens : List Token) (c : Char) : Option Scan :=
  if isSpace c then some ⟨.between, tokens⟩
  else if c = '\x7b' then some ⟨.between, .openBrace :: tokens⟩
  else if c = '\x7d' then some ⟨.between, .closeBrace :: tokens⟩
  else if c = '[' then some ⟨.between, .openBracket :: tokens⟩
  else if c = ']' then some ⟨.between, .closeBracket :: tokens⟩
  else if c = ',' then some ⟨.between, .comma :: tokens⟩
  else if c = ':' then some ⟨.between, .colon :: tokens⟩
  else if c = '"' then some ⟨.text [], tokens⟩
  else if c = '-' || c.isDigit then some ⟨.numeral [c], tokens⟩
  else if c.isLower then some ⟨.word [c], tokens⟩
  else none

/-- The character that a short escape stands for. -/
def shortEscape? (c : Char) : Option Char :=
  if c = '"' then some '"'
  else if c = '\\' then some '\\'
  else if c = '/' then some '/'
  else if c = 'b' then some '\x08'
  else if c = 'f' then some '\x0c'
  else if c = 'n' then some '\n'
  else if c = 'r' then some '\r'
  else if c = 't' then some '\t'
  else none

/-- The value of a hexadecimal digit in either case. -/
def hexValue? (c : Char) : Option Nat :=
  if c.isDigit then some (c.toNat - 48)
  else if 'a' ≤ c && c ≤ 'f' then some (c.toNat - 87)
  else if 'A' ≤ c && c ≤ 'F' then some (c.toNat - 55)
  else none

/-- The mode behind the last digit of a `\u` escape. The halves of a surrogate pair only
    stand together and in order. -/
def unit? (chars : List Char) (value : Nat) : Option Nat → Option Mode
  | some high =>
    -- only the second half of a pair may follow the first
    if 0xdc00 ≤ value && value ≤ 0xdfff then
      some (.text (Char.ofNat (0x10000 + (high - 0xd800) * 0x400 + (value - 0xdc00)) :: chars))
    else none
  | none =>
    if 0xdc00 ≤ value && value ≤ 0xdfff then none
    else if 0xd800 ≤ value && value ≤ 0xdbff then some (.pairSlash chars value)
    else some (.text (Char.ofNat value :: chars))

/-- Takes one character; `none` when the text is no JSON text. -/
def step (s : Scan) (c : Char) : Option Scan :=
  match s.mode with
  | .between => begin? s.tokens c
  | .word chars =>
    if c.isLower then some { s with mode := .word (c :: chars) }
    else (wordToken? chars.reverse).bind fun t => begin? (t :: s.tokens) c
  | .numeral chars =>
    if isNumeralChar c then some { s with mode := .numeral (c :: chars) }
    else (numeralToken? chars.reverse).bind fun t => begin? (t :: s.tokens) c
  | .text chars =>
    if c = '"' then some ⟨.between, .text (String.ofList chars.reverse) :: s.tokens⟩
    else if c = '\\' then some { s with mode := .escape chars }
    else if c.toNat < 0x20 then none
    else some { s with mode := .text (c :: chars) }
  | .escape chars =>
    if c = 'u' then some { s with mode := .hex chars 4 0 none }
    else (shortEscape? c).map fun d => { s with mode := .text (d :: chars) }
  | .hex chars missing value high =>
    (hexValue? c).bind fun d =>
      if missing ≤ 1 then (unit? chars (value * 16 + d) high).map fun m => { s with mode := m }
      else some { s with mode := .hex chars (missing - 1) (value * 16 + d) high }
  | .pairSlash chars high => if c = '\\' then some { s with mode := .pairLetter chars high } else none
  | .pairLetter chars high =>
    if c = 'u' then some { s with mode := .hex chars 4 0 (some high) } else none

/-- The tokens once the text has ended; none may be left unfinished but a word or a numeral. -/
def finish (s : Scan) : Option (List Token) :=
  match s.mode with
  | .between => some s.tokens.reverse
  | .word chars => (wordToken? chars.reverse).map fun t => (t :: s.tokens).reverse
  | .numeral chars => (numeralToken? chars.reverse).map fun t => (t :: s.tokens).reverse
  | _ => none

end Scan

/-- The tokens of a text. -/
def tokens? (cs : List Char) : Option (List Token) :=
  (cs.foldlM Scan.step Scan.start).bind Scan.finish

end Json
end LuauLayout
