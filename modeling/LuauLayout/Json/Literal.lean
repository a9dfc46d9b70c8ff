/-
  LuauLayout.Json.Literal

  Number literals of a JSON text: their grammar, and the number they stand for.

  A literal without fraction and exponent is an integer as long as it fits into
  64 bits. Any other is read in two steps, which do not always give the nearest
  double:

    * its digits are gathered into a significand of 64 bits; digits that no
      longer fit are dropped, and whole ones among them raise the exponent;
    * the significand, rounded to a double, is multiplied or divided by a power
      of ten, rounding again.
-/

import LuauLayout.Json.Basic
import LuauLayout.Number.Digits

namespace LuauLayout
namespace Json

/-- A number literal by its parts; the digits are ASCII digits. -/
structure Literal where
  negative : Bool
  whole : List Char
  fraction : Option (List Char)
  /-- Whether the exponent is negative, and its digits. -/
  exponent : Option (Bool × List Char)
  deriving DecidableEq, Repr

namespace Literal

/-! ## Grammar -/

/-- The sign, if there is one, and the rest. -/
def takeSign : List Char → Bool × List Char
  | '-' :: cs => (true, cs)
  | cs => (false, cs)

/-- The digits of the whole part: one or more, and no zero before others. -/
def takeWhole? (cs : List Char) : Option (List Char × List Char) :=
  match cs.takeWhile Char.isDigit with
  | [] => none
  | ['0'] => some (['0'], cs.drop 1)
  | '0' :: _ => none
  | ds => some (ds, cs.dropWhile Char.isDigit)

/-- A point and at least one digit, or nothing. -/
def takeFraction? : List Char → Option (Option (List Char) × List Char)
  | '.' :: cs =>
    match cs.takeWhile Char.isDigit with
    | [] => none
    | ds => some (some ds, cs.dropWhile Char.isDigit)
  | cs => some (none, cs)

/-- The sign of an exponent, if there is one, and the rest. -/
def takeExponentSign : List Char → Bool × List Char
  | '-' :: cs => (true, cs)
  | '+' :: cs => (false, cs)
  | cs => (false, cs)

/-- The letter `e`, a sign or none, and at least one digit; or nothing. -/
def takeExponent? (cs : List Char) : Option (Option (Bool × List Char) × List Char) :=
  match cs with
  | [] => some (none, [])
  | c :: rest =>
    if c = 'e' ∨ c = 'E' then
      let (negative, digits) := takeExponentSign rest
      match digits.takeWhile Char.isDigit with
      | [] => none
      | ds => some (some (negative, ds), digits.dropWhile Char.isDigit)
    else some (none, cs)

/-- The literal that these characters are, if they are one from end to end. -/
def ofChars? (cs : List Char) : Option Literal := do
  let (negative, cs) := takeSign cs
  let (whole, cs) ← takeWhole? cs
  let (fraction, cs) ← takeFraction? cs
  let (exponent, cs) ← takeExponent? cs
  if cs.isEmpty then some ⟨negative, whole, fraction, exponent⟩ else none

/-! ## Value -/

/-- Adds whole digits to a significand while it fits into 64 bits; also how many digits
    were dropped. -/
def gatherWhole : List Char → Nat → Nat × Nat
  | [], significand => (significand, 0)
  | d :: ds, significand =>
    if significand * 10 + Digits.ofChar d < Nat.pow 2 64 then
      gatherWhole ds (significand * 10 + Digits.ofChar d)
    else (significand, ds.length + 1)

/-- Adds the digits of a fraction to a significand while it fits into 64 bits; also how many
    digits were added. -/
def gatherFraction : List Char → Nat → Nat × Nat
  | [], significand => (significand, 0)
  | d :: ds, significand =>
    if significand * 10 + Digits.ofChar d < Nat.pow 2 64 then
      ((gatherFraction ds (significand * 10 + Digits.ofChar d)).1,
        (gatherFraction ds (significand * 10 + Digits.ofChar d)).2 + 1)
    else (significand, 0)

/-- Divides by `10 ^ k`, in steps of at most 308. Zero stays as it is. -/
def shrink (x : Double) (k : Nat) : Double :=
  if k ≤ 308 then x.div (.powerOfTen k)
  else if x.isZero then x
  else shrink (x.div (.powerOfTen 308)) (k - 308)
termination_by k

/-- Multiplies by `10 ^ exponent`, unless the product is infinite. -/
def scale? (x : Double) (exponent : Int) : Option Double :=
  if exponent < 0 then some (shrink x exponent.natAbs)
  else if exponent ≤ 308 then
    let y := x.mul (.powerOfTen exponent.natAbs)
    if y.isInfinite then none else some y
  else if x.isZero then some x
  else none

/-- An integer literal whose digits all fitted. A negative zero is a double, and so is what
    lies below the signed integers of 64 bits. -/
def wholeNumber (negative : Bool) (n : Nat) : JsonNumber :=
  if negative then
    if n = 0 ∨ Nat.pow 2 63 < n then .double (Double.ofInt n).neg else .integer (-n)
  else .integer n

/-- The written exponent as an integer; none is zero. -/
def exponentValue : Option (Bool × List Char) → Int
  | none => 0
  | some (true, ds) => -(Digits.value ds : Int)
  | some (false, ds) => Digits.value ds

/-- The number that a literal stands for, unless it is out of range. -/
def value? (l : Literal) : Option JsonNumber :=
  let (significand, dropped) := gatherWhole l.whole 0
  if l.fraction.isNone && l.exponent.isNone && dropped == 0 then
    some (wholeNumber l.negative significand)
  else
    let (significand, taken) := gatherFraction (l.fraction.getD []) significand
    (scale? (.ofInt significand) (dropped - taken + exponentValue l.exponent)).map fun x =>
      .double (if l.negative then x.neg else x)

end Literal
end Json
end LuauLayout
