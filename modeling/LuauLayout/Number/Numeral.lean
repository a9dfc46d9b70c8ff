/-
  LuauLayout.Number.Numeral

  The written forms of a double.

  What digits are written is settled by `Decimal.shortest`; how they are set is
  settled by a `NumeralStyle`, one record for each place where numbers are
  written:

    * `NumeralStyle.source` — a constant in program text: never an exponent,
      and no point after a whole number.
    * `NumeralStyle.data`   — a number in a JSON text.
    * `NumeralStyle.debug`  — a number in an outline.
-/

import LuauLayout.Number.Decimal

namespace LuauLayout

/-- How the digits of a number are set. -/
structure NumeralStyle where
  /-- Whether a number whose first digit stands for `10 ^ e` is written without an exponent. -/
  positional : Int → Bool
  /-- Whether a whole number written without an exponent ends in `.0`. -/
  wholeFraction : Bool
  /-- Whether a positive exponent has a sign. -/
  plusSign : Bool
  /-- Which of two equally near digits is taken. -/
  tie : Tie

namespace NumeralStyle

/-- Constants of the source text: written out in full, whatever their magnitude. -/
def source : NumeralStyle :=
  { positional := fun _ => true, wholeFraction := false, plusSign := false, tie := .up }

/-- Numbers of a JSON text: written out from `0.00001` up to sixteen digits before the point. -/
def data : NumeralStyle :=
  { positional := fun e => -5 ≤ e && e ≤ 15, wholeFraction := true, plusSign := true,
    tie := .toEven }

/-- Numbers of an outline: written out from `0.0001` up to sixteen digits before the point. -/
def debug : NumeralStyle :=
  { positional := fun e => -4 ≤ e && e ≤ 15, wholeFraction := true, plusSign := false,
    tie := .up }

end NumeralStyle

namespace Numeral

/-- Digits with a point such that the first of them stands for `10 ^ e`: zeros are put before
    or behind as far as the point is away. -/
def setPoint (wholeFraction : Bool) (ds : List Char) (e : Int) : List Char :=
  if e < 0 then
    '0' :: '.' :: (List.replicate (-e - 1).toNat '0' ++ ds)
  else
    let whole := e.toNat + 1
    if ds.length ≤ whole then
      ds ++ List.replicate (whole - ds.length) '0' ++ (if wholeFraction then ['.', '0'] else [])
    else ds.take whole ++ '.' :: ds.drop whole

/-- Digits with a point behind the first, and the exponent `e`. -/
def setExponent (plusSign : Bool) (ds : List Char) (e : Int) : List Char :=
  let mantissa := match ds with
    | [] => []
    | [d] => [d]
    | d :: rest => d :: '.' :: rest
  let sign := if e < 0 then ['-'] else if plusSign then ['+'] else []
  mantissa ++ 'e' :: (sign ++ Nat.toDigits 10 e.natAbs)

/-- The text of a magnitude given by its rank. Zero is set like a number whose digit stands
    for one. -/
def magnitude (style : NumeralStyle) (rank : Nat) : List Char :=
  let d := Decimal.shortest style.tie rank
  let ds := d.digits
  let e : Int := if rank = 0 then 0 else d.exponent + ds.length - 1
  if style.positional e then setPoint style.wholeFraction ds e
  else setExponent style.plusSign ds e

/-- The text of a finite number, with a minus sign exactly when its sign bit is set. -/
def finite (style : NumeralStyle) (x : Double) : List Char :=
  (if x.isNegative then ['-'] else []) ++ magnitude style x.rank

end Numeral

namespace Double

/-- The text of a number as a constant of the source language: what is no number is written as
    a quotient of zeros, an infinity by its name in the library `math`, and every finite number
    in full. -/
def sourceText (x : Double) : String :=
  if x.isNaN then "0/0"
  else if x.isInfinite then (if x.isNegative then "-math.huge" else "math.huge")
  else String.ofList (Numeral.finite .source x)

/-- The text of a number in an outline. -/
def debugText (x : Double) : String :=
  if x.isNaN then "NaN"
  else if x.isInfinite then (if x.isNegative then "-inf" else "inf")
  else String.ofList (Numeral.finite .debug x)

end Double
end LuauLayout
