/-
  LuauLayout.Number.Decimal

  Decimals, and the shortest one that reads back as a given double.

  A decimal is `significand · 10 ^ exponent`. The search goes from coarse grids
  to fine ones: on the multiples of `10 ^ k`, only the two neighbours of the
  exact value matter, because what lies farther out on the same side rounds to
  the double only if the neighbour does. The first grid on which a neighbour
  reads back gives the fewest digits; of two neighbours that both read back the
  nearer is taken, and an exact tie is for the caller to settle.

    * `shortest tie rank` — the decimal chosen for a finite magnitude.
    * `digits`            — its significand as a list of digit characters.
-/

import LuauLayout.Number.Double

namespace LuauLayout

/-- The magnitude `significand · 10 ^ exponent`. -/
structure Decimal where
  significand : Nat
  exponent : Int
  deriving DecidableEq, Repr

/-- Which of two neighbours at the same distance is taken. -/
inductive Tie where
  | toEven
  | up
  deriving DecidableEq, Repr

namespace Decimal

/-- The fraction that a decimal is. -/
def toFraction (d : Decimal) : Fraction := Fraction.scale 10 d.exponent ⟨d.significand, 1⟩

/-- The rank of the double that a decimal is read as. -/
def rank (d : Decimal) : Nat := Double.nearestRank d.toFraction

/-- How many decimal digits a number has; zero has one. -/
def digitCount (n : Nat) : Nat := (Nat.toDigits 10 n).length

/-- Chooses between the neighbours `low` and `low + 1` of a value on a grid, given that both
    read back. `rest` over `unit` is how far the value lies above `low`. -/
def nearer (tie : Tie) (low rest unit : Nat) : Nat :=
  if 2 * rest < unit then low
  else if unit < 2 * rest then low + 1
  else match tie with
    | .toEven => if low % 2 = 0 then low else low + 1
    | .up => low + 1

/-- The neighbour on the multiples of `10 ^ k` that reads back as `rank`, if one does. -/
def onGrid? (tie : Tie) (rank : Nat) (value : Fraction) (k : Int) : Option Decimal :=
  let x := value.scale 10 (-k)
  let low := x.floor
  let lowReads := Decimal.rank ⟨low, k⟩ == rank
  let highReads := Decimal.rank ⟨low + 1, k⟩ == rank
  match lowReads, highReads with
  | true, true => some ⟨nearer tie low (x.num % x.den) x.den, k⟩
  | true, false => some ⟨low, k⟩
  | false, true => some ⟨low + 1, k⟩
  | false, false => none

/-- A power of ten, by its exponent, that is not below the value. -/
def ceilingExponent (value : Fraction) : Int :=
  if value.den ≤ value.num then digitCount (value.num / value.den)
  else 1 - (digitCount (value.den / value.num) : Int)

/-- Every binary magnitude is a decimal: a negative power of two is a power of five
    over the same power of ten. -/
def ofDyadic (d : Dyadic) : Decimal :=
  if 0 ≤ d.exponent then ⟨d.significand * Nat.pow 2 d.exponent.toNat, 0⟩
  else ⟨d.significand * Nat.pow 5 (-d.exponent).toNat, d.exponent⟩

/-- The shortest decimal that reads back as the finite magnitude of this rank, and the nearest
    of those. Seventeen digits always suffice, so the search ends on one of the grids tried. -/
def shortest (tie : Tie) (rank : Nat) : Decimal :=
  if rank = 0 then ⟨0, 0⟩
  else
    let dyadic := Double.dyadicOfRank rank
    let value := dyadic.toFraction
    let top := ceilingExponent value
    ((List.range 20).findSome? fun i : Nat => onGrid? tie rank value (top - i)).getD (ofDyadic dyadic)

/-- The digits of the significand. -/
def digits (d : Decimal) : List Char := Nat.toDigits 10 d.significand

end Decimal
end LuauLayout
