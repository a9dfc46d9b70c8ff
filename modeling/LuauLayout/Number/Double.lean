/-
  LuauLayout.Number.Double

  IEEE 754 numbers of 64 bits, exactly.

  A number is its bit pattern. The 63 low bits, read as a natural number, are
  its `rank`: the ranks of the non-negative numbers ascend with their values,
  the infinity has rank `infinityRank`, and what lies above is no number.

    * `Dyadic`      — a finite magnitude `significand · 2 ^ exponent`;
      `dyadicOfRank` is the magnitude of a rank.
    * `nearestRank` — the rank of the double nearest to a fraction, ties going
      to the even one and magnitudes past the greatest double to the infinity.
    * `mul`, `div`  — the exact product or quotient, rounded once.

  Everything is computed on natural numbers, so that the kernel can evaluate it
  and statements about rounding are statements about fractions. Powers are those
  of `Nat.pow` by name: what `^` means depends on the instances in scope.
-/

namespace LuauLayout

/-- A 64-bit floating-point number, given by its bits. -/
structure Double where
  bits : UInt64
  deriving DecidableEq, Repr, Inhabited

/-- The magnitude `significand · 2 ^ exponent`. -/
structure Dyadic where
  significand : Nat
  exponent : Int
  deriving DecidableEq, Repr

/-- A non-negative fraction; its denominator is meant to be positive. -/
structure Fraction where
  num : Nat
  den : Nat
  deriving DecidableEq, Repr

namespace Fraction

/-- The fraction times a power of two or of ten. -/
def scale (base : Nat) (k : Int) (x : Fraction) : Fraction :=
  if 0 ≤ k then ⟨x.num * base.pow k.toNat, x.den⟩ else ⟨x.num, x.den * base.pow (-k).toNat⟩

/-- The greatest integer not above the fraction. -/
def floor (x : Fraction) : Nat := x.num / x.den

/-- The nearest integer; a half goes to the even neighbour. -/
def roundEven (x : Fraction) : Nat :=
  let low := x.num / x.den
  let rest := 2 * (x.num % x.den)
  if rest < x.den then low
  else if x.den < rest then low + 1
  else if low % 2 = 0 then low
  else low + 1

/-- The exponent of the greatest power of two not above a positive fraction. -/
def log2 (x : Fraction) : Int :=
  let l : Int := (x.num.log2 : Int) - (x.den.log2 : Int)
  let y := x.scale 2 (-l)
  if y.num < y.den then l - 1 else l

end Fraction

/-- The fraction that a dyadic magnitude is. -/
def Dyadic.toFraction (d : Dyadic) : Fraction := Fraction.scale 2 d.exponent ⟨d.significand, 1⟩

namespace Double

/-! ## Ranks -/

/-- The least exponent: every finite magnitude is a multiple of `2 ^ minExponent`. -/
def minExponent : Int := -1074

/-- The rank of the infinity. -/
def infinityRank : Nat := 2047 * Nat.pow 2 52

/-- The sign bit. -/
def isNegative (x : Double) : Bool := Nat.pow 2 63 ≤ x.bits.toNat

/-- The bits other than the sign. -/
def rank (x : Double) : Nat := x.bits.toNat % Nat.pow 2 63

/-- The number with this sign and rank. -/
def ofRank (negative : Bool) (rank : Nat) : Double :=
  ⟨UInt64.ofNat ((if negative then Nat.pow 2 63 else 0) + rank)⟩

/-- Neither an infinity nor a pattern that is no number. -/
def isFinite (x : Double) : Bool := x.rank < infinityRank

def isInfinite (x : Double) : Bool := x.rank == infinityRank

def isNaN (x : Double) : Bool := infinityRank < x.rank

/-- Zero, of either sign. -/
def isZero (x : Double) : Bool := x.rank == 0

/-- The number with the other sign. -/
def neg (x : Double) : Double := ofRank (!x.isNegative) x.rank

/-- The magnitude at a rank below that of the infinity: below `2 ^ 52` the ranks count
    multiples of the least magnitude, and from there on each run of `2 ^ 52` ranks has
    twice the spacing of the run before. -/
def dyadicOfRank (rank : Nat) : Dyadic :=
  if rank < Nat.pow 2 52 then ⟨rank, minExponent⟩
  else ⟨Nat.pow 2 52 + rank % Nat.pow 2 52, (rank / Nat.pow 2 52 : Nat) - 1 + minExponent⟩

/-- The magnitude of a finite number. -/
def dyadic (x : Double) : Dyadic := dyadicOfRank x.rank

/-- The magnitude of a finite number as a fraction. -/
def toFraction (x : Double) : Fraction := x.dyadic.toFraction

/-! ## Rounding -/

/-- The rank of the double nearest to a fraction. The significand is the fraction counted in
    units of the spacing at its place; a significand that rounds up to `2 ^ 53` carries into
    the next run of ranks by itself. -/
def nearestRank (x : Fraction) : Nat :=
  if x.num = 0 then 0
  else
    let unit := max (x.log2 - 52) minExponent
    min ((unit - minExponent).toNat * Nat.pow 2 52 + (x.scale 2 (-unit)).roundEven) infinityRank

/-- The double nearest to a fraction, with a sign. -/
def nearest (negative : Bool) (x : Fraction) : Double := ofRank negative (nearestRank x)

/-- The double nearest to an integer. -/
def ofInt (i : Int) : Double := nearest (i < 0) ⟨i.natAbs, 1⟩

/-- The double nearest to a power of ten. -/
def powerOfTen (k : Nat) : Double := nearest false ⟨Nat.pow 10 k, 1⟩

/-- The product of two finite numbers, rounded once. -/
def mul (x y : Double) : Double :=
  let a := x.toFraction
  let b := y.toFraction
  nearest (x.isNegative != y.isNegative) ⟨a.num * b.num, a.den * b.den⟩

/-- The quotient of two finite numbers, the second not zero, rounded once. -/
def div (x y : Double) : Double :=
  let a := x.toFraction
  let b := y.toFraction
  nearest (x.isNegative != y.isNegative) ⟨a.num * b.den, a.den * b.num⟩

end Double
end LuauLayout
