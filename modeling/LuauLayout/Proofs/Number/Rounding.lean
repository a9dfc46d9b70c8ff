/-
  LuauLayout.Proofs.Number.Rounding

  Rounding, against its meaning in exact arithmetic.

  `Double.magnitude r` is the rational number of rank `r`; the infinity counts as
  the magnitude behind the greatest finite one. `IsNearest q r` says that no
  magnitude is nearer to `q` than that of `r`, and that `r` is even if another is
  as near.

    * `Double.isNearest_nearestRank` — rounding by ranks gives the nearest one.
    * `Double.IsNearest.unique`, `.monotone` — there is only one, and rounding
      keeps the order, so what rounds to a magnitude is an interval.
    * `Double.isNearest_of_close`    — what lies within half of the spacing.
-/

import LuauLayout.Number.Decimal
import Mathlib.Algebra.Order.Field.Power
import Mathlib.Data.Rat.Floor
import Mathlib.Tactic.FieldSimp
import Mathlib.Tactic.Linarith
import Mathlib.Tactic.Positivity

namespace LuauLayout

/-! ## Exact values -/

/-- The rational number that a fraction is. -/
def Fraction.toRat (x : Fraction) : ℚ := x.num / x.den

/-- The rational number that a dyadic magnitude is. -/
def Dyadic.toRat (d : Dyadic) : ℚ := d.significand * 2 ^ d.exponent

/-- The rational number that a decimal is. -/
def Decimal.toRat (d : Decimal) : ℚ := d.significand * 10 ^ d.exponent

namespace Fraction

variable {x : Fraction} {base : ℕ}

theorem toRat_scale (hbase : 0 < base) (k : ℤ) (x : Fraction) :
    (x.scale base k).toRat = x.toRat * (base : ℚ) ^ k := by
  have hne : (base : ℚ) ≠ 0 := by positivity
  unfold scale toRat
  split
  · rename_i hk
    obtain ⟨n, rfl⟩ := Int.eq_ofNat_of_zero_le hk
    simp only [Int.toNat_natCast, Nat.pow_eq, Nat.cast_mul, Nat.cast_pow, zpow_natCast]
    ring
  · rename_i hk
    obtain ⟨n, hn⟩ : ∃ n : ℕ, k = -(n : ℤ) := ⟨(-k).toNat, by omega⟩
    subst hn
    simp only [neg_neg, Int.toNat_natCast, Nat.pow_eq, Nat.cast_mul, Nat.cast_pow, zpow_neg,
      zpow_natCast]
    field_simp

theorem den_scale_pos (hbase : 0 < base) (h : 0 < x.den) (k : ℤ) : 0 < (x.scale base k).den := by
  unfold scale
  split
  · exact h
  · exact Nat.mul_pos h (Nat.pow_pos hbase)

theorem toRat_pos (hnum : 0 < x.num) (hden : 0 < x.den) : 0 < x.toRat := by
  unfold toRat
  positivity

/-- The integer part and what is left of a fraction. -/
theorem toRat_eq (hden : 0 < x.den) : x.toRat = x.floor + ((x.num % x.den : ℕ) : ℚ) / x.den := by
  have hdiv : (x.den * x.floor + x.num % x.den : ℕ) = x.num := Nat.div_add_mod x.num x.den
  have hne : (x.den : ℚ) ≠ 0 := by positivity
  have hcast : (x.num : ℚ) = x.den * x.floor + ((x.num % x.den : ℕ) : ℚ) := by exact_mod_cast hdiv.symm
  rw [toRat, hcast]
  field_simp

theorem floor_le (hden : 0 < x.den) : (x.floor : ℚ) ≤ x.toRat := by
  rw [toRat_eq hden, le_add_iff_nonneg_right]
  positivity

theorem lt_floor_add_one (hden : 0 < x.den) : x.toRat < x.floor + 1 := by
  have hrest : ((x.num % x.den : ℕ) : ℚ) < x.den := by exact_mod_cast Nat.mod_lt x.num hden
  have hpos : (0 : ℚ) < x.den := by positivity
  rw [toRat_eq hden, add_lt_add_iff_left, div_lt_one hpos]
  exact hrest

theorem rest_lt_half_iff (hden : 0 < x.den) :
    ((x.num % x.den : ℕ) : ℚ) / x.den < 1 / 2 ↔ 2 * (x.num % x.den) < x.den := by
  have hpos : (0 : ℚ) < x.den := by positivity
  rw [div_lt_iff₀ hpos, ← Nat.cast_lt (α := ℚ)]
  push_cast
  constructor <;> intro h <;> linarith

theorem half_lt_rest_iff (hden : 0 < x.den) :
    1 / 2 < ((x.num % x.den : ℕ) : ℚ) / x.den ↔ x.den < 2 * (x.num % x.den) := by
  have hpos : (0 : ℚ) < x.den := by positivity
  rw [lt_div_iff₀ hpos, ← Nat.cast_lt (α := ℚ)]
  push_cast
  constructor <;> intro h <;> linarith

/-- Rounding to an integer is off by a half at most, and by a half only towards the even one. -/
theorem roundEven_spec (hden : 0 < x.den) :
    |x.toRat - x.roundEven| ≤ 1 / 2 ∧
      (|x.toRat - x.roundEven| = 1 / 2 → x.roundEven % 2 = 0) := by
  have hlow := floor_le hden
  have hhigh := lt_floor_add_one hden
  have hrest : ((x.num % x.den : ℕ) : ℚ) / x.den = x.toRat - x.floor := by
    rw [toRat_eq hden, add_sub_cancel_left]
  have hhalf_lt := rest_lt_half_iff hden
  have hlt_half := half_lt_rest_iff hden
  rw [hrest] at hhalf_lt hlt_half
  -- the distances to the two integers next to the fraction
  have hdown : |x.toRat - x.floor| = x.toRat - x.floor := abs_of_nonneg (sub_nonneg.mpr hlow)
  have hup : |x.toRat - (x.floor + 1 : ℕ)| = x.floor + 1 - x.toRat := by
    push_cast
    rw [abs_of_neg (sub_neg.mpr hhigh), neg_sub]
  have hfloor : x.num / x.den = x.floor := rfl
  simp only [roundEven, hfloor]
  split
  · -- nearer to the integer below
    rename_i h
    have hlt := hhalf_lt.mpr h
    rw [hdown]
    exact ⟨hlt.le, fun heq => absurd heq hlt.ne⟩
  split
  · -- nearer to the integer above
    rename_i h
    have hlt := hlt_half.mpr h
    rw [hup]
    exact ⟨by linarith, fun heq => by linarith⟩
  · -- in the middle between them
    rename_i h h'
    have hmiddle : x.toRat - x.floor = 1 / 2 :=
      le_antisymm (not_lt.mp fun hc => h' (hlt_half.mp hc)) (not_lt.mp fun hc => h (hhalf_lt.mp hc))
    split
    · rename_i heven
      rw [hdown]
      exact ⟨hmiddle.le, fun _ => heven⟩
    · rename_i hodd
      rw [hup]
      exact ⟨by linarith, fun _ => by omega⟩

/-- The exponent of the greatest power of two not above a fraction. -/
theorem log2_spec (hnum : 0 < x.num) (hden : 0 < x.den) :
    (2 : ℚ) ^ x.log2 ≤ x.toRat ∧ x.toRat < 2 ^ (x.log2 + 1) := by
  have htwo : (2 : ℚ) ≠ 0 := two_ne_zero
  have hdenPos : (0 : ℚ) < x.den := by positivity
  -- numerator and denominator between powers of two
  have hnumLow : (2 : ℚ) ^ (x.num.log2 : ℤ) ≤ x.num := by
    exact_mod_cast Nat.log2_self_le hnum.ne'
  have hnumHigh : (x.num : ℚ) < 2 ^ ((x.num.log2 : ℤ) + 1) := by
    exact_mod_cast (Nat.lt_log2_self : x.num < 2 ^ (x.num.log2 + 1))
  have hdenLow : (2 : ℚ) ^ (x.den.log2 : ℤ) ≤ x.den := by
    exact_mod_cast Nat.log2_self_le hden.ne'
  have hdenHigh : (x.den : ℚ) < 2 ^ ((x.den.log2 : ℤ) + 1) := by
    exact_mod_cast (Nat.lt_log2_self : x.den < 2 ^ (x.den.log2 + 1))
  set l : ℤ := (x.num.log2 : ℤ) - x.den.log2 with hl
  have hlow : (2 : ℚ) ^ (l - 1) < x.toRat := by
    rw [toRat, lt_div_iff₀ hdenPos]
    calc (2 : ℚ) ^ (l - 1) * x.den < 2 ^ (l - 1) * 2 ^ ((x.den.log2 : ℤ) + 1) := by gcongr
      _ = 2 ^ (x.num.log2 : ℤ) := by rw [← zpow_add₀ htwo]; congr 1; omega
      _ ≤ x.num := hnumLow
  have hhigh : x.toRat < 2 ^ (l + 1) := by
    rw [toRat, div_lt_iff₀ hdenPos]
    calc (x.num : ℚ) < 2 ^ ((x.num.log2 : ℤ) + 1) := hnumHigh
      _ = 2 ^ (l + 1) * 2 ^ (x.den.log2 : ℤ) := by rw [← zpow_add₀ htwo]; congr 1; omega
      _ ≤ 2 ^ (l + 1) * x.den := by gcongr
  -- the comparison that settles which of the two it is
  have hscaled : (x.scale 2 (-l)).toRat = x.toRat * 2 ^ (-l) := toRat_scale (by decide) (-l) x
  have hcompare : (x.scale 2 (-l)).num < (x.scale 2 (-l)).den ↔ x.toRat < 2 ^ l := by
    have hden' : 0 < (x.scale 2 (-l)).den := den_scale_pos (by decide) hden (-l)
    have hpos : (0 : ℚ) < (x.scale 2 (-l)).den := by exact_mod_cast hden'
    have hlt_one : (x.scale 2 (-l)).toRat < 1 ↔ (x.scale 2 (-l)).num < (x.scale 2 (-l)).den := by
      rw [toRat, div_lt_one hpos, Nat.cast_lt]
    rw [← hlt_one, hscaled, zpow_neg, ← div_eq_mul_inv, div_lt_one (by positivity)]
  have hlog2 : x.log2 = if (x.scale 2 (-l)).num < (x.scale 2 (-l)).den then l - 1 else l := rfl
  rw [hlog2]
  split
  · rename_i h
    rw [sub_add_cancel]
    exact ⟨hlow.le, hcompare.mp h⟩
  · rename_i h
    exact ⟨not_lt.mp fun hlt => h (hcompare.mpr hlt), hhigh⟩

end Fraction

theorem Dyadic.toRat_toFraction (d : Dyadic) : d.toFraction.toRat = d.toRat := by
  rw [toFraction, Fraction.toRat_scale (by decide), toRat, Fraction.toRat]
  simp

theorem Dyadic.den_toFraction_pos (d : Dyadic) : 0 < d.toFraction.den :=
  Fraction.den_scale_pos (by decide) Nat.one_pos _

theorem Decimal.toRat_toFraction (d : Decimal) : d.toFraction.toRat = d.toRat := by
  rw [toFraction, Fraction.toRat_scale (by decide), toRat, Fraction.toRat]
  simp

theorem Decimal.den_toFraction_pos (d : Decimal) : 0 < d.toFraction.den :=
  Fraction.den_scale_pos (by decide) Nat.one_pos _

/-! ## Magnitudes -/

namespace Double

/-- The magnitude of a rank; that of the infinity is the one behind the greatest finite one. -/
def magnitude (rank : ℕ) : ℚ := (dyadicOfRank rank).toRat

theorem magnitude_of_lt {rank : ℕ} (h : rank < 2 ^ 52) :
    magnitude rank = rank * 2 ^ minExponent := by
  simp only [magnitude, dyadicOfRank, Nat.pow_eq]
  rw [if_pos h, Dyadic.toRat]

theorem magnitude_of_le {rank : ℕ} (h : 2 ^ 52 ≤ rank) :
    magnitude rank = (2 ^ 52 + rank % 2 ^ 52 : ℕ) * 2 ^ ((rank / 2 ^ 52 : ℕ) - 1 + minExponent) := by
  simp only [magnitude, dyadicOfRank, Nat.pow_eq]
  rw [if_neg (Nat.not_lt.mpr h), Dyadic.toRat]

/-- Within a run of ranks the magnitudes are the multiples of the spacing; the end of a run is the
    beginning of the next. -/
theorem magnitude_run {run m : ℕ} (hm : m ≤ 2 ^ 53) (hrun : run = 0 ∨ 2 ^ 52 ≤ m) :
    magnitude (run * 2 ^ 52 + m) = m * 2 ^ ((run : ℤ) + minExponent) := by
  by_cases hsmall : run * 2 ^ 52 + m < 2 ^ 52
  · obtain rfl : run = 0 := by omega
    rw [magnitude_of_lt hsmall]
    simp
  · rw [magnitude_of_le (Nat.not_lt.mp hsmall)]
    obtain hlt | rfl : m < 2 ^ 53 ∨ m = 2 ^ 53 := by omega
    · have hdiv : (run * 2 ^ 52 + m) / 2 ^ 52 = run + 1 := by omega
      have hmod : 2 ^ 52 + (run * 2 ^ 52 + m) % 2 ^ 52 = m := by omega
      rw [hdiv, hmod]
      congr 2
      push_cast
      ring
    · have hdiv : (run * 2 ^ 52 + 2 ^ 53) / 2 ^ 52 = run + 2 := by omega
      have hmod : 2 ^ 52 + (run * 2 ^ 52 + 2 ^ 53) % 2 ^ 52 = 2 ^ 52 := by omega
      have hexponent : ((run + 2 : ℕ) : ℤ) - 1 + minExponent = 1 + (run + minExponent) := by
        push_cast
        ring
      rw [hdiv, hmod, hexponent, zpow_add₀ two_ne_zero]
      push_cast
      ring

/-- Every rank is at a place in a run. -/
theorem exists_run (rank : ℕ) : ∃ run m : ℕ, rank = run * 2 ^ 52 + m ∧ m < 2 ^ 53 ∧
    (run = 0 ∨ 2 ^ 52 ≤ m) := by
  by_cases h : rank < 2 ^ 52
  · exact ⟨0, rank, by omega, by omega, .inl rfl⟩
  · exact ⟨rank / 2 ^ 52 - 1, 2 ^ 52 + rank % 2 ^ 52, by omega, by omega, .inr (by omega)⟩

/-- The magnitudes are not farther apart than `2 ^ -53` of the greater one allows. -/
theorem magnitude_succ (rank : ℕ) : magnitude rank < magnitude (rank + 1) ∧
    magnitude (rank + 1) ≤ 2 ^ 53 * (magnitude (rank + 1) - magnitude rank) := by
  obtain ⟨run, m, rfl, hm, hrun⟩ := exists_run rank
  have hunit : (0 : ℚ) < 2 ^ ((run : ℤ) + minExponent) := by positivity
  have hnext : magnitude (run * 2 ^ 52 + m + 1) =
      ((m + 1 : ℕ) : ℚ) * 2 ^ ((run : ℤ) + minExponent) := by
    rw [Nat.add_assoc]
    exact magnitude_run (by omega) (by omega)
  have hle : ((m + 1 : ℕ) : ℚ) ≤ 2 ^ 53 := by exact_mod_cast (by omega : m + 1 ≤ 2 ^ 53)
  rw [hnext, magnitude_run hm.le hrun]
  push_cast at hle ⊢
  constructor
  · nlinarith
  · nlinarith

theorem magnitude_strictMono : StrictMono magnitude :=
  strictMono_nat_of_lt_succ fun rank => (magnitude_succ rank).1

@[simp] theorem magnitude_zero : magnitude 0 = 0 := by
  rw [magnitude_of_lt (by norm_num)]
  simp

theorem magnitude_pos {rank : ℕ} (h : 0 < rank) : 0 < magnitude rank := by
  rw [← magnitude_zero]
  exact magnitude_strictMono h

theorem magnitude_nonneg (rank : ℕ) : 0 ≤ magnitude rank := by
  rw [← magnitude_zero]
  exact magnitude_strictMono.monotone (Nat.zero_le rank)

/-! ## The nearest magnitude -/

/-- No magnitude is nearer to `q` than that of `rank`; where another is as near, `rank` is the even
    one of them. -/
def IsNearest (q : ℚ) (rank : ℕ) : Prop :=
  rank ≤ infinityRank ∧ ∀ r ≤ infinityRank, r ≠ rank →
    |q - magnitude rank| ≤ |q - magnitude r| ∧
    (|q - magnitude rank| = |q - magnitude r| → rank % 2 = 0)

namespace IsNearest

variable {p q : ℚ} {r s : ℕ}

/-- A lower rank is the nearest only below the middle between the two. -/
theorem le_middle (h : IsNearest q r) (hs : s ≤ infinityRank) (hlt : r < s) :
    2 * q ≤ magnitude r + magnitude s := by
  have hdist := (h.2 s hs hlt.ne').1
  have hmagnitude := magnitude_strictMono hlt
  by_contra hcon
  rw [abs_of_pos (by linarith)] at hdist
  obtain hle | hle := le_total q (magnitude s)
  · rw [abs_of_nonpos (by linarith)] at hdist
    linarith
  · rw [abs_of_nonneg (by linarith)] at hdist
    linarith

theorem middle_le (h : IsNearest q r) (hs : s ≤ infinityRank) (hlt : s < r) :
    magnitude s + magnitude r ≤ 2 * q := by
  have hdist := (h.2 s hs hlt.ne).1
  have hmagnitude := magnitude_strictMono hlt
  by_contra hcon
  rw [abs_of_neg (by linarith)] at hdist
  obtain hle | hle := le_total q (magnitude s)
  · rw [abs_of_nonpos (by linarith)] at hdist
    linarith
  · rw [abs_of_nonneg (by linarith)] at hdist
    linarith

/-- There is only one nearest magnitude: two that are as near are both even, and what lies between
    them is nearer. -/
theorem unique (hr : IsNearest q r) (hs : IsNearest q s) : r = s := by
  have key : ∀ r s, IsNearest q r → IsNearest q s → ¬ r < s := by
    intro r s hr hs hlt
    have hmiddle : 2 * q = magnitude r + magnitude s :=
      le_antisymm (hr.le_middle hs.1 hlt) (hs.middle_le hr.1 hlt)
    have hmagnitude := magnitude_strictMono hlt
    have hdist : |q - magnitude r| = |q - magnitude s| := by
      rw [abs_of_nonneg (by linarith), abs_of_nonpos (by linarith)]
      linarith
    have hreven := (hr.2 s hs.1 hlt.ne').2 hdist
    have hseven := (hs.2 r hr.1 hlt.ne).2 hdist.symm
    have hbetween : r + 1 < s := by omega
    have hlow := magnitude_strictMono hbetween
    have hnearer := hr.le_middle (s := r + 1) (by have := hs.1; omega) (Nat.lt_succ_self r)
    linarith
  rcases lt_trichotomy r s with h | h | h
  · exact absurd h (key r s hr hs)
  · exact h
  · exact absurd h (key s r hs hr)

/-- Rounding keeps the order. -/
theorem monotone (hp : IsNearest p r) (hq : IsNearest q s) (h : p ≤ q) : r ≤ s := by
  by_contra hcon
  have hlt : s < r := Nat.not_le.mp hcon
  have hple := hp.middle_le hq.1 hlt
  have hqle := hq.le_middle hp.1 hlt
  obtain rfl : p = q := by linarith
  exact hlt.ne' (hp.unique hq)

end IsNearest

/-- Between two numbers that round to a magnitude, all do. -/
theorem IsNearest.between {a b q : ℚ} {r s : ℕ} (ha : IsNearest a r) (hb : IsNearest b r)
    (hq : IsNearest q s) (haq : a ≤ q) (hqb : q ≤ b) : s = r :=
  le_antisymm (hq.monotone hb hqb) (ha.monotone hq haq)

/-- What lies within half of the least spacing rounds to the magnitude. -/
theorem isNearest_of_close {q : ℚ} {r : ℕ} (hr : r ≤ infinityRank)
    (h : |q - magnitude r| * 2 ^ 54 < magnitude r) : IsNearest q r := by
  refine ⟨hr, fun s _ hne => ?_⟩
  have hgap : magnitude r ≤ 2 ^ 53 * |magnitude r - magnitude s| := by
    obtain hlt | hlt := Nat.lt_or_gt_of_ne hne
    · -- below: the spacing under `r`
      obtain ⟨r', rfl⟩ : ∃ r', r = r' + 1 := ⟨r - 1, by omega⟩
      have hle := magnitude_strictMono.monotone (Nat.lt_succ_iff.mp hlt)
      have hsucc := magnitude_succ r'
      rw [abs_of_pos (by linarith [hsucc.1])]
      linarith [hsucc.2]
    · -- above: the spacing over `r`
      have hle := magnitude_strictMono.monotone (Nat.succ_le_of_lt hlt)
      have hsucc := magnitude_succ r
      rw [Nat.succ_eq_add_one] at hle
      rw [abs_of_neg (by linarith [hsucc.1])]
      linarith [hsucc.2]
  have htriangle : |magnitude r - magnitude s| ≤ |q - magnitude r| + |q - magnitude s| := by
    have habs := abs_sub (q - magnitude s) (q - magnitude r)
    rw [sub_sub_sub_cancel_left] at habs
    linarith
  have hlt : |q - magnitude r| < |q - magnitude s| := by
    norm_num at h hgap
    linarith
  exact ⟨hlt.le, fun heq => absurd heq hlt.ne⟩

/-- A magnitude rounds to itself. -/
theorem isNearest_magnitude {r : ℕ} (hr : r ≤ infinityRank) : IsNearest (magnitude r) r := by
  refine ⟨hr, fun s _ hne => ?_⟩
  have hpos : 0 < |magnitude r - magnitude s| :=
    abs_pos.mpr (sub_ne_zero.mpr fun heq => hne (magnitude_strictMono.injective heq).symm)
  rw [sub_self, abs_zero]
  exact ⟨hpos.le, fun heq => absurd heq hpos.ne⟩

theorem isNearest_zero : IsNearest 0 0 := by
  rw [← magnitude_zero]
  exact isNearest_magnitude (Nat.zero_le _)

/-! ## Rounding by ranks -/

/-- For `q`, the rank `r₀` is taken and not `r`: its magnitude is nearer, or as near and `r₀` is
    even. -/
def IsPreferred (q : ℚ) (r₀ r : ℕ) : Prop :=
  |q - magnitude r₀| ≤ |q - magnitude r| ∧ (|q - magnitude r₀| = |q - magnitude r| → r₀ % 2 = 0)

namespace IsPreferred

variable {q : ℚ} {r₀ r : ℕ}

/-- Of the magnitudes below `q`, the greatest is taken. -/
theorem of_le (hq : magnitude r₀ ≤ q) (hlt : r < r₀) : IsPreferred q r₀ r := by
  have hmagnitude := magnitude_strictMono hlt
  rw [IsPreferred, abs_of_nonneg (by linarith), abs_of_pos (by linarith)]
  exact ⟨by linarith, fun heq => by linarith⟩

theorem of_ge (hq : q ≤ magnitude r₀) (hlt : r₀ < r) : IsPreferred q r₀ r := by
  have hmagnitude := magnitude_strictMono hlt
  rw [IsPreferred, abs_of_nonpos (by linarith), abs_of_neg (by linarith)]
  exact ⟨by linarith, fun heq => by linarith⟩

end IsPreferred

/-- Whatever is not below the magnitude of the infinity rounds to it. -/
theorem isNearest_infinityRank {q : ℚ} (h : magnitude infinityRank ≤ q) : IsNearest q infinityRank :=
  ⟨le_rfl, fun _ hr hne => IsPreferred.of_le h (Nat.lt_of_le_of_ne hr hne)⟩

/-- What is nearest among all ranks is nearest among those up to the infinity, once it is capped. -/
theorem isNearest_min {q : ℚ} {r₀ : ℕ} (h : ∀ r, r ≠ r₀ → IsPreferred q r₀ r) :
    IsNearest q (min r₀ infinityRank) := by
  obtain hle | hlt := le_or_gt r₀ infinityRank
  · rw [min_eq_left hle]
    exact ⟨hle, fun r _ => h r⟩
  · rw [min_eq_right hlt.le]
    refine isNearest_infinityRank ?_
    -- otherwise the infinity were nearer than a magnitude beyond it
    have hinfinity := magnitude_strictMono hlt
    have hdist := (h infinityRank hlt.ne).1
    by_contra hcon
    rw [abs_of_neg (by linarith), abs_of_nonpos (by linarith)] at hdist
    linarith

section Run

variable {run m r : ℕ} {t : ℚ}

/-- An integer that is rounded to stands at a place in the run. -/
theorem run_of_half (ht : t < 2 ^ 53) (hrun : run = 0 ∨ 2 ^ 52 ≤ t) (hhalf : |t - m| ≤ 1 / 2) :
    m ≤ 2 ^ 53 ∧ (run = 0 ∨ 2 ^ 52 ≤ m) := by
  obtain ⟨hlow, hhigh⟩ := abs_le.mp hhalf
  refine ⟨?_, hrun.imp id fun h => ?_⟩
  · have hlt : (m : ℚ) < (2 ^ 53 + 1 : ℕ) := by
      push_cast
      linarith
    exact Nat.lt_succ_iff.mp (Nat.cast_lt.mp hlt)
  · have hlt : ((2 ^ 52 : ℕ) : ℚ) < (m + 1 : ℕ) := by
      push_cast
      linarith
    exact Nat.lt_succ_iff.mp (Nat.cast_lt.mp hlt)

/-- A significand rounded to an integer is preferred to whatever is half of the spacing away. -/
theorem isPreferred_of_spacing (hm : m ≤ 2 ^ 53) (hrun : run = 0 ∨ 2 ^ 52 ≤ m)
    (hhalf : |t - m| ≤ 1 / 2) (heven : |t - m| = 1 / 2 → m % 2 = 0)
    (hfar : 1 / 2 * 2 ^ ((run : ℤ) + minExponent) ≤
      |t * 2 ^ ((run : ℤ) + minExponent) - magnitude r|) :
    IsPreferred (t * 2 ^ ((run : ℤ) + minExponent)) (run * 2 ^ 52 + m) r := by
  have hpos : (0 : ℚ) < 2 ^ ((run : ℤ) + minExponent) := by positivity
  rw [IsPreferred, magnitude_run hm hrun, ← sub_mul, abs_mul, abs_of_pos hpos]
  have hnear := mul_le_mul_of_nonneg_right hhalf hpos.le
  refine ⟨hnear.trans hfar, fun heq => ?_⟩
  have hmiddle := mul_right_cancel₀ hpos.ne' (le_antisymm hnear (heq ▸ hfar))
  have := heven hmiddle
  omega

/-- Against a lower rank: the magnitude before that of `m` is a whole step down, except at the
    beginning of a run, and there `t` is not below `m`. -/
theorem isPreferred_run_of_lt (hm : m ≤ 2 ^ 53) (hrun : run = 0 ∨ 2 ^ 52 ≤ m)
    (ht : run = 0 ∨ 2 ^ 52 ≤ t) (hhalf : |t - m| ≤ 1 / 2) (heven : |t - m| = 1 / 2 → m % 2 = 0)
    (hlt : r < run * 2 ^ 52 + m) :
    IsPreferred (t * 2 ^ ((run : ℤ) + minExponent)) (run * 2 ^ 52 + m) r := by
  have hpos : (0 : ℚ) < 2 ^ ((run : ℤ) + minExponent) := by positivity
  by_cases hedge : run = 0 ∨ 2 ^ 52 < m
  · obtain ⟨m', rfl⟩ : ∃ m', m = m' + 1 := ⟨m - 1, by omega⟩
    have hbefore : magnitude (run * 2 ^ 52 + m') = m' * 2 ^ ((run : ℤ) + minExponent) :=
      magnitude_run (by omega) (by omega)
    have hle : magnitude r ≤ magnitude (run * 2 ^ 52 + m') :=
      magnitude_strictMono.monotone (by omega)
    have hlow := (abs_le.mp hhalf).1
    refine isPreferred_of_spacing hm hrun hhalf heven (le_trans ?_ (le_abs_self _))
    push_cast at hlow
    nlinarith
  · obtain ⟨hrun0, hm0⟩ := not_or.mp hedge
    have hle : (m : ℚ) ≤ t := by
      have hcast : (m : ℚ) ≤ (2 ^ 52 : ℕ) := by exact_mod_cast Nat.not_lt.mp hm0
      push_cast at hcast
      exact hcast.trans (ht.resolve_left hrun0)
    refine .of_le ?_ hlt
    rw [magnitude_run hm hrun]
    exact mul_le_mul_of_nonneg_right hle hpos.le

/-- Against a higher rank: the magnitude behind that of `m` is a whole step up, except at the end
    of a run, and there `t` is below `m`. -/
theorem isPreferred_run_of_gt (hm : m ≤ 2 ^ 53) (hrun : run = 0 ∨ 2 ^ 52 ≤ m) (ht : t < 2 ^ 53)
    (hhalf : |t - m| ≤ 1 / 2) (heven : |t - m| = 1 / 2 → m % 2 = 0)
    (hlt : run * 2 ^ 52 + m < r) :
    IsPreferred (t * 2 ^ ((run : ℤ) + minExponent)) (run * 2 ^ 52 + m) r := by
  have hpos : (0 : ℚ) < 2 ^ ((run : ℤ) + minExponent) := by positivity
  by_cases hedge : m < 2 ^ 53
  · have hbehind : magnitude (run * 2 ^ 52 + (m + 1)) =
        (m + 1 : ℕ) * 2 ^ ((run : ℤ) + minExponent) :=
      magnitude_run (by omega) (by omega)
    have hle : magnitude (run * 2 ^ 52 + (m + 1)) ≤ magnitude r :=
      magnitude_strictMono.monotone (by omega)
    have hhigh := (abs_le.mp hhalf).2
    refine isPreferred_of_spacing hm hrun hhalf heven (le_trans ?_ (neg_le_abs _))
    rw [hbehind] at hle
    push_cast at hle
    nlinarith
  · obtain rfl : m = 2 ^ 53 := by omega
    refine .of_ge ?_ hlt
    rw [magnitude_run hm hrun]
    push_cast
    exact mul_le_mul_of_nonneg_right ht.le hpos.le

/-- Among all ranks, the infinity being no bound, the one whose significand is rounded to an integer
    is the nearest. -/
theorem isPreferred_run (ht : t < 2 ^ 53) (hrun : run = 0 ∨ 2 ^ 52 ≤ t)
    (hhalf : |t - m| ≤ 1 / 2) (heven : |t - m| = 1 / 2 → m % 2 = 0) (hr : r ≠ run * 2 ^ 52 + m) :
    IsPreferred (t * 2 ^ ((run : ℤ) + minExponent)) (run * 2 ^ 52 + m) r := by
  obtain ⟨hm, hrunm⟩ := run_of_half ht hrun hhalf
  obtain hlt | hlt := Nat.lt_or_gt_of_ne hr
  · exact isPreferred_run_of_lt hm hrunm hrun hhalf heven hlt
  · exact isPreferred_run_of_gt hm hrunm ht hhalf heven hlt

end Run

/-- Counted in the unit that it is rounded in, a fraction is below `2 ^ 53`, and not below `2 ^ 52`
    unless that unit is the least there is. -/
theorem toRat_scale_unit {x : Fraction} (hnum : 0 < x.num) (hden : 0 < x.den) {unit : ℤ}
    (hunit : unit = max (x.log2 - 52) minExponent) :
    (x.scale 2 (-unit)).toRat < 2 ^ 53 ∧
      (unit = minExponent ∨ 2 ^ 52 ≤ (x.scale 2 (-unit)).toRat) := by
  obtain ⟨hlow, hhigh⟩ := Fraction.log2_spec hnum hden
  have hscaled : (x.scale 2 (-unit)).toRat = x.toRat / 2 ^ unit := by
    rw [Fraction.toRat_scale (by decide), Nat.cast_ofNat, zpow_neg, div_eq_mul_inv]
  rw [hscaled]
  constructor
  · rw [div_lt_iff₀ (by positivity), ← zpow_natCast, ← zpow_add₀ two_ne_zero]
    exact hhigh.trans_le (zpow_le_zpow_right₀ one_le_two (by omega))
  · by_cases hleast : unit = minExponent
    · exact .inl hleast
    · have hexponent : unit = x.log2 - 52 := by omega
      refine .inr ?_
      rw [le_div_iff₀ (by positivity), ← zpow_natCast, ← zpow_add₀ two_ne_zero]
      exact le_trans (zpow_le_zpow_right₀ one_le_two (by omega)) hlow

/-- Rounding by ranks gives the nearest magnitude. -/
theorem isNearest_nearestRank {x : Fraction} (hden : 0 < x.den) :
    IsNearest x.toRat (nearestRank x) := by
  rw [nearestRank]
  split
  · rename_i hnum
    have hzero : x.toRat = magnitude 0 := by simp [Fraction.toRat, hnum]
    rw [hzero]
    exact isNearest_magnitude (Nat.zero_le _)
  · rename_i hnum
    set unit : ℤ := max (x.log2 - 52) minExponent with hunit
    obtain ⟨ht, hfirst⟩ := toRat_scale_unit (Nat.pos_of_ne_zero hnum) hden hunit
    obtain ⟨run, hrun⟩ : ∃ run : ℕ, unit = run + minExponent :=
      ⟨(unit - minExponent).toNat, by omega⟩
    have hrank : (unit - minExponent).toNat = run := by omega
    have hden' : 0 < (x.scale 2 (-unit)).den := Fraction.den_scale_pos (by decide) hden (-unit)
    obtain ⟨hhalf, heven⟩ := Fraction.roundEven_spec hden'
    have hback : x.toRat = (x.scale 2 (-unit)).toRat * 2 ^ ((run : ℤ) + minExponent) := by
      rw [Fraction.toRat_scale (by decide), ← hrun, Nat.cast_ofNat, mul_assoc,
        ← zpow_add₀ two_ne_zero, neg_add_cancel, zpow_zero, mul_one]
    simp only [hrank, Nat.pow_eq]
    refine isNearest_min fun r hr => ?_
    rw [hback]
    exact isPreferred_run ht (hfirst.imp (fun hleast => by omega) id) hhalf heven hr

theorem nearestRank_eq_iff {x : Fraction} (hden : 0 < x.den) {r : ℕ} :
    nearestRank x = r ↔ IsNearest x.toRat r := by
  constructor
  · rintro rfl
    exact isNearest_nearestRank hden
  · exact fun h => (isNearest_nearestRank hden).unique h

end Double

theorem Decimal.rank_eq_iff {d : Decimal} {r : ℕ} : d.rank = r ↔ Double.IsNearest d.toRat r := by
  rw [← toRat_toFraction]
  exact Double.nearestRank_eq_iff d.den_toFraction_pos

end LuauLayout
