/-
  LuauLayout.Proofs.Number.Accuracy

  How far off a number is after a few roundings.

  One rounding is off by a half of the spacing (`IsNearest.error_le`), so at
  magnitudes from one on it changes a number by a factor that is hardly different
  from one (`IsNearest.near`); factors multiply along products and quotients.
  Numbers that agree up to such a factor round to ranks that are close
  (`IsNearest.le_add_five`).
-/

import LuauLayout.Proofs.Number.Rounding

namespace LuauLayout
namespace Double

/-! ## Signs and ranks of results -/

theorem infinityRank_lt : infinityRank < 2 ^ 63 := by decide

theorem rank_lt_two_pow (x : Double) : x.rank < 2 ^ 63 := Nat.mod_lt _ (by decide)

theorem rank_ofRank {rank : ℕ} (h : rank < 2 ^ 63) (negative : Bool) :
    (ofRank negative rank).rank = rank := by
  unfold ofRank
  simp only [Double.rank, UInt64.toNat_ofNat', Nat.pow_eq]
  split <;> omega

theorem isNegative_ofRank {rank : ℕ} (h : rank < 2 ^ 63) (negative : Bool) :
    (ofRank negative rank).isNegative = negative := by
  unfold ofRank
  simp only [isNegative, UInt64.toNat_ofNat', Nat.pow_eq]
  cases negative <;> simp <;> omega

@[simp] theorem rank_neg (x : Double) : x.neg.rank = x.rank := rank_ofRank x.rank_lt_two_pow _

@[simp] theorem isNegative_neg (x : Double) : x.neg.isNegative = !x.isNegative :=
  isNegative_ofRank x.rank_lt_two_pow _

theorem nearestRank_le (x : Fraction) : nearestRank x ≤ infinityRank := by
  rw [nearestRank]
  split
  · exact Nat.zero_le _
  · exact min_le_right _ _

@[simp] theorem rank_nearest (negative : Bool) (x : Fraction) :
    (nearest negative x).rank = nearestRank x :=
  rank_ofRank ((nearestRank_le x).trans_lt infinityRank_lt) negative

@[simp] theorem isNegative_nearest (negative : Bool) (x : Fraction) :
    (nearest negative x).isNegative = negative :=
  isNegative_ofRank ((nearestRank_le x).trans_lt infinityRank_lt) negative

theorem isNegative_ofInt (n : ℕ) : (ofInt n).isNegative = false := by
  rw [ofInt, isNegative_nearest, decide_eq_false (by omega)]

theorem isNegative_powerOfTen (k : ℕ) : (powerOfTen k).isNegative = false := isNegative_nearest _ _

theorem toRat_toFraction (x : Double) : x.toFraction.toRat = magnitude x.rank :=
  Dyadic.toRat_toFraction _

/-- Every magnitude has a nearest rank. -/
theorem exists_isNearest {q : ℚ} (hq : 0 ≤ q) : ∃ r, IsNearest q r := by
  refine ⟨nearestRank ⟨q.num.toNat, q.den⟩, ?_⟩
  have hvalue : Fraction.toRat ⟨q.num.toNat, q.den⟩ = q := by
    have hnum : ((q.num.toNat : ℤ) : ℚ) = q.num := by rw [Int.toNat_of_nonneg (Rat.num_nonneg.mpr hq)]
    rw [Fraction.toRat, ← Int.cast_natCast, hnum, Rat.num_div_den]
  have hnearest := isNearest_nearestRank (x := ⟨q.num.toNat, q.den⟩) q.den_pos
  rwa [hvalue] at hnearest

/-! ## The operations round once -/

theorem isNearest_ofInt (i : ℤ) : IsNearest (i.natAbs : ℚ) (ofInt i).rank := by
  have h := isNearest_nearestRank (x := ⟨i.natAbs, 1⟩) Nat.one_pos
  simpa [ofInt, Fraction.toRat] using h

theorem isNearest_powerOfTen (k : ℕ) : IsNearest ((10 : ℚ) ^ k) (powerOfTen k).rank := by
  have h := isNearest_nearestRank (x := ⟨Nat.pow 10 k, 1⟩) Nat.one_pos
  simpa [powerOfTen, Fraction.toRat] using h

theorem isNearest_mul (x y : Double) :
    IsNearest (magnitude x.rank * magnitude y.rank) (x.mul y).rank := by
  have hx : 0 < x.toFraction.den := Dyadic.den_toFraction_pos _
  have hy : 0 < y.toFraction.den := Dyadic.den_toFraction_pos _
  have h := isNearest_nearestRank (x := ⟨x.toFraction.num * y.toFraction.num,
    x.toFraction.den * y.toFraction.den⟩) (Nat.mul_pos hx hy)
  have hvalue : Fraction.toRat ⟨x.toFraction.num * y.toFraction.num,
      x.toFraction.den * y.toFraction.den⟩ = magnitude x.rank * magnitude y.rank := by
    rw [← toRat_toFraction, ← toRat_toFraction, Fraction.toRat, Fraction.toRat, Fraction.toRat]
    push_cast
    rw [div_mul_div_comm]
  rw [hvalue] at h
  rwa [mul, rank_nearest]

theorem isNearest_div (x : Double) {y : Double} (hy : 0 < y.rank) :
    IsNearest (magnitude x.rank / magnitude y.rank) (x.div y).rank := by
  have hxden : 0 < x.toFraction.den := Dyadic.den_toFraction_pos _
  have hynum : 0 < y.toFraction.num := by
    refine Nat.pos_of_ne_zero fun hzero => (magnitude_pos hy).ne' ?_
    rw [← toRat_toFraction, Fraction.toRat, hzero, Nat.cast_zero, zero_div]
  have h := isNearest_nearestRank (x := ⟨x.toFraction.num * y.toFraction.den,
    x.toFraction.den * y.toFraction.num⟩) (Nat.mul_pos hxden hynum)
  have hvalue : Fraction.toRat ⟨x.toFraction.num * y.toFraction.den,
      x.toFraction.den * y.toFraction.num⟩ = magnitude x.rank / magnitude y.rank := by
    rw [← toRat_toFraction, ← toRat_toFraction, Fraction.toRat, Fraction.toRat, Fraction.toRat]
    push_cast
    rw [div_div_div_eq]
  rw [hvalue] at h
  rwa [div, rank_nearest]

theorem magnitude_div_nonneg (x y : Double) :
    0 ≤ magnitude x.rank / magnitude y.rank :=
  div_nonneg (magnitude_nonneg _) (magnitude_nonneg _)

/-! ## Spacing -/

/-- How far the next magnitude is. -/
def spacing (rank : ℕ) : ℚ := 2 ^ (((rank / 2 ^ 52 - 1 : ℕ) : ℤ) + minExponent)

theorem magnitude_add_one (rank : ℕ) : magnitude (rank + 1) = magnitude rank + spacing rank := by
  obtain ⟨run, m, rfl, hm, hrun⟩ := exists_run rank
  have hplace : (run * 2 ^ 52 + m) / 2 ^ 52 - 1 = run := by omega
  rw [spacing, hplace, Nat.add_assoc, magnitude_run (m := m + 1) (by omega) (by omega),
    magnitude_run hm.le hrun]
  push_cast
  ring

theorem spacing_mono {r s : ℕ} (h : r ≤ s) : spacing r ≤ spacing s := by
  refine zpow_le_zpow_right₀ one_le_two ?_
  have : r / 2 ^ 52 ≤ s / 2 ^ 52 := Nat.div_le_div_right h
  omega

theorem le_spacing (rank : ℕ) : (2 : ℚ) ^ minExponent ≤ spacing rank :=
  zpow_le_zpow_right₀ one_le_two (by omega)

/-- The spacing is the least one, or small against the magnitude. -/
theorem spacing_le (rank : ℕ) : spacing rank ≤ magnitude rank / 2 ^ 52 + 2 ^ minExponent := by
  obtain ⟨run, m, rfl, hm, hrun⟩ := exists_run rank
  have hplace : (run * 2 ^ 52 + m) / 2 ^ 52 - 1 = run := by omega
  have hleast : (0 : ℚ) < 2 ^ minExponent := by positivity
  rw [spacing, hplace, magnitude_run hm.le hrun]
  obtain rfl | hle := hrun
  · -- in the first run the spacing is the least one
    have hnonneg : (0 : ℚ) ≤ m * 2 ^ (((0 : ℕ) : ℤ) + minExponent) / 2 ^ 52 := by positivity
    rw [Nat.cast_zero, zero_add] at hnonneg ⊢
    linarith
  · -- in every other run it is the magnitude over its significand
    have hunit : (0 : ℚ) < 2 ^ ((run : ℤ) + minExponent) := by positivity
    have hm : (2 : ℚ) ^ 52 ≤ m := by exact_mod_cast hle
    have hquotient : (2 : ℚ) ^ ((run : ℤ) + minExponent) ≤
        m * 2 ^ ((run : ℤ) + minExponent) / 2 ^ 52 := by
      rw [le_div_iff₀ (by positivity)]
      nlinarith
    linarith

/-- Over some ranks the magnitudes grow at least by as many times the spacing. -/
theorem magnitude_add_le (rank c : ℕ) :
    magnitude rank + c * spacing rank ≤ magnitude (rank + c) := by
  induction c with
  | zero => simp
  | succ c ih =>
    have hmono := spacing_mono (Nat.le_add_right rank c)
    rw [← Nat.add_assoc, magnitude_add_one]
    push_cast
    linarith

/-! ## Ranks that are close -/

namespace IsNearest

variable {p q : ℚ} {r s : ℕ}

/-- Numbers that differ by less than some spacings round to ranks that differ by no more. -/
theorem le_add {c : ℕ} (hp : IsNearest p s) (hq : IsNearest q r) (h : p - q < c * spacing r) :
    s ≤ r + c := by
  by_contra hcon
  have hs := hp.1
  -- if `s` were greater, the middle below it would be `c` spacings above the middle over `r`
  have hlow := hp.middle_le (s := s - 1) (by omega) (by omega)
  have hhigh := hq.le_middle (s := r + 1) (by omega) (Nat.lt_succ_self r)
  have hfirst : magnitude (r + c) ≤ magnitude (s - 1) := magnitude_strictMono.monotone (by omega)
  have hsecond : magnitude (r + 1 + c) ≤ magnitude s := magnitude_strictMono.monotone (by omega)
  have hgrow := magnitude_add_le r c
  have hgrow' := magnitude_add_le (r + 1) c
  have hmono : (c : ℚ) * spacing r ≤ c * spacing (r + 1) := by
    have := spacing_mono (Nat.le_succ r)
    gcongr
  linarith

/-- What is below the half of the least magnitude is rounded to zero. -/
theorem eq_zero (h : IsNearest q r) (hq : q < 2 ^ (minExponent - 1)) : r = 0 := by
  by_contra hr
  have hmiddle := h.middle_le (Nat.zero_le _) (Nat.pos_of_ne_zero hr)
  have hfirst : magnitude 1 ≤ magnitude r :=
    magnitude_strictMono.monotone (Nat.one_le_iff_ne_zero.mpr hr)
  have hleast : (2 : ℚ) ^ minExponent = 2 * 2 ^ (minExponent - 1) := by
    rw [← zpow_one_add₀ two_ne_zero, add_sub_cancel]
  rw [magnitude_of_lt (by decide), Nat.cast_one, one_mul] at hfirst
  rw [magnitude_zero] at hmiddle
  linarith

/-- Rounding is off by no more than a half of the spacing. -/
theorem error_le (h : IsNearest q r) (hr : r < infinityRank) (hq : 0 ≤ q) :
    |magnitude r - q| ≤ q / 2 ^ 53 + 2 ^ (minExponent - 1) := by
  have hleast : (2 : ℚ) ^ minExponent = 2 * 2 ^ (minExponent - 1) := by
    rw [mul_comm, ← zpow_add_one₀ two_ne_zero, sub_add_cancel]
  obtain hle | hlt := le_or_gt (magnitude r) q
  · -- rounded down: the middle to the next magnitude is above
    have hmiddle := h.le_middle (s := r + 1) hr (Nat.lt_succ_self r)
    have hspacing := spacing_le r
    rw [magnitude_add_one] at hmiddle
    rw [abs_of_nonpos (by linarith)]
    norm_num at hspacing ⊢
    linarith
  · -- rounded up: the middle to the magnitude before is below
    obtain ⟨r', rfl⟩ : ∃ r', r = r' + 1 := by
      refine ⟨r - 1, ?_⟩
      have hpos : r ≠ 0 := by
        rintro rfl
        rw [magnitude_zero] at hlt
        linarith
      omega
    have hmiddle := h.middle_le (s := r') (by omega) (Nat.lt_succ_self r')
    have hspacing := spacing_le r'
    rw [magnitude_add_one] at hmiddle hlt ⊢
    rw [abs_of_pos (by linarith)]
    norm_num at hspacing ⊢
    linarith

/-- What is a few times the precision of a double off rounds to a rank a few steps away. -/
theorem le_add_five (hp : IsNearest p s) (hq : IsNearest q r)
    (h : p ≤ (1 + 9 / 2 / 2 ^ 53) * q + 2 ^ (minExponent - 2)) : s ≤ r + 5 := by
  obtain hr | hr := Nat.lt_or_ge r infinityRank
  · refine hp.le_add hq ?_
    have hmiddle := hq.le_middle (s := r + 1) hr (Nat.lt_succ_self r)
    have hgap := (magnitude_succ r).2
    have hleast := le_spacing r
    have hquarter : (2 : ℚ) ^ minExponent = 4 * 2 ^ (minExponent - 2) := by
      rw [show minExponent = minExponent - 2 + 2 by ring, zpow_add₀ two_ne_zero]
      norm_num
      ring
    rw [magnitude_add_one] at hmiddle hgap
    have hpos : (0 : ℚ) < 2 ^ (minExponent - 2) := by positivity
    push_cast
    norm_num at h hgap ⊢
    linarith
  · exact hp.1.trans (by omega)

end IsNearest
/-! ## Factors -/

/-- Two numbers agree up to the factor `g`. -/
def Near (g a b : ℚ) : Prop := a ≤ g * b ∧ b ≤ g * a

namespace Near

variable {a b c d g h : ℚ}

theorem mul (hab : Near g a b) (hcd : Near h c d) (ha : 0 ≤ a) (hb : 0 ≤ b) (hc : 0 ≤ c)
    (hd : 0 ≤ d) (hg : 0 ≤ g) : Near (g * h) (a * c) (b * d) := by
  constructor
  · calc a * c ≤ (g * b) * (h * d) := mul_le_mul hab.1 hcd.1 hc (by positivity)
      _ = g * h * (b * d) := by ring
  · calc b * d ≤ (g * a) * (h * c) := mul_le_mul hab.2 hcd.2 hd (by positivity)
      _ = g * h * (a * c) := by ring

theorem mul_right (hab : Near g a b) (hc : 0 ≤ c) : Near g (a * c) (b * c) := by
  constructor
  · rw [← mul_assoc]
    exact mul_le_mul_of_nonneg_right hab.1 hc
  · rw [← mul_assoc]
    exact mul_le_mul_of_nonneg_right hab.2 hc

theorem inv (hcd : Near h c d) (hc : 0 < c) (hd : 0 < d) : Near h c⁻¹ d⁻¹ := by
  constructor
  · rw [← div_eq_mul_inv, le_div_iff₀ hd, inv_mul_le_iff₀ hc, mul_comm]
    exact hcd.2
  · rw [← div_eq_mul_inv, le_div_iff₀ hc, inv_mul_le_iff₀ hd, mul_comm]
    exact hcd.1

theorem div (hab : Near g a b) (hcd : Near h c d) (ha : 0 ≤ a) (hb : 0 ≤ b) (hc : 0 < c)
    (hd : 0 < d) (hg : 0 ≤ g) : Near (g * h) (a / c) (b / d) := by
  rw [div_eq_mul_inv, div_eq_mul_inv]
  exact hab.mul (hcd.inv hc hd) ha hb (inv_nonneg.mpr hc.le) (inv_nonneg.mpr hd.le) hg

end Near

/-- The factor by which one rounding changes what is not below one. -/
def roundingFactor : ℚ := 1 + 51 / 50 / 2 ^ 53

theorem IsNearest.near {q : ℚ} {r : ℕ} (h : IsNearest q r) (hr : r < infinityRank) (hq : 1 ≤ q) :
    Near roundingFactor (magnitude r) q := by
  obtain ⟨hlow, hhigh⟩ := abs_le.mp (h.error_le hr (by linarith))
  have hsmall : (2 : ℚ) ^ (minExponent - 1) ≤ q / 2 ^ 60 := by
    calc (2 : ℚ) ^ (minExponent - 1) ≤ 2 ^ (-60 : ℤ) :=
          zpow_le_zpow_right₀ one_le_two (by decide)
      _ = 1 / 2 ^ 60 := by norm_num
      _ ≤ q / 2 ^ 60 := by gcongr
  unfold Near roundingFactor
  norm_num at hlow hhigh hsmall ⊢
  constructor <;> linarith

/-! ## Ranks of powers of ten -/

theorem magnitude_infinityRank : magnitude infinityRank = 2 ^ 1024 := by
  have hrank : infinityRank = 2046 * 2 ^ 52 + 2 ^ 52 := by decide
  rw [hrank, magnitude_run (by decide) (.inr le_rfl), Nat.cast_pow, Nat.cast_ofNat,
    ← zpow_natCast, ← zpow_natCast, ← zpow_add₀ two_ne_zero]
  rfl

/-- Up to `10 ^ 308` numbers round to finite ones. -/
theorem IsNearest.rank_lt {q : ℚ} {r : ℕ} (h : IsNearest q r) (hq : q ≤ 10 ^ 308) :
    r < infinityRank := by
  refine lt_of_le_of_ne h.1 fun heq => ?_
  obtain ⟨last, hlast⟩ : ∃ last, infinityRank = last + 1 := ⟨infinityRank - 1, by decide⟩
  have hmiddle := h.middle_le (s := last) (by omega) (by omega)
  have hspacing := spacing_le last
  have hsum : magnitude infinityRank = magnitude last + spacing last := by
    rw [hlast, magnitude_add_one]
  have hleast : (2 : ℚ) ^ minExponent ≤ 1 := zpow_le_one_of_nonpos₀ one_le_two (by decide)
  have hgreat : ((10 ^ 308 * 16 : ℕ) : ℚ) ≤ (2 ^ 1024 * 15 : ℕ) :=
    Nat.cast_le.mpr (by decide +kernel)
  have hten : (10 : ℚ) ^ 1 ≤ 10 ^ 308 := pow_le_pow_right₀ (by norm_num) (by decide)
  rw [heq] at hmiddle
  rw [magnitude_infinityRank] at hmiddle hsum
  simp only [Nat.cast_mul, Nat.cast_pow, Nat.cast_ofNat] at hgreat
  -- the powers are too great to be computed with, and what relates them is known
  generalize (10 : ℚ) ^ 308 = t at *
  generalize (2 : ℚ) ^ 1024 = m at *
  generalize (2 : ℚ) ^ minExponent = least at *
  norm_num at hspacing
  linarith

theorem rank_ofInt_lt {n : ℕ} (hlt : n < 2 ^ 64) : (ofInt n).rank < infinityRank := by
  have hnearest : IsNearest n (ofInt n).rank := isNearest_ofInt n
  refine hnearest.rank_lt ?_
  calc (n : ℚ) ≤ 2 ^ 64 := by exact_mod_cast hlt.le
    _ ≤ 10 ^ 20 := by norm_num
    _ ≤ 10 ^ 308 := pow_le_pow_right₀ (by norm_num) (by decide)

theorem near_magnitude_ofInt {n : ℕ} (hn : 1 ≤ n) (hlt : n < 2 ^ 64) :
    Near roundingFactor (magnitude (ofInt n).rank) n := by
  have hnearest : IsNearest n (ofInt n).rank := isNearest_ofInt n
  exact hnearest.near (rank_ofInt_lt hlt) (by exact_mod_cast hn)

theorem near_magnitude_powerOfTen {k : ℕ} (hk : k ≤ 308) :
    Near roundingFactor (magnitude (powerOfTen k).rank) (10 ^ k) := by
  have hnearest := isNearest_powerOfTen k
  have hone : (1 : ℚ) ≤ 10 ^ k := one_le_pow₀ (by norm_num)
  exact hnearest.near (hnearest.rank_lt (pow_le_pow_right₀ (by norm_num) hk)) hone

theorem one_le_roundingFactor : 1 ≤ roundingFactor := by
  unfold roundingFactor
  norm_num

theorem Near.pos {g a b : ℚ} (h : Near g a b) (hg : 0 < g) (hb : 0 < b) : 0 < a := by
  have := h.2
  by_contra hcon
  nlinarith

/-- A power of ten is not rounded to zero. -/
theorem rank_powerOfTen_pos {k : ℕ} (hk : k ≤ 308) : 0 < (powerOfTen k).rank := by
  refine Nat.pos_of_ne_zero fun hzero => ?_
  have hpos := (near_magnitude_powerOfTen hk).pos (by linarith [one_le_roundingFactor])
    (by positivity)
  rw [hzero, magnitude_zero] at hpos
  exact lt_irrefl _ hpos

theorem rank_ofInt_ne_zero {n : ℕ} (hn : 1 ≤ n) (hlt : n < 2 ^ 64) : (ofInt n).rank ≠ 0 := by
  intro hzero
  have hpos := (near_magnitude_ofInt hn hlt).pos (by linarith [one_le_roundingFactor])
    (by exact_mod_cast hn)
  rw [hzero, magnitude_zero] at hpos
  exact lt_irrefl _ hpos

theorem two_pow_le_powerOfTen : (2 : ℚ) ^ (1000 : ℤ) ≤ 10 ^ 308 := by
  have h : ((2 ^ 1000 : ℕ) : ℚ) ≤ (10 ^ 308 : ℕ) := Nat.cast_le.mpr (by decide +kernel)
  simp only [Nat.cast_pow, Nat.cast_ofNat] at h
  exact h

/-! ## What is exact -/

/-- A significand of 53 bits is exact, also before some zeros. -/
theorem exists_magnitude_eq {m j : ℕ} (hm : m ≤ 2 ^ 53) (hj : j ≤ 64) :
    ∃ r ≤ infinityRank, magnitude r = m * 2 ^ j := by
  obtain rfl | hpos := Nat.eq_zero_or_pos m
  · exact ⟨0, Nat.zero_le _, by simp⟩
  -- the significand is moved up until it has all its 53 bits
  obtain ⟨i, hi, hlow, hhigh⟩ : ∃ i ≤ 52, 2 ^ 52 ≤ m * 2 ^ i ∧ m * 2 ^ i ≤ 2 ^ 53 := by
    have hlog := Nat.log2_self_le hpos.ne'
    have hlog' : m < 2 ^ (m.log2 + 1) := Nat.lt_log2_self
    obtain hle | hlt := Nat.lt_or_ge 52 m.log2
    · exact ⟨0, by omega, by simpa using (Nat.pow_le_pow_right two_pos hle.le).trans hlog, by simpa⟩
    · refine ⟨52 - m.log2, by omega, ?_, ?_⟩
      · calc 2 ^ 52 = 2 ^ m.log2 * 2 ^ (52 - m.log2) := by rw [← pow_add]; congr 1; omega
          _ ≤ m * 2 ^ (52 - m.log2) := Nat.mul_le_mul_right _ hlog
      · calc m * 2 ^ (52 - m.log2) ≤ 2 ^ (m.log2 + 1) * 2 ^ (52 - m.log2) :=
            Nat.mul_le_mul_right _ hlog'.le
          _ = 2 ^ 53 := by rw [← pow_add]; congr 1; omega
  have hvalue : magnitude ((j + 1074 - i) * 2 ^ 52 + m * 2 ^ i) = m * 2 ^ j := by
    rw [magnitude_run hhigh (.inr hlow), Nat.cast_mul, Nat.cast_pow, Nat.cast_ofNat, mul_assoc,
      ← zpow_natCast, ← zpow_natCast, ← zpow_add₀ two_ne_zero]
    congr 2
    unfold minExponent
    omega
  refine ⟨(j + 1074 - i) * 2 ^ 52 + m * 2 ^ i, ?_, hvalue⟩
  have hinfinity : infinityRank = 2047 * 2 ^ 52 := by decide
  omega

theorem IsNearest.magnitude_eq {m j r : ℕ} (h : IsNearest (m * 2 ^ j) r) (hm : m ≤ 2 ^ 53)
    (hj : j ≤ 64) : magnitude r = m * 2 ^ j := by
  obtain ⟨s, hs, hvalue⟩ := exists_magnitude_eq hm hj
  rw [← hvalue] at h ⊢
  rw [h.unique (isNearest_magnitude hs)]

theorem magnitude_ofInt {n : ℕ} (hn : n ≤ 2 ^ 53) : magnitude (ofInt n).rank = n := by
  have hnearest : IsNearest (n * 2 ^ 0) (ofInt n).rank := by simpa using isNearest_ofInt n
  simpa using hnearest.magnitude_eq hn (by decide)

/-- The powers of ten that are exact: `10 ^ k` is `5 ^ k` before `k` zeros. -/
theorem magnitude_powerOfTen {k : ℕ} (hk : k ≤ 22) : magnitude (powerOfTen k).rank = 10 ^ k := by
  have hten : ((5 ^ k : ℕ) : ℚ) * 2 ^ k = 10 ^ k := by
    rw [Nat.cast_pow, ← mul_pow]
    norm_num
  have hfive : 5 ^ k ≤ 2 ^ 53 := (Nat.pow_le_pow_right (by decide) hk).trans (by decide)
  have hnearest := isNearest_powerOfTen k
  rw [← hten] at hnearest ⊢
  exact hnearest.magnitude_eq hfive (by omega)

/-! ## Close numbers -/

/-- How far off four roundings and what they are applied to may be: a few times the precision of a
    double, or a part of the least magnitude. -/
def Close (p q : ℚ) : Prop :=
  p ≤ (1 + 17 / 4 / 2 ^ 53) * q + 2 ^ (minExponent - 3) ∧
  q ≤ (1 + 17 / 4 / 2 ^ 53) * p + 2 ^ (minExponent - 3)

theorem Near.close {g p q : ℚ} (h : Near g p q) (hg : g ≤ 1 + 17 / 4 / 2 ^ 53) (hp : 0 ≤ p)
    (hq : 0 ≤ q) : Close p q := by
  have hleast : (0 : ℚ) < 2 ^ (minExponent - 3) := by positivity
  have hpq : g * q ≤ (1 + 17 / 4 / 2 ^ 53) * q := mul_le_mul_of_nonneg_right hg hq
  have hqp : g * p ≤ (1 + 17 / 4 / 2 ^ 53) * p := mul_le_mul_of_nonneg_right hg hp
  exact ⟨by linarith [h.1], by linarith [h.2]⟩

/-- Close numbers round to ranks that differ by five at most; there is room for a little more. -/
theorem Close.ranks {p q q' : ℚ} {r s : ℕ} (hclose : Close p q') (hnear : Near (1 + 1 / 2 ^ 59) q' q)
    (hp₀ : 0 ≤ p) (hq₀ : 0 ≤ q) (hp : IsNearest p s) (hq : IsNearest q r) :
    s ≤ r + 5 ∧ r ≤ s + 5 := by
  have hleast : (0 : ℚ) < 2 ^ (minExponent - 3) := by positivity
  have hdouble : (2 : ℚ) ^ (minExponent - 2) = 2 * 2 ^ (minExponent - 3) := by
    rw [← zpow_one_add₀ two_ne_zero]
    congr 1
  have hfactor : (1 + 17 / 4 / 2 ^ 53 : ℚ) * (1 + 1 / 2 ^ 59) ≤ 1 + 9 / 2 / 2 ^ 53 := by norm_num
  -- the offset stands outside the second factor one way round, and inside it the other
  constructor
  · refine hp.le_add_five hq ?_
    rw [hdouble]
    calc p ≤ (1 + 17 / 4 / 2 ^ 53) * q' + 2 ^ (minExponent - 3) := hclose.1
      _ ≤ (1 + 17 / 4 / 2 ^ 53) * ((1 + 1 / 2 ^ 59) * q) + 2 ^ (minExponent - 3) := by
        gcongr
        exact hnear.1
      _ = (1 + 17 / 4 / 2 ^ 53) * (1 + 1 / 2 ^ 59) * q + 2 ^ (minExponent - 3) := by ring
      _ ≤ (1 + 9 / 2 / 2 ^ 53) * q + 2 * 2 ^ (minExponent - 3) := by
        have := mul_le_mul_of_nonneg_right hfactor hq₀
        linarith
  · refine hq.le_add_five hp ?_
    rw [hdouble]
    calc q ≤ (1 + 1 / 2 ^ 59) * q' := hnear.2
      _ ≤ (1 + 1 / 2 ^ 59) * ((1 + 17 / 4 / 2 ^ 53) * p + 2 ^ (minExponent - 3)) := by
        gcongr
        exact hclose.2
      _ = (1 + 17 / 4 / 2 ^ 53) * (1 + 1 / 2 ^ 59) * p +
          (1 + 1 / 2 ^ 59) * 2 ^ (minExponent - 3) := by ring
      _ ≤ (1 + 9 / 2 / 2 ^ 53) * p + 2 * 2 ^ (minExponent - 3) := by
        have := mul_le_mul_of_nonneg_right hfactor hp₀
        have hle : (1 + 1 / 2 ^ 59 : ℚ) * 2 ^ (minExponent - 3) ≤ 2 * 2 ^ (minExponent - 3) :=
          mul_le_mul_of_nonneg_right (by norm_num) hleast.le
        linarith

end Double
end LuauLayout
