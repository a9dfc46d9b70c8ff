/-
  LuauLayout.Proofs.Json.Accuracy

  How far the number read for a literal is from the literal.

  A literal is read in three steps, each of which may round: digits are gathered
  into 64 bits, the significand becomes a double, and this is scaled by a power
  of ten, itself a double. None of them is off by more than a few times the
  precision of a double, so the result is at most five ranks away from the nearest
  double, and a literal is refused as out of range only within that distance of the
  infinity.

    * `Literal.close_shrink`, `Literal.close_scale?` — scaling.
    * `Literal.accurate` — a literal, from its digits to its double.
    * `Literal.exact`    — the literals for which nothing is rounded twice.
-/

import LuauLayout.Proofs.Json.Gathering

namespace LuauLayout
namespace Json
namespace Literal

/-! ## Scaling -/

open Double

theorem shrink_of_le {k : ℕ} (hk : k ≤ 308) (x : Double) : shrink x k = x.div (powerOfTen k) := by
  rw [shrink, if_pos hk]

theorem shrink_of_lt {k : ℕ} (hk : 308 < k) {x : Double} (hx : x.rank ≠ 0) :
    shrink x k = shrink (x.div (powerOfTen 308)) (k - 308) := by
  have hzero : x.isZero = false := by simpa [isZero] using hx
  rw [shrink, if_neg (by omega), hzero, if_neg Bool.false_ne_true]

/-- Zero stays zero. -/
theorem rank_shrink_of_zero {x : Double} (hx : x.rank = 0) (k : ℕ) : (shrink x k).rank = 0 := by
  obtain hk | hk := Nat.lt_or_ge 308 k
  · have hzero : x.isZero = true := by simpa [isZero] using hx
    rw [shrink, if_neg (by omega), hzero, if_pos rfl, hx]
  · have hdiv := isNearest_div x (rank_powerOfTen_pos hk)
    rw [shrink_of_le hk]
    rw [hx, magnitude_zero, zero_div, ← magnitude_zero] at hdiv
    exact hdiv.unique (isNearest_magnitude (Nat.zero_le _))

theorem isNegative_div_powerOfTen (x : Double) (k : ℕ) :
    (x.div (powerOfTen k)).isNegative = x.isNegative := by
  rw [div, isNegative_nearest, isNegative_powerOfTen, Bool.bne_false]

theorem isNegative_shrink (x : Double) (k : ℕ) : (shrink x k).isNegative = x.isNegative := by
  induction x, k using shrink.induct with
  | case1 x k hk => rw [shrink_of_le hk, isNegative_div_powerOfTen]
  | case2 x k hk hzero => rw [shrink, if_neg hk, if_pos hzero]
  | case3 x k hk hzero ih =>
    rw [shrink, if_neg hk, if_neg hzero, ih, isNegative_div_powerOfTen]

theorem div_pow_le {n : ℕ} (hlt : n < 2 ^ 64) (k : ℕ) : (n : ℚ) / 10 ^ k ≤ 2 ^ 64 := by
  refine (div_le_self (Nat.cast_nonneg n) (one_le_pow₀ (by norm_num))).trans ?_
  exact_mod_cast hlt.le

/-- Dividing once by a power of ten. -/
theorem near_div {n k : ℕ} (hn : 1 ≤ n) (hlt : n < 2 ^ 64) (hk : k ≤ 308) :
    Near (roundingFactor * roundingFactor)
      (Double.magnitude (ofInt n).rank / Double.magnitude (powerOfTen k).rank) (n / 10 ^ k) := by
  have hfactor : (0 : ℚ) ≤ roundingFactor := by linarith [one_le_roundingFactor]
  exact (near_magnitude_ofInt hn hlt).div (near_magnitude_powerOfTen hk)
    (Double.magnitude_nonneg _) (Nat.cast_nonneg n) (magnitude_pos (rank_powerOfTen_pos hk))
    (by positivity) hfactor

/-- The first of several divisions: its result may be one of the least magnitudes, and is then off
    by a part of the least one. -/
theorem first_division {n : ℕ} (hn : 1 ≤ n) (hlt : n < 2 ^ 64) :
    Double.magnitude ((ofInt n).div (powerOfTen 308)).rank ≤
      (1 + 31 / 10 / 2 ^ 53) * (n / 10 ^ 308) + 2 ^ (minExponent - 1) ∧
    n / 10 ^ 308 ≤ (1 + 31 / 10 / 2 ^ 53) *
      Double.magnitude ((ofInt n).div (powerOfTen 308)).rank + 2 * 2 ^ (minExponent - 1) := by
  obtain ⟨hq, hq'⟩ := near_div hn hlt le_rfl
  have hnearest := isNearest_div (ofInt n) (rank_powerOfTen_pos (k := 308) le_rfl)
  have hnonneg := magnitude_div_nonneg (ofInt n) (powerOfTen 308)
  have hA := div_pow_le hlt 308
  have hA' : (0 : ℚ) ≤ n / 10 ^ 308 := by positivity
  -- the error of a rounding is bounded only below infinity, so that comes first
  have hfinite : ((ofInt n).div (powerOfTen 308)).rank < infinityRank := by
    have hten : (10 : ℚ) ^ 20 ≤ 10 ^ 308 := pow_le_pow_right₀ (by norm_num) (by decide)
    refine hnearest.rank_lt (hq.trans (le_trans ?_ hten))
    unfold roundingFactor
    generalize (n : ℚ) / 10 ^ 308 = A at hA hA' ⊢
    norm_num at hA ⊢
    linarith
  obtain ⟨hlow, hhigh⟩ := abs_le.mp (hnearest.error_le hfinite hnonneg)
  have hleast : (0 : ℚ) < 2 ^ (minExponent - 1) := by positivity
  unfold roundingFactor at hq hq'
  generalize (n : ℚ) / 10 ^ 308 = A at *
  generalize (2 : ℚ) ^ (minExponent - 1) = least at *
  generalize Double.magnitude (ofInt n).rank / Double.magnitude (powerOfTen 308).rank = q at *
  norm_num at hq hq' hlow hhigh ⊢
  constructor <;> linarith

/-- A divisor of eight or more takes an offset along. -/
theorem div_le_of_le {x y t u c g least : ℚ} (h : x ≤ c * y + 8 * least) (hu : u ≤ g * t)
    (ht : 8 ≤ t) (hupos : 0 < u) (hy : 0 ≤ y) (hc : 0 ≤ c) (hleast : 0 ≤ least) :
    x / t ≤ c * g * (y / u) + least := by
  rw [div_le_iff₀ (by linarith)]
  calc x ≤ c * y + 8 * least := h
    _ = c * (y / u) * u + 8 * least := by field_simp
    _ ≤ c * (y / u) * (g * t) + t * least := by gcongr
    _ = (c * g * (y / u) + least) * t := by ring

/-- A division by ten or more makes little of what the first one was off by. -/
theorem close_second_division {n k : ℕ} (hn : 1 ≤ n) (hlt : n < 2 ^ 64) (hk : 1 ≤ k) (hk' : k ≤ 308) :
    Close (Double.magnitude ((ofInt n).div (powerOfTen 308)).rank /
      Double.magnitude (powerOfTen k).rank) (n / 10 ^ (308 + k)) := by
  obtain ⟨hx, hA⟩ := first_division hn hlt
  obtain ⟨hten, hten'⟩ := near_magnitude_powerOfTen hk'
  have hpos : 0 < Double.magnitude (powerOfTen k).rank := magnitude_pos (rank_powerOfTen_pos hk')
  have hk : (10 : ℚ) ≤ 10 ^ k := le_self_pow₀ (by norm_num) (by omega)
  have hx₀ := Double.magnitude_nonneg ((ofInt n).div (powerOfTen 308)).rank
  have hA₀ : (0 : ℚ) ≤ n / 10 ^ 308 := by positivity
  have hleast : (0 : ℚ) < 2 ^ (minExponent - 3) := by positivity
  -- the offsets of the first division, in units of the one that `Close` allows
  have hquarter : (2 : ℚ) ^ (minExponent - 1) = 4 * 2 ^ (minExponent - 3) := by
    rw [show minExponent - 1 = 2 + (minExponent - 3) by ring, zpow_add₀ two_ne_zero]
    norm_num
  have hfactor : (1 + 31 / 10 / 2 ^ 53) * roundingFactor ≤ 1 + 17 / 4 / 2 ^ 53 := by
    unfold roundingFactor
    norm_num
  have height : 8 ≤ Double.magnitude (powerOfTen k).rank := by
    unfold roundingFactor at hten'
    norm_num at hten' ⊢
    linarith
  rw [hquarter] at hx hA
  rw [pow_add, ← div_div]
  have hlow := div_le_of_le (hx.trans (add_le_add le_rfl (by linarith only [hleast]))) hten' height
    (by positivity) hA₀ (by norm_num) hleast.le
  have hhigh := div_le_of_le (hA.trans (add_le_add le_rfl (by linarith only [hleast]))) hten
    (by linarith only [hk]) hpos hx₀ (by norm_num) hleast.le
  have hleft := mul_le_mul_of_nonneg_right hfactor (div_nonneg hA₀ (by positivity : (0 : ℚ) ≤ 10 ^ k))
  have hright := mul_le_mul_of_nonneg_right hfactor (div_nonneg hx₀ hpos.le)
  exact ⟨hlow.trans (add_le_add hleft le_rfl), hhigh.trans (add_le_add hright le_rfl)⟩

/-- Two divisions by `10 ^ 308` leave nothing of a significand. -/
theorem rank_second_division {n : ℕ} (hn : 1 ≤ n) (hlt : n < 2 ^ 64) :
    (((ofInt n).div (powerOfTen 308)).div (powerOfTen 308)).rank = 0 := by
  have hnearest := isNearest_div ((ofInt n).div (powerOfTen 308))
    (rank_powerOfTen_pos (k := 308) le_rfl)
  obtain ⟨hx, -⟩ := first_division hn hlt
  obtain ⟨-, hten⟩ := near_magnitude_powerOfTen (k := 308) le_rfl
  have hpos : 0 < Double.magnitude (powerOfTen 308).rank := magnitude_pos (rank_powerOfTen_pos le_rfl)
  have hgreat := two_pow_le_powerOfTen
  -- the divisor is great, and the first quotient is small
  have ht : (2 : ℚ) ^ (999 : ℤ) ≤ Double.magnitude (powerOfTen 308).rank := by
    have hfactor : roundingFactor ≤ 2 := by
      unfold roundingFactor
      norm_num
    have hdouble : 2 * (2 : ℚ) ^ (999 : ℤ) ≤ 2 * Double.magnitude (powerOfTen 308).rank := by
      rw [← zpow_one_add₀ two_ne_zero]
      exact hgreat.trans (hten.trans (mul_le_mul_of_nonneg_right hfactor hpos.le))
    exact le_of_mul_le_mul_left hdouble two_pos
  have hA : (n : ℚ) / 10 ^ 308 ≤ 2 ^ (-80 : ℤ) := by
    have hn : (n : ℚ) ≤ 2 ^ (64 : ℤ) := by exact_mod_cast hlt.le
    calc (n : ℚ) / 10 ^ 308 ≤ 2 ^ (64 : ℤ) / 2 ^ (1000 : ℤ) :=
          div_le_div₀ (by positivity) hn (by positivity) hgreat
      _ = 2 ^ ((64 : ℤ) - 1000) := (zpow_sub₀ two_ne_zero 64 1000).symm
      _ ≤ 2 ^ (-80 : ℤ) := zpow_le_zpow_right₀ one_le_two (by decide)
  have hleast : (2 : ℚ) ^ (minExponent - 1) ≤ 2 ^ (-80 : ℤ) :=
    zpow_le_zpow_right₀ one_le_two (by decide)
  have hsmall : Double.magnitude ((ofInt n).div (powerOfTen 308)).rank < 2 ^ (-76 : ℤ) := by
    generalize (n : ℚ) / 10 ^ 308 = A at hA hx
    norm_num at hA hleast hx ⊢
    linarith only [hA, hleast, hx]
  refine hnearest.eq_zero ?_
  rw [div_lt_iff₀ hpos]
  calc Double.magnitude ((ofInt n).div (powerOfTen 308)).rank < 2 ^ (-76 : ℤ) := hsmall
    _ = 2 ^ (minExponent - 1 + 999) := by congr 1
    _ = 2 ^ (minExponent - 1) * 2 ^ (999 : ℤ) := zpow_add₀ two_ne_zero _ _
    _ ≤ 2 ^ (minExponent - 1) * Double.magnitude (powerOfTen 308).rank :=
      mul_le_mul_of_nonneg_left ht (by positivity)

/-- Behind two divisions by `10 ^ 308` there is nothing left, and nothing is near to it. -/
theorem close_zero {n k : ℕ} (hlt : n < 2 ^ 64) (hk : 616 ≤ k) : Close 0 (n / 10 ^ k) := by
  have hleast : (0 : ℚ) < 2 ^ (minExponent - 3) := by positivity
  have hn : (n : ℚ) ≤ 2 ^ (64 : ℤ) := by exact_mod_cast hlt.le
  have hpow : (2 : ℚ) ^ (2000 : ℤ) ≤ 10 ^ k := by
    calc (2 : ℚ) ^ (2000 : ℤ) = 2 ^ (1000 : ℤ) * 2 ^ (1000 : ℤ) := zpow_add₀ two_ne_zero 1000 1000
      _ ≤ 10 ^ 308 * 10 ^ 308 :=
        mul_le_mul two_pow_le_powerOfTen two_pow_le_powerOfTen (by positivity) (by positivity)
      _ = 10 ^ 616 := (pow_add 10 308 308).symm
      _ ≤ 10 ^ k := pow_le_pow_right₀ (by norm_num) hk
  refine ⟨add_nonneg (mul_nonneg (by norm_num) (by positivity)) hleast.le, ?_⟩
  rw [mul_zero, zero_add]
  calc (n : ℚ) / 10 ^ k ≤ 2 ^ (64 : ℤ) / 2 ^ (2000 : ℤ) :=
        div_le_div₀ (by positivity) hn (by positivity) hpow
    _ = 2 ^ ((64 : ℤ) - 2000) := (zpow_sub₀ two_ne_zero 64 2000).symm
    _ ≤ 2 ^ (minExponent - 3) := zpow_le_zpow_right₀ one_le_two (by decide)

/-- Dividing by a power of ten, in one step or in several. -/
theorem close_shrink {n : ℕ} (hn : 1 ≤ n) (hlt : n < 2 ^ 64) (k : ℕ) :
    ∃ p, 0 ≤ p ∧ IsNearest p (shrink (ofInt n) k).rank ∧ Close p (n / 10 ^ k) := by
  obtain hk | hk := Nat.lt_or_ge 308 k
  · obtain ⟨j, rfl⟩ : ∃ j, k = 308 + j := ⟨k - 308, by omega⟩
    rw [shrink_of_lt hk (rank_ofInt_ne_zero hn hlt), Nat.add_sub_cancel_left]
    obtain hj | hj := Nat.lt_or_ge 308 j
    · have hrank : (shrink ((ofInt n).div (powerOfTen 308)) j).rank = 0 := by
        by_cases hfirst : ((ofInt n).div (powerOfTen 308)).rank = 0
        · exact rank_shrink_of_zero hfirst j
        · rw [shrink_of_lt hj hfirst]
          exact rank_shrink_of_zero (rank_second_division hn hlt) _
      rw [hrank]
      exact ⟨0, le_rfl, isNearest_zero, close_zero hlt (by omega)⟩
    · refine ⟨_, magnitude_div_nonneg _ _, ?_, close_second_division hn hlt (by omega) hj⟩
      rw [shrink_of_le hj]
      exact isNearest_div _ (rank_powerOfTen_pos hj)
  · refine ⟨_, magnitude_div_nonneg _ _, ?_,
      (near_div hn hlt hk).close ?_ (magnitude_div_nonneg _ _) (by positivity)⟩
    · rw [shrink_of_le hk]
      exact isNearest_div _ (rank_powerOfTen_pos hk)
    · unfold roundingFactor
      norm_num

/-- The rank of a number that is read, and that of the infinity where none is. -/
def readRank (x : Option Double) : ℕ := x.elim infinityRank rank

theorem scale?_of_neg {e : ℤ} (he : e < 0) (x : Double) : scale? x e = some (shrink x e.natAbs) := by
  rw [scale?, if_pos he]

theorem readRank_scale?_of_le {k : ℕ} (hk : k ≤ 308) (x : Double) :
    readRank (scale? x k) = (x.mul (powerOfTen k)).rank := by
  rw [scale?, if_neg (by omega), if_pos (by omega), Int.natAbs_natCast]
  dsimp only
  split
  · rename_i hinfinite
    exact (beq_iff_eq.mp hinfinite).symm
  · rfl

theorem scale?_of_lt {k : ℕ} (hk : 308 < k) {x : Double} (hx : x.rank ≠ 0) : scale? x k = none := by
  have hzero : x.isZero = false := by simpa [isZero] using hx
  rw [scale?, if_neg (by omega), if_neg (by omega), hzero, if_neg Bool.false_ne_true]

/-- Multiplying by a power of ten. -/
theorem close_mul {n k : ℕ} (hn : 1 ≤ n) (hlt : n < 2 ^ 64) (hk : k ≤ 308) :
    Close (Double.magnitude (ofInt n).rank * Double.magnitude (powerOfTen k).rank) (n * 10 ^ k) := by
  have hnear := (near_magnitude_ofInt hn hlt).mul (near_magnitude_powerOfTen hk)
    (Double.magnitude_nonneg _) (Nat.cast_nonneg n) (Double.magnitude_nonneg _) (by positivity)
    (by linarith [one_le_roundingFactor])
  refine hnear.close ?_ (mul_nonneg (Double.magnitude_nonneg _) (Double.magnitude_nonneg _))
    (by positivity)
  unfold roundingFactor
  norm_num

/-- From `10 ^ 309` on nothing is less than the infinity. -/
theorem magnitude_infinityRank_le {n k : ℕ} (hn : 1 ≤ n) (hk : 308 < k) :
    Double.magnitude infinityRank ≤ (n : ℚ) * 10 ^ k := by
  have hpow : ((2 ^ 1024 : ℕ) : ℚ) ≤ (10 ^ 309 : ℕ) := Nat.cast_le.mpr (by decide +kernel)
  simp only [Nat.cast_pow, Nat.cast_ofNat] at hpow
  rw [magnitude_infinityRank]
  calc (2 : ℚ) ^ 1024 ≤ 10 ^ 309 := hpow
    _ ≤ 10 ^ k := pow_le_pow_right₀ (by norm_num) hk
    _ ≤ n * 10 ^ k := le_mul_of_one_le_left (by positivity) (by exact_mod_cast hn)

/-- Scaling by a power of ten; a number that is refused is close to the infinity. -/
theorem close_scale? {n : ℕ} (hn : 1 ≤ n) (hlt : n < 2 ^ 64) (e : ℤ) :
    ∃ p, 0 ≤ p ∧ IsNearest p (readRank (scale? (ofInt n) e)) ∧ Close p (n * 10 ^ e) := by
  obtain he | he := lt_or_ge e 0
  · -- scaled down: a division, or several
    obtain ⟨k, rfl⟩ : ∃ k : ℕ, e = -k := ⟨e.natAbs, by omega⟩
    rw [scale?_of_neg he, Int.natAbs_neg, Int.natAbs_natCast, zpow_neg, zpow_natCast,
      ← div_eq_mul_inv]
    exact close_shrink hn hlt k
  obtain ⟨k, rfl⟩ : ∃ k : ℕ, e = k := ⟨e.natAbs, by omega⟩
  rw [zpow_natCast]
  obtain hk | hk := Nat.lt_or_ge 308 k
  · -- scaled up too far: refused as out of range
    have hsame : Near 1 ((n : ℚ) * 10 ^ k) (n * 10 ^ k) := ⟨(one_mul _).ge, (one_mul _).ge⟩
    rw [scale?_of_lt hk (rank_ofInt_ne_zero hn hlt)]
    exact ⟨n * 10 ^ k, by positivity, isNearest_infinityRank (magnitude_infinityRank_le hn hk),
      hsame.close (by norm_num) (by positivity) (by positivity)⟩
  · rw [readRank_scale?_of_le hk]
    exact ⟨_, mul_nonneg (Double.magnitude_nonneg _) (Double.magnitude_nonneg _), isNearest_mul _ _,
      close_mul hn hlt hk⟩

theorem rank_shrink_lt {n : ℕ} (hlt : n < 2 ^ 64) (k : ℕ) :
    (shrink (ofInt n) k).rank < infinityRank := by
  obtain rfl | hn := Nat.eq_zero_or_pos n
  · rw [rank_shrink_of_zero (by decide)]
    decide
  obtain ⟨p, -, hp, hclose, -⟩ := close_shrink hn hlt k
  have hn := div_pow_le hlt k
  have hleast : (2 : ℚ) ^ (minExponent - 3) ≤ 1 := zpow_le_one_of_nonpos₀ one_le_two (by decide)
  have hten : (10 : ℚ) ^ 20 ≤ 10 ^ 308 := pow_le_pow_right₀ (by norm_num) (by decide)
  refine hp.rank_lt (le_trans ?_ hten)
  norm_num at hn hclose ⊢
  linarith only [hn, hclose, hleast]

/-- What comes out of scaling is a finite number without sign. -/
theorem scale?_spec {n : ℕ} (hlt : n < 2 ^ 64) {e : ℤ} {y : Double} (h : scale? (ofInt n) e = some y) :
    y.isNegative = false ∧ y.rank < infinityRank := by
  unfold scale? at h
  split at h
  · cases h
    exact ⟨by rw [isNegative_shrink, isNegative_ofInt], rank_shrink_lt hlt _⟩
  split at h
  · -- a product that is not the infinity
    simp only [Option.ite_none_left_eq_some, Bool.not_eq_true] at h
    obtain ⟨hfinite, h⟩ := h
    cases h
    refine ⟨?_, lt_of_le_of_ne ?_ (by simpa [isInfinite] using hfinite)⟩
    · rw [mul, isNegative_nearest, isNegative_ofInt, isNegative_powerOfTen, bne_self_eq_false]
    · rw [mul, rank_nearest]
      exact nearestRank_le _
  · -- out of range, unless it is zero
    split at h <;> cases h
    rename_i hzero
    have hrank : (ofInt n).rank = 0 := by simpa [isZero] using hzero
    exact ⟨isNegative_ofInt n, by rw [hrank]; decide⟩

/-- Zero stays zero. -/
theorem readRank_scale?_zero (e : ℤ) : readRank (scale? (ofInt (0 : ℕ)) e) = 0 := by
  have hrank : (ofInt (0 : ℕ)).rank = 0 := by decide
  obtain he | he := lt_or_ge e 0
  · rw [scale?_of_neg he]
    exact rank_shrink_of_zero hrank _
  obtain ⟨k, rfl⟩ : ∃ k : ℕ, e = k := ⟨e.natAbs, by omega⟩
  obtain hk | hk := Nat.lt_or_ge 308 k
  · have hzero : (ofInt (0 : ℕ)).isZero = true := by decide
    rw [scale?, if_neg (by omega), if_neg (by omega), if_pos hzero]
    exact hrank
  · have hmul := isNearest_mul (ofInt (0 : ℕ)) (powerOfTen k)
    rw [hrank, Double.magnitude_zero, zero_mul] at hmul
    rw [readRank_scale?_of_le hk]
    exact hmul.unique isNearest_zero

/-- Where the significand and the power of ten are exact, scaling rounds once. -/
theorem isNearest_scale? {n : ℕ} (hn : n ≤ 2 ^ 53) {e : ℤ} (he : e.natAbs ≤ 22) :
    IsNearest (n * 10 ^ e) (readRank (scale? (ofInt n) e)) := by
  obtain hneg | hneg := lt_or_ge e 0
  · obtain ⟨k, rfl⟩ : ∃ k : ℕ, e = -k := ⟨e.natAbs, by omega⟩
    rw [Int.natAbs_neg, Int.natAbs_natCast] at he
    have hdiv := isNearest_div (ofInt n) (rank_powerOfTen_pos (k := k) (by omega))
    rw [magnitude_ofInt hn, magnitude_powerOfTen he] at hdiv
    rw [scale?_of_neg hneg, Int.natAbs_neg, Int.natAbs_natCast, shrink_of_le (by omega), zpow_neg,
      zpow_natCast, ← div_eq_mul_inv]
    exact hdiv
  · obtain ⟨k, rfl⟩ : ∃ k : ℕ, e = k := ⟨e.natAbs, by omega⟩
    rw [Int.natAbs_natCast] at he
    have hmul := isNearest_mul (ofInt n) (powerOfTen k)
    rw [magnitude_ofInt hn, magnitude_powerOfTen he] at hmul
    rw [readRank_scale?_of_le (by omega), zpow_natCast]
    exact hmul

/-- Such a number is far from the infinity. -/
theorem readRank_scale?_lt {n : ℕ} (hn : n ≤ 2 ^ 53) {e : ℤ} (he : e.natAbs ≤ 22) :
    readRank (scale? (ofInt n) e) < infinityRank := by
  refine (isNearest_scale? hn he).rank_lt ?_
  calc (n : ℚ) * 10 ^ e ≤ 10 ^ 16 * 10 ^ (22 : ℤ) := by
        have hn : (n : ℚ) ≤ 2 ^ 53 := by exact_mod_cast hn
        have hscale : (10 : ℚ) ^ e ≤ 10 ^ (22 : ℤ) := zpow_le_zpow_right₀ (by norm_num) (by omega)
        gcongr
        exact hn.trans (by norm_num)
    _ ≤ 10 ^ 40 := by norm_num
    _ ≤ 10 ^ 308 := pow_le_pow_right₀ (by norm_num) (by decide)

/-! ## The double of a literal -/

/-- The double that a literal stands for, unless it is out of range. -/
def double? (l : Literal) : Option Double := l.value?.map JsonNumber.toDouble

theorem double?_eq (l : Literal) : l.double? =
    if l.fraction.isNone && l.exponent.isNone && (gatherWhole l.whole 0).2 == 0 then
      some (wholeNumber l.negative (gatherWhole l.whole 0).1).toDouble
    else (scale? (ofInt l.gathered.1) (l.gathered.2 + exponentValue l.exponent)).map fun x =>
      if l.negative then x.neg else x := by
  simp only [double?, value?]
  split
  · rfl
  · rw [Option.map_map]
    rfl

/-- Literals for which nothing is rounded twice: integers of 64 bits, significands of 53 bits with a
    power of ten that is a double, and zeros. -/
def IsExact (l : Literal) : Prop :=
  (l.fraction = none ∧ l.exponent = none ∧ Digits.value l.whole < Nat.pow 2 64) ∨
  (Digits.value l.digits ≤ Nat.pow 2 53 ∧ l.scale.natAbs ≤ 22) ∨ Digits.value l.digits = 0

variable {l : Literal} {x : Double}

theorem rank_wholeNumber (negative : Bool) (n : ℕ) :
    (wholeNumber negative n).toDouble.rank = (ofInt n).rank := by
  unfold wholeNumber
  split
  · split
    · exact rank_neg _
    · simp [JsonNumber.toDouble, ofInt]
  · rfl

theorem isNegative_wholeNumber (negative : Bool) (n : ℕ) :
    (wholeNumber negative n).toDouble.isNegative = negative := by
  unfold wholeNumber
  cases negative with
  | false => exact isNegative_ofInt n
  | true =>
    rw [if_pos rfl]
    split
    · simp [JsonNumber.toDouble, isNegative_ofInt]
    · simp only [JsonNumber.toDouble, ofInt, isNegative_nearest, decide_eq_true_eq]
      omega

theorem double?_of_integer (hfraction : l.fraction = none) (hexponent : l.exponent = none)
    (hlt : Digits.value l.whole < Nat.pow 2 64) :
    l.double? = some (wholeNumber l.negative (Digits.value l.whole)).toDouble := by
  have hgather : gatherWhole l.whole 0 = (Digits.value l.whole, 0) := gatherWhole_eq l.whole 0 hlt
  rw [double?_eq, hgather, hfraction, hexponent]
  rfl

theorem double?_of_not_integer (h : ¬ (l.fraction = none ∧ l.exponent = none)) : l.double? =
    (scale? (ofInt l.gathered.1) (l.gathered.2 + exponentValue l.exponent)).map fun x =>
      if l.negative then x.neg else x := by
  have hcondition : (l.fraction.isNone && l.exponent.isNone) = false := by
    rw [Bool.eq_false_iff]
    simpa using h
  rw [double?_eq, hcondition, Bool.false_and, if_neg Bool.false_ne_true]

theorem rank_sign (negative : Bool) (x : Double) : (if negative then x.neg else x).rank = x.rank := by
  cases negative <;> simp

theorem readRank_map_sign (negative : Bool) (x : Option Double) :
    readRank (x.map fun x => if negative then x.neg else x) = readRank x := by
  cases x with
  | none => rfl
  | some x => exact rank_sign negative x

theorem exists_of_readRank_lt {o : Option Double} (h : readRank o < infinityRank) :
    ∃ x, o = some x ∧ x.rank = readRank o := by
  cases o with
  | none => exact absurd h (lt_irrefl _)
  | some x => exact ⟨x, rfl, rfl⟩

theorem exact_of_integer (hfraction : l.fraction = none) (hexponent : l.exponent = none)
    (hlt : Digits.value l.whole < Nat.pow 2 64) :
    ∃ x, l.double? = some x ∧ IsNearest l.magnitude x.rank := by
  refine ⟨_, double?_of_integer hfraction hexponent hlt, ?_⟩
  rw [rank_wholeNumber, magnitude_of_integer hfraction hexponent]
  exact isNearest_ofInt _

/-- Where nothing is rounded twice, the double is the nearest one. -/
theorem exact (h : l.IsExact) : ∃ x, l.double? = some x ∧ IsNearest l.magnitude x.rank := by
  obtain ⟨hfraction, hexponent, hlt⟩ | h := h
  · exact exact_of_integer hfraction hexponent hlt
  have hlt : Digits.value l.digits < Nat.pow 2 64 := by
    obtain ⟨hle, -⟩ | hzero := h
    · exact hle.trans_lt (by decide)
    · rw [hzero]
      decide
  by_cases hparts : l.fraction = none ∧ l.exponent = none
  · -- an integer is not scaled, also if its digits are few
    rw [digits, hparts.1, Option.getD_none, List.append_nil] at hlt
    exact exact_of_integer hparts.1 hparts.2 hlt
  have hscale : -((l.fraction.getD []).length : ℤ) + exponentValue l.exponent = l.scale := by
    rw [scale]
    omega
  rw [double?_of_not_integer hparts, gathered_eq hlt, hscale]
  -- a rank below that of the infinity is the rank of a double
  suffices hread : IsNearest l.magnitude (readRank (scale? (ofInt (Digits.value l.digits)) l.scale)) ∧
      readRank (scale? (ofInt (Digits.value l.digits)) l.scale) < infinityRank by
    rw [← readRank_map_sign l.negative] at hread
    obtain ⟨x, hx, hrank⟩ := exists_of_readRank_lt hread.2
    exact ⟨x, hx, hrank ▸ hread.1⟩
  obtain ⟨hle, hk⟩ | hzero := h
  · exact ⟨isNearest_scale? hle hk, readRank_scale?_lt hle hk⟩
  · rw [magnitude, hzero, readRank_scale?_zero, Nat.cast_zero, zero_mul]
    exact ⟨isNearest_zero, by decide⟩

/-- A double that is read is finite and has the sign of the literal. -/
theorem double?_spec (h : l.HasDigits) (hx : l.double? = some x) :
    x.isNegative = l.negative ∧ x.rank < infinityRank := by
  rw [double?_eq] at hx
  split at hx
  · cases hx
    refine ⟨isNegative_wholeNumber _ _, ?_⟩
    rw [rank_wholeNumber]
    exact rank_ofInt_lt (gatherWhole_spec h.1 (by decide)).1
  · obtain ⟨y, hy, rfl⟩ := Option.map_eq_some_iff.mp hx
    obtain ⟨hsign, hfinite⟩ := scale?_spec (near_gathered h).1 hy
    refine ⟨?_, by rwa [rank_sign]⟩
    cases l.negative <;> simp [hsign]

/-- The double that is read is at most five ranks away from the nearest one, and so is the infinity
    from the nearest one of a literal that is refused. -/
theorem accurate (h : l.HasDigits) : ∃ r, IsNearest l.magnitude r ∧
    readRank l.double? ≤ r + 5 ∧ r ≤ readRank l.double? + 5 := by
  -- a literal that is read exactly is as near as can be
  have hnearest (hexact : l.IsExact) : ∃ r, IsNearest l.magnitude r ∧
      readRank l.double? ≤ r + 5 ∧ r ≤ readRank l.double? + 5 := by
    obtain ⟨x, hx, hr⟩ := exact hexact
    rw [hx]
    exact ⟨x.rank, hr, Nat.le_add_right _ _, Nat.le_add_right _ _⟩
  obtain ⟨hlt, hnear⟩ := near_gathered h
  by_cases hzero : Digits.value l.digits = 0
  · exact hnearest (.inr (.inr hzero))
  by_cases hinteger : l.fraction = none ∧ l.exponent = none ∧ (gatherWhole l.whole 0).2 = 0
  · obtain ⟨hfraction, hexponent, hall⟩ := hinteger
    refine hnearest (.inl ⟨hfraction, hexponent, ?_⟩)
    rw [value_eq_of_gatherWhole h hall]
    exact (gatherWhole_spec h.1 (by decide)).1
  have hcondition : (l.fraction.isNone && l.exponent.isNone && (gatherWhole l.whole 0).2 == 0) =
      false := by
    rw [Bool.eq_false_iff]
    simpa [and_assoc] using hinteger
  rw [double?_eq, hcondition, if_neg Bool.false_ne_true, readRank_map_sign]
  have hn : 1 ≤ l.gathered.1 := by
    refine Nat.one_le_iff_ne_zero.mpr fun hnone => ?_
    have hle := hnear.2
    rw [hnone, Nat.cast_zero, zero_mul, mul_zero] at hle
    have hpos : (0 : ℚ) < Digits.value l.digits := Nat.cast_pos.mpr (Nat.pos_of_ne_zero hzero)
    exact absurd hle (not_le.mpr (by positivity))
  obtain ⟨p, hp₀, hp, hclose⟩ := close_scale? hn hlt (l.gathered.2 + exponentValue l.exponent)
  obtain ⟨r, hr⟩ := exists_isNearest l.magnitude_nonneg
  refine ⟨r, hr, hclose.ranks ?_ hp₀ l.magnitude_nonneg hp hr⟩
  have hten : (10 : ℚ) ≠ 0 := by norm_num
  have hscaled := hnear.mul_right (c := 10 ^ exponentValue l.exponent) (by positivity)
  rw [mul_assoc, mul_assoc, ← zpow_add₀ hten, ← zpow_add₀ hten, neg_add_eq_sub] at hscaled
  exact hscaled

end Literal
end Json
end LuauLayout
