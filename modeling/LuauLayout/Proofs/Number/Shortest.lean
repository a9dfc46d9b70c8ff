/-
  LuauLayout.Proofs.Number.Shortest

  The search for the shortest decimal finds it.

  On the multiples of a power of ten, a neighbour of the exact value reads back
  if any of them does, since what reads back is an interval around the value. So
  where the search passes over a grid, no decimal of that grid reads back
  (`onGrid?_eq_none`), and the first grid on which it stops has the fewest digits.
  It stops on one: seventeen digits are enough for any magnitude.

    * `Decimal.exists_isFirstGrid` — where the search stops.
    * `Decimal.shortest_spec`      — what it finds, and
      `Decimal.shortest_spec_of_finite` the same with zero.
-/

import LuauLayout.Proofs.Number.Rounding

namespace LuauLayout
namespace Decimal

variable {tie : Tie} {rank : ℕ} {value : Fraction} {k : ℤ} {d : Decimal}

/-! ## Digits -/

/-- Zeros at the end of the significand may be counted in the exponent. -/
theorem toRat_shift (n i : ℕ) (e : ℤ) : toRat ⟨n * 10 ^ i, e⟩ = toRat ⟨n, e + i⟩ := by
  simp only [toRat]
  rw [zpow_add₀ (by norm_num), zpow_natCast]
  push_cast
  ring

theorem digitCount_pos (n : ℕ) : 0 < digitCount n := Nat.length_toDigits_pos

theorem digitCount_le_iff {n c : ℕ} (hc : 0 < c) : digitCount n ≤ c ↔ n < 10 ^ c :=
  Nat.length_toDigits_le_iff (by decide) hc

theorem lt_pow_digitCount (n : ℕ) : n < 10 ^ digitCount n :=
  (digitCount_le_iff (digitCount_pos n)).mp le_rfl

theorem pow_digitCount_le {n : ℕ} (hn : 0 < n) : 10 ^ (digitCount n - 1) ≤ n := by
  obtain hone | hlt : digitCount n = 1 ∨ 1 < digitCount n := by
    have := digitCount_pos n
    omega
  · rw [hone]
    exact hn
  · by_contra hcon
    have := (digitCount_le_iff (by omega)).mpr (Nat.not_le.mp hcon)
    omega

/-! ## One grid -/

theorem nearer_eq (tie : Tie) (low rest unit : ℕ) :
    nearer tie low rest unit = low ∨ nearer tie low rest unit = low + 1 := by
  unfold nearer
  split
  · exact .inl rfl
  split
  · exact .inr rfl
  split
  · split
    · exact .inl rfl
    · exact .inr rfl
  · exact .inr rfl

/-- What is found on a grid is a neighbour of the value that reads back. -/
theorem onGrid?_eq_some (h : onGrid? tie rank value k = some d) :
    d.exponent = k ∧ d.rank = rank ∧ d.significand ≤ (value.scale 10 (-k)).floor + 1 := by
  simp only [onGrid?] at h
  split at h
  · rename_i hlow hhigh
    have hlow : rank = _ := (beq_iff_eq.mp hlow).symm
    have hhigh : rank = _ := (beq_iff_eq.mp hhigh).symm
    cases h
    obtain h | h := nearer_eq tie (value.scale 10 (-k)).floor
        ((value.scale 10 (-k)).num % (value.scale 10 (-k)).den) (value.scale 10 (-k)).den
    · rw [h]
      exact ⟨rfl, hlow.symm, Nat.le_succ _⟩
    · rw [h]
      exact ⟨rfl, hhigh.symm, le_rfl⟩
  · rename_i hlow _
    cases h
    exact ⟨rfl, beq_iff_eq.mp hlow, Nat.le_succ _⟩
  · rename_i _ hhigh
    cases h
    exact ⟨rfl, beq_iff_eq.mp hhigh, le_rfl⟩
  · cases h

/-- The neighbours of a value on a grid. -/
theorem neighbours (hden : 0 < value.den) (k : ℤ) :
    toRat ⟨(value.scale 10 (-k)).floor, k⟩ ≤ value.toRat ∧
    value.toRat < toRat ⟨(value.scale 10 (-k)).floor + 1, k⟩ := by
  have hpos : (0 : ℚ) < 10 ^ k := by positivity
  have hdenScaled : 0 < (value.scale 10 (-k)).den := Fraction.den_scale_pos (by decide) hden _
  have hscaled : (value.scale 10 (-k)).toRat * 10 ^ k = value.toRat := by
    rw [Fraction.toRat_scale (by decide), mul_assoc, Nat.cast_ofNat, ← zpow_add₀ (by norm_num)]
    simp
  have hle := Fraction.floor_le hdenScaled
  have hlt := Fraction.lt_floor_add_one hdenScaled
  simp only [toRat]
  rw [← hscaled]
  push_cast
  exact ⟨mul_le_mul_of_nonneg_right hle hpos.le, mul_lt_mul_of_pos_right hlt hpos⟩

/-- Where nothing is found on a grid, none of its decimals reads back. -/
theorem onGrid?_eq_none (hden : 0 < value.den) (hvalue : Double.IsNearest value.toRat rank)
    (h : onGrid? tie rank value k = none) (n : ℕ) : ¬ Double.IsNearest (toRat ⟨n, k⟩) rank := by
  intro hn
  obtain ⟨hle, hlt⟩ := neighbours hden k
  have hmono : ∀ {a b : ℕ}, a ≤ b → toRat ⟨a, k⟩ ≤ toRat ⟨b, k⟩ := by
    intro a b hab
    simp only [toRat]
    gcongr
  have hreads : ∀ a : ℕ, Double.IsNearest (toRat ⟨a, k⟩) (Decimal.rank ⟨a, k⟩) :=
    fun a => rank_eq_iff.mp rfl
  simp only [onGrid?] at h
  obtain hbelow | habove := le_or_gt n (value.scale 10 (-k)).floor
  · have hlow : Decimal.rank ⟨(value.scale 10 (-k)).floor, k⟩ = rank :=
      hn.between hvalue (hreads _) (hmono hbelow) hle
    split at h <;> simp_all
  · have hhigh : Decimal.rank ⟨(value.scale 10 (-k)).floor + 1, k⟩ = rank :=
      hvalue.between hn (hreads _) hlt.le (hmono habove)
    split at h <;> simp_all

/-! ## The place of the first digit -/

/-- A fraction that is not below one lies in front of the power of ten that its digits give. -/
theorem pow_digitCount_floor {x : Fraction} (hden : 0 < x.den) (hle : x.den ≤ x.num) :
    (10 : ℚ) ^ ((digitCount x.floor : ℤ) - 1) ≤ x.toRat ∧
    x.toRat < 10 ^ (digitCount x.floor : ℤ) := by
  have hfloor : 0 < x.floor := Nat.div_pos hle hden
  have hlow : ((10 ^ (digitCount x.floor - 1) : ℕ) : ℚ) ≤ x.floor := by
    exact_mod_cast pow_digitCount_le hfloor
  have hhigh : ((x.floor + 1 : ℕ) : ℚ) ≤ (10 ^ digitCount x.floor : ℕ) := by
    exact_mod_cast lt_pow_digitCount x.floor
  have hexponent : ((digitCount x.floor : ℤ) - 1) = (digitCount x.floor - 1 : ℕ) := by
    have := digitCount_pos x.floor
    omega
  rw [hexponent, zpow_natCast, zpow_natCast]
  push_cast at hlow hhigh
  exact ⟨hlow.trans (Fraction.floor_le hden), (Fraction.lt_floor_add_one hden).trans_le hhigh⟩

/-- The value lies between two powers of ten, and may be the greater. -/
theorem ceilingExponent_spec (hnum : 0 < value.num) (hden : 0 < value.den) :
    (10 : ℚ) ^ (ceilingExponent value - 1) ≤ value.toRat ∧
    value.toRat ≤ 10 ^ ceilingExponent value := by
  rw [ceilingExponent]
  split
  · rename_i hle
    obtain ⟨hlow, hhigh⟩ := pow_digitCount_floor hden hle
    exact ⟨hlow, hhigh.le⟩
  · -- below one, for the inverse
    rename_i hlt
    obtain ⟨hlow, hhigh⟩ := pow_digitCount_floor (x := ⟨value.den, value.num⟩) hnum (Nat.le_of_not_le hlt)
    have hinverse : Fraction.toRat ⟨value.den, value.num⟩ = value.toRat⁻¹ := by
      rw [Fraction.toRat, Fraction.toRat, inv_div]
    have hpos : 0 < value.toRat := Fraction.toRat_pos hnum hden
    have hfloor : Fraction.floor ⟨value.den, value.num⟩ = value.den / value.num := rfl
    rw [hinverse, hfloor] at hlow hhigh
    set c : ℤ := (digitCount (value.den / value.num) : ℤ)
    have hten : ∀ e : ℤ, (0 : ℚ) < 10 ^ e := fun e => by positivity
    constructor
    · have hexponent : 1 - c - 1 = -c := by ring
      rw [hexponent, zpow_neg]
      exact (inv_lt_of_inv_lt₀ hpos hhigh).le
    · have hexponent : 1 - c = -(c - 1) := by ring
      rw [hexponent, zpow_neg]
      exact (le_inv_comm₀ (hten _) hpos).mp hlow

/-! ## The search -/

theorem exists_of_findSome?_range {α : Type} {f : ℕ → Option α} {a : α} {n : ℕ}
    (h : (List.range n).findSome? f = some a) : ∃ i, f i = some a ∧ ∀ j < i, f j = none := by
  induction n with
  | zero => cases h
  | succ n ih =>
    rw [List.range_succ, List.findSome?_append] at h
    cases hfirst : (List.range n).findSome? f with
    | some b =>
      rw [hfirst, Option.some_or] at h
      exact ih (hfirst.trans h)
    | none =>
      rw [hfirst, Option.none_or, List.findSome?_singleton] at h
      refine ⟨n, h, fun j hj => ?_⟩
      exact List.findSome?_eq_none_iff.mp hfirst j (List.mem_range.mpr hj)

/-- Seventeen digits are enough. -/
theorem onGrid?_seventeen (hnum : 0 < value.num) (hden : 0 < value.den)
    (hrank : rank ≤ Double.infinityRank) (hvalue : value.toRat = Double.magnitude rank) :
    onGrid? tie rank value (ceilingExponent value - 17) ≠ none := by
  intro hnone
  set k : ℤ := ceilingExponent value - 17 with hk
  have hreads := onGrid?_eq_none hden (hvalue ▸ Double.isNearest_magnitude hrank) hnone
  obtain ⟨hle, hlt⟩ := neighbours hden k
  have hpos : (0 : ℚ) < 10 ^ k := by positivity
  -- the value is so many steps of the grid that half a step is less than what doubles tell apart
  have hspacing : 10 ^ k * 10 ^ 16 ≤ value.toRat := by
    refine le_trans (le_of_eq ?_) (ceilingExponent_spec hnum hden).1
    rw [← zpow_natCast, ← zpow_add₀ (by norm_num)]
    congr 1
    omega
  set low := (value.scale 10 (-k)).floor
  -- one of the neighbours is within half of the spacing of the grid
  have hstep : toRat ⟨low + 1, k⟩ = toRat ⟨low, k⟩ + 10 ^ k := by
    simp only [toRat]
    push_cast
    ring
  have hclose : ∀ n : ℕ, |toRat ⟨n, k⟩ - Double.magnitude rank| * 2 ≤ 10 ^ k →
      Double.IsNearest (toRat ⟨n, k⟩) rank := by
    intro n hn
    refine Double.isNearest_of_close hrank ?_
    rw [← hvalue] at hn ⊢
    norm_num at hspacing ⊢
    linarith
  rw [hvalue] at hle hlt
  by_cases hhalf : (Double.magnitude rank - toRat ⟨low, k⟩) * 2 ≤ 10 ^ k
  · refine hreads low (hclose low ?_)
    rw [abs_of_nonpos (by linarith)]
    linarith
  · refine hreads (low + 1) (hclose (low + 1) ?_)
    rw [abs_of_nonneg (by linarith)]
    linarith

/-- A magnitude as a fraction. -/
theorem toRat_dyadicOfRank (rank : ℕ) :
    (Double.dyadicOfRank rank).toFraction.toRat = Double.magnitude rank :=
  Dyadic.toRat_toFraction _

/-- The multiples of `10 ^ (top - i)` are the first on which the search stops, with the decimal
    `d`; `10 ^ top` is the power of ten over the value. -/
structure IsFirstGrid (rank : ℕ) (d : Decimal) (top : ℤ) (i : ℕ) : Prop where
  le_magnitude : (10 : ℚ) ^ (top - 1) ≤ Double.magnitude rank
  magnitude_le : Double.magnitude rank ≤ 10 ^ top
  exponent_eq : d.exponent = top - i
  reads : Double.IsNearest d.toRat rank
  close : d.toRat ≤ Double.magnitude rank + 10 ^ (top - i)
  none_before : ∀ j < i, ∀ n : ℕ, ¬ Double.IsNearest (toRat ⟨n, top - j⟩) rank

theorem exists_isFirstGrid (tie : Tie) (hpos : 0 < rank) (hrank : rank < Double.infinityRank) :
    ∃ (top : ℤ) (i : ℕ), IsFirstGrid rank (shortest tie rank) top i := by
  set value := (Double.dyadicOfRank rank).toFraction with hvalue
  have htoRat : value.toRat = Double.magnitude rank := toRat_dyadicOfRank rank
  have hden : 0 < value.den := Dyadic.den_toFraction_pos _
  have hnum : 0 < value.num := by
    refine Nat.pos_of_ne_zero fun hzero => (Double.magnitude_pos hpos).ne' ?_
    rw [← htoRat, Fraction.toRat, hzero, Nat.cast_zero, zero_div]
  obtain ⟨hlow, hhigh⟩ := ceilingExponent_spec hnum hden
  -- the search does not fall through: seventeen digits are enough, and twenty grids are tried
  have hsearch : ∃ d, (List.range 20).findSome?
      (fun i : ℕ => onGrid? tie rank value (ceilingExponent value - i)) = some d := by
    refine Option.ne_none_iff_exists'.mp fun hnone => ?_
    exact onGrid?_seventeen hnum hden hrank.le htoRat
      (List.findSome?_eq_none_iff.mp hnone 17 (List.mem_range.mpr (by decide)))
  obtain ⟨d, hd⟩ := hsearch
  obtain ⟨i, hi, hbefore⟩ := exists_of_findSome?_range hd
  have hshortest : shortest tie rank = d := by
    rw [shortest, if_neg hpos.ne']
    simp only [← hvalue, hd, Option.getD_some]
  obtain ⟨hexponent, hreads, hsignificand⟩ := onGrid?_eq_some hi
  have hclose : d.toRat ≤ Double.magnitude rank + 10 ^ (ceilingExponent value - i) := by
    have hbelow := (neighbours hden (ceilingExponent value - i)).1
    have hcast : (d.significand : ℚ) ≤
        (value.scale 10 (-(ceilingExponent value - i))).floor + 1 := by exact_mod_cast hsignificand
    have hgrid : (0 : ℚ) < 10 ^ (ceilingExponent value - i) := by positivity
    rw [← htoRat]
    simp only [toRat, hexponent] at hbelow ⊢
    nlinarith
  refine ⟨ceilingExponent value, i, htoRat ▸ hlow, htoRat ▸ hhigh, ?_, ?_, ?_, ?_⟩
  · rw [hshortest, hexponent]
  · rw [hshortest, ← hreads]
    exact rank_eq_iff.mp rfl
  · rw [hshortest]
    exact hclose
  · exact fun j hj =>
      onGrid?_eq_none hden (htoRat ▸ Double.isNearest_magnitude hrank.le) (hbefore j hj)

namespace IsFirstGrid

variable {top : ℤ} {i : ℕ}

/-- A power of ten on one of the grids before does not read back either. -/
theorem not_isNearest_pow (h : IsFirstGrid rank d top i) {j : ℕ} (hj : j < i) :
    ¬ Double.IsNearest ((10 : ℚ) ^ (top - j)) rank := by
  intro hpower
  refine h.none_before j hj 1 ?_
  rwa [toRat, Nat.cast_one, one_mul]

theorem significand_pos (h : IsFirstGrid rank d top i) (hpos : 0 < rank) : 0 < d.significand := by
  refine Nat.pos_of_ne_zero fun hzero => hpos.ne' ?_
  have hreads := h.reads
  have hzeroRat : d.toRat = Double.magnitude 0 := by simp [toRat, hzero]
  rw [hzeroRat] at hreads
  exact hreads.unique (Double.isNearest_magnitude (Nat.zero_le _))

/-- On the grid with `i` digits behind `10 ^ top`, a decimal below has `i` digits at most. -/
theorem digitCount_le (h : IsFirstGrid rank d top i) : digitCount d.significand ≤ max i 1 := by
  have hgrid : (0 : ℚ) < 10 ^ (top - i) := by positivity
  have htop : (10 : ℚ) ^ top = 10 ^ i * 10 ^ (top - i) := by
    rw [← zpow_natCast, ← zpow_add₀ (by norm_num)]
    congr 1
    omega
  have htoRat : d.toRat = d.significand * 10 ^ (top - i) := by rw [toRat, h.exponent_eq]
  have hclose := h.close
  rw [htoRat] at hclose
  have hle : (d.significand : ℚ) * 10 ^ (top - i) ≤ (10 ^ i + 1 : ℕ) * 10 ^ (top - i) := by
    have := h.magnitude_le
    push_cast
    linarith
  have hsignificand : d.significand ≤ 10 ^ i + 1 := by
    exact_mod_cast le_of_mul_le_mul_right hle hgrid
  obtain rfl | hi := Nat.eq_zero_or_pos i
  · exact (digitCount_le_iff Nat.one_pos).mpr (by omega)
  · -- the value is not `10 ^ top`, and neither is the decimal: both would have been found at once
    have hnotTop : ¬ Double.IsNearest ((10 : ℚ) ^ top) rank := by
      simpa using h.not_isNearest_pow hi
    have hmagnitude : Double.magnitude rank < 10 ^ top := by
      refine lt_of_le_of_ne h.magnitude_le fun heq => hnotTop ?_
      rw [← heq]
      exact Double.isNearest_magnitude h.reads.1
    have hlt : (d.significand : ℚ) * 10 ^ (top - i) < (10 ^ i + 1 : ℕ) * 10 ^ (top - i) := by
      push_cast
      linarith
    have hlt : d.significand < 10 ^ i + 1 := by exact_mod_cast lt_of_mul_lt_mul_right hlt hgrid.le
    have hne : d.significand ≠ 10 ^ i := by
      intro heq
      refine hnotTop ?_
      have hreads := h.reads
      rwa [htoRat, heq, Nat.cast_pow, Nat.cast_ofNat, ← htop] at hreads
    rw [max_eq_left (by omega), Decimal.digitCount_le_iff hi]
    omega

/-- No decimal with fewer digits reads back: it would lie on one of the grids before, or below
    `10 ^ (top - 1)`, which then reads back as well. -/
theorem digitCount_le_of_reads (h : IsFirstGrid rank d top i) {w : Decimal}
    (hw : Double.IsNearest w.toRat rank) : digitCount d.significand ≤ digitCount w.significand := by
  have hcount := h.digitCount_le
  have hpos := digitCount_pos w.significand
  by_contra hcon
  set c := digitCount w.significand with hc
  by_cases hplace : top - c ≤ w.exponent
  · -- all its digits are on one of the grids before
    obtain ⟨shift, hshift⟩ := Int.eq_ofNat_of_zero_le (Int.sub_nonneg.mpr hplace)
    refine h.none_before c (by omega) (w.significand * 10 ^ shift) ?_
    have hexponent : top - (c : ℤ) + (shift : ℕ) = w.exponent := by omega
    rwa [toRat_shift, hexponent]
  · -- it is too small, and the power of ten between it and the value reads back too
    have hbelow : w.toRat ≤ 10 ^ (top - 1) := by
      have hlt : (w.significand : ℚ) ≤ 10 ^ (c : ℤ) := by
        rw [zpow_natCast]
        exact_mod_cast (lt_pow_digitCount w.significand).le
      calc w.toRat = w.significand * 10 ^ w.exponent := rfl
        _ ≤ 10 ^ (c : ℤ) * 10 ^ w.exponent := by gcongr
        _ = 10 ^ (c + w.exponent) := (zpow_add₀ (by norm_num) _ _).symm
        _ ≤ 10 ^ (top - 1) := zpow_le_zpow_right₀ (by norm_num) (by omega)
    have hpower : Double.IsNearest ((10 : ℚ) ^ (top - 1)) (Decimal.rank ⟨1, top - 1⟩) := by
      have hself := rank_eq_iff.mp (rfl : Decimal.rank ⟨1, top - 1⟩ = _)
      rwa [toRat, Nat.cast_one, one_mul] at hself
    have heq := hw.between (Double.isNearest_magnitude hw.1) hpower hbelow h.le_magnitude
    rw [heq] at hpower
    exact h.not_isNearest_pow (j := 1) (by omega) (by simpa using hpower)

/-- The last digit is not zero: without it the decimal would be on the grid before. -/
theorem significand_mod_ten (h : IsFirstGrid rank d top i) (hpos : 0 < rank) :
    d.significand % 10 ≠ 0 := by
  intro hzero
  have hsignificand := h.significand_pos hpos
  obtain rfl | hi := Nat.eq_zero_or_pos i
  · have hlt : d.significand < 10 ^ 1 := (digitCount_le_iff (by decide)).mp h.digitCount_le
    omega
  · refine h.none_before (i - 1) (by omega) (d.significand / 10) ?_
    have hexponent : top - ((i - 1 : ℕ) : ℤ) = d.exponent + (1 : ℕ) := by
      have := h.exponent_eq
      omega
    rw [hexponent, ← toRat_shift, pow_one, Nat.div_mul_cancel (Nat.dvd_of_mod_eq_zero hzero)]
    exact h.reads

end IsFirstGrid

/-- The decimal that is found reads back; no decimal with fewer digits does; and its last digit is
    not zero. -/
theorem shortest_spec (tie : Tie) (hpos : 0 < rank) (hrank : rank < Double.infinityRank) :
    Double.IsNearest (shortest tie rank).toRat rank ∧
    (∀ w : Decimal, Double.IsNearest w.toRat rank →
      digitCount (shortest tie rank).significand ≤ digitCount w.significand) ∧
    (shortest tie rank).significand % 10 ≠ 0 := by
  obtain ⟨top, i, h⟩ := exists_isFirstGrid tie hpos hrank
  exact ⟨h.reads, fun w => h.digitCount_le_of_reads, h.significand_mod_ten hpos⟩

/-- The same with zero, whose decimal is the only one that ends in a zero. -/
theorem shortest_spec_of_finite (tie : Tie) (hrank : rank < Double.infinityRank) :
    Double.IsNearest (shortest tie rank).toRat rank ∧
    (∀ w : Decimal, Double.IsNearest w.toRat rank →
      digitCount (shortest tie rank).significand ≤ digitCount w.significand) ∧
    ((shortest tie rank).significand % 10 ≠ 0 ∨ shortest tie rank = ⟨0, 0⟩) := by
  obtain rfl | hpos := Nat.eq_zero_or_pos rank
  · have hzero : shortest tie 0 = ⟨0, 0⟩ := rfl
    have hvalue : toRat ⟨0, 0⟩ = Double.magnitude 0 := by simp [toRat]
    rw [hzero, hvalue]
    exact ⟨Double.isNearest_magnitude (Nat.zero_le _), fun w _ => digitCount_pos _, .inr rfl⟩
  · obtain ⟨hreads, hminimal, hmod⟩ := shortest_spec tie hpos hrank
    exact ⟨hreads, hminimal, .inl hmod⟩

end Decimal
end LuauLayout
