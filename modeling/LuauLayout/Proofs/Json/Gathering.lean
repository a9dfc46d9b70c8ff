/-
  LuauLayout.Proofs.Json.Gathering

  The digits of a literal, gathered into 64 bits.

  Digits are gathered until the next would not fit. Then at least nineteen of them
  are there, so the number that they stand for and that of the literal agree up to
  a factor hardly different from one.

    * `Literal.magnitude`     — the number that a literal stands for.
    * `Literal.near_gathered` — the number that is gathered is near to it.
    * `Literal.gathered_eq`   — and the same if all digits fit.
-/

import LuauLayout.Proofs.Json.Integers
import LuauLayout.Proofs.Number.Accuracy
import LuauLayout.Proofs.Number.SourceText

namespace LuauLayout

/-! ## Digits -/

namespace Digits

theorem ofChar_le {d : Char} (h : d.isDigit = true) : ofChar d ≤ 9 := by
  simp only [Char.isDigit, Bool.and_eq_true, decide_eq_true_eq] at h
  have hle : d.toNat ≤ 57 := h.2
  unfold ofChar
  omega

theorem value_cons (d : Char) (ds : List Char) :
    value (d :: ds) = ofChar d * 10 ^ ds.length + value ds := by
  have h := value_append [d] ds
  simpa [value] using h

theorem value_lt {ds : List Char} (h : ∀ d ∈ ds, d.isDigit = true) :
    value ds < 10 ^ ds.length := by
  induction ds with
  | nil => simp [value]
  | cons d ds ih =>
    obtain ⟨hd, hds⟩ := List.forall_mem_cons.mp h
    have hdigit := ofChar_le hd
    have hrest := ih hds
    rw [value_cons, List.length_cons, Nat.pow_succ]
    nlinarith

/-- Digits as a front and a rest. -/
theorem value_take_drop (n : ℕ) (ds : List Char) :
    value ds = value (ds.take n) * 10 ^ (ds.length - n) + value (ds.drop n) := by
  conv_lhs => rw [← List.take_append_drop n ds]
  rw [value_append, List.length_drop]

theorem value_take_lt {ds : List Char} (h : ∀ d ∈ ds, d.isDigit = true) {n : ℕ}
    (hn : n ≤ ds.length) : value (ds.take n) < 10 ^ n := by
  have hlt : value (ds.take n) < 10 ^ (ds.take n).length :=
    value_lt fun d hd => h d (List.mem_of_mem_take hd)
  rwa [List.length_take, min_eq_left hn] at hlt

theorem value_drop_lt {ds : List Char} (h : ∀ d ∈ ds, d.isDigit = true) (n : ℕ) :
    value (ds.drop n) < 10 ^ (ds.length - n) := by
  rw [← List.length_drop]
  exact value_lt fun d hd => h d (List.mem_of_mem_drop hd)

end Digits

namespace Json
namespace Literal

variable {l : Literal}

/-! ## What a literal stands for -/

/-- All digits of a literal. -/
def digits (l : Literal) : List Char := l.whole ++ l.fraction.getD []

/-- The power of ten that the last digit is counted in. -/
def scale (l : Literal) : ℤ := exponentValue l.exponent - (l.fraction.getD []).length

/-- The rational number that a literal stands for, the sign left aside. -/
def magnitude (l : Literal) : ℚ := Digits.value l.digits * 10 ^ l.scale

theorem magnitude_nonneg (l : Literal) : 0 ≤ l.magnitude := by
  unfold magnitude
  positivity

theorem magnitude_of_integer (hfraction : l.fraction = none) (hexponent : l.exponent = none) :
    l.magnitude = Digits.value l.whole := by
  simp [magnitude, digits, scale, hfraction, hexponent, exponentValue]

/-! ## Gathering digits -/

/-- Whole digits are gathered all, or until there are too many of them for 64 bits; the significand
    is then the front of the number. -/
theorem gatherWhole_spec {ds : List Char} (h : ∀ d ∈ ds, d.isDigit = true) {s : ℕ} (hs : s < 2 ^ 64) :
    (gatherWhole ds s).1 < 2 ^ 64 ∧
    ((gatherWhole ds s = (s * 10 ^ ds.length + Digits.value ds, 0)) ∨
      (2 ^ 64 ≤ (gatherWhole ds s).1 * 10 + 9 ∧
        (gatherWhole ds s).1 * 10 ^ (gatherWhole ds s).2 ≤ s * 10 ^ ds.length + Digits.value ds ∧
        s * 10 ^ ds.length + Digits.value ds <
          ((gatherWhole ds s).1 + 1) * 10 ^ (gatherWhole ds s).2)) := by
  induction ds generalizing s with
  | nil => simpa [gatherWhole, Digits.value] using hs
  | cons d ds ih =>
    obtain ⟨hd, hds⟩ := List.forall_mem_cons.mp h
    have hdigit := Digits.ofChar_le hd
    -- what is read and what is still to come stand for one number, however many digits are taken
    have hvalue : s * 10 ^ (d :: ds).length + Digits.value (d :: ds) =
        (s * 10 + Digits.ofChar d) * 10 ^ ds.length + Digits.value ds := by
      rw [Digits.value_cons, List.length_cons]
      ring
    rw [gatherWhole, hvalue]
    split
    · rename_i hlt
      exact ih hds hlt
    · rename_i hge
      have hrest := Digits.value_lt hds
      -- the next digit does not fit, so the significand is almost 64 bits long already
      refine ⟨hs, .inr ⟨?_, ?_, ?_⟩⟩
      · have : Nat.pow 2 64 = 2 ^ 64 := rfl
        omega
      · rw [Nat.pow_succ]
        nlinarith
      · rw [Nat.pow_succ]
        nlinarith

/-- The digits of a fraction are gathered all, or until there are too many of them. -/
theorem gatherFraction_spec {ds : List Char} (h : ∀ d ∈ ds, d.isDigit = true) {s : ℕ}
    (hs : s < 2 ^ 64) :
    (gatherFraction ds s).1 < 2 ^ 64 ∧ (gatherFraction ds s).2 ≤ ds.length ∧
    (gatherFraction ds s).1 =
      s * 10 ^ (gatherFraction ds s).2 + Digits.value (ds.take (gatherFraction ds s).2) ∧
    ((gatherFraction ds s).2 = ds.length ∨ 2 ^ 64 ≤ (gatherFraction ds s).1 * 10 + 9) := by
  induction ds generalizing s with
  | nil => simpa [gatherFraction, Digits.value] using hs
  | cons d ds ih =>
    obtain ⟨hd, hds⟩ := List.forall_mem_cons.mp h
    have hdigit := Digits.ofChar_le hd
    rw [gatherFraction]
    split
    · rename_i hlt
      obtain ⟨hbound, hlength, hvalue, hend⟩ := ih hds hlt
      refine ⟨hbound, by simpa using hlength, ?_, by simpa using hend⟩
      simp only [List.take_succ_cons]
      rw [Digits.value_cons, List.length_take, min_eq_left hlength]
      rw [hvalue]
      ring
    · rename_i hge
      refine ⟨hs, Nat.zero_le _, by simp [Digits.value], .inr ?_⟩
      have : Nat.pow 2 64 = 2 ^ 64 := rfl
      omega

/-- The significand and the power of ten that digits are gathered to, and so the number that is
    scaled by the written exponent. -/
def gathered (l : Literal) : ℕ × ℤ :=
  ((gatherFraction (l.fraction.getD []) (gatherWhole l.whole 0).1).1,
    (gatherWhole l.whole 0).2 - (gatherFraction (l.fraction.getD []) (gatherWhole l.whole 0).1).2)

/-- A literal made of digits. -/
def HasDigits (l : Literal) : Prop :=
  (∀ d ∈ l.whole, d.isDigit = true) ∧ ∀ d ∈ l.fraction.getD [], d.isDigit = true

theorem hasDigits_of_ofChars? {cs : List Char} (h : ofChars? cs = some l) : l.HasDigits := by
  obtain ⟨_, _, _, -, hwhole, hfraction, -⟩ := ofChars?_eq_some_iff.mp h
  exact ⟨(takeWhole?_eq_some hwhole).2.2, (takeFraction?_eq_some hfraction).2⟩

theorem near_of_between {g m a b : ℚ} (hg : 0 ≤ g) (ha : m ≤ a) (ha' : a ≤ g * m) (hb : m ≤ b)
    (hb' : b ≤ g * m) : Double.Near g a b :=
  ⟨ha'.trans (mul_le_mul_of_nonneg_left hb hg), hb'.trans (mul_le_mul_of_nonneg_left ha hg)⟩

/-- What is cut off behind the point is less than the last digit kept, `unit`. -/
theorem near_cut_fraction {n rest unit : ℚ} (hn : 0 ≤ n) (hrest : 0 ≤ rest) (hle : rest ≤ unit)
    (hend : rest = 0 ∨ 2 ^ 60 * unit ≤ n) : Double.Near (1 + 1 / 2 ^ 59) n (n + rest) := by
  refine near_of_between (by norm_num) le_rfl (by linarith) (by linarith) ?_
  norm_num at hend ⊢
  obtain rfl | hend := hend <;> linarith

/-- What is cut off in front of the point is less than the last digit kept, `unit`; the digits behind
    the point are then worth no more than that. -/
theorem near_cut_whole {s whole front rest unit : ℚ} (hunit : 0 < unit) (hs : 2 ^ 60 ≤ s)
    (hlow : s * unit ≤ whole) (hhigh : whole + 1 ≤ (s + 1) * unit) (hfront : 0 ≤ front)
    (hrest : 0 ≤ rest) (hle : front + rest ≤ 1) :
    Double.Near (1 + 1 / 2 ^ 59) ((s + front) * unit) (whole + front + rest) := by
  have hlong : 2 ^ 60 * unit ≤ s * unit := mul_le_mul_of_nonneg_right hs hunit.le
  have hmost : front * unit ≤ unit := mul_le_of_le_one_left hunit.le (by linarith)
  have hleast : 0 ≤ front * unit := mul_nonneg hfront hunit.le
  norm_num at hlong
  refine near_of_between (m := s * unit) (by norm_num) ?_ ?_ (by linarith) ?_ <;>
    norm_num <;> linarith

section Front

variable {whole front rest s₀ dropped taken left : ℕ}

/-- A significand in units of its last digit, or of the last whole digit kept. -/
theorem front_eq : ((s₀ * 10 ^ taken + front : ℕ) : ℚ) * 10 ^ ((dropped : ℤ) - taken) =
    (s₀ + front / 10 ^ taken) * 10 ^ dropped := by
  rw [zpow_sub₀ (by norm_num), zpow_natCast, zpow_natCast]
  push_cast
  field_simp

/-- A number as its whole part, the digits kept behind the point, and those cut off. -/
theorem number_eq : ((whole * 10 ^ (taken + left) + (front * 10 ^ left + rest) : ℕ) : ℚ) *
    10 ^ (-((taken + left : ℕ) : ℤ)) =
      whole + front / 10 ^ taken + rest / (10 ^ taken * 10 ^ left) := by
  rw [zpow_neg, zpow_natCast, pow_add]
  push_cast
  rw [pow_add]
  field_simp
  ring

/-- A significand that is the front of a number, cut off in the fraction or before it, against the
    number; it is long enough if anything is cut off. -/
theorem near_front (hfront : front < 10 ^ taken) (hrest : rest < 10 ^ left)
    (hend : rest = 0 ∨ 2 ^ 60 ≤ s₀ * 10 ^ taken + front)
    (hwhole : (s₀ = whole ∧ dropped = 0) ∨
      (2 ^ 60 ≤ s₀ ∧ s₀ * 10 ^ dropped ≤ whole ∧ whole < (s₀ + 1) * 10 ^ dropped)) :
    Double.Near (1 + 1 / 2 ^ 59)
      ((s₀ * 10 ^ taken + front : ℕ) * 10 ^ ((dropped : ℤ) - taken))
      ((whole * 10 ^ (taken + left) + (front * 10 ^ left + rest) : ℕ) *
        10 ^ (-((taken + left : ℕ) : ℤ))) := by
  have ht : (0 : ℚ) < 10 ^ taken := by positivity
  -- the digits behind the point, kept and cut off, against the last one kept
  have hkept : (0 : ℚ) ≤ front / 10 ^ taken := by positivity
  have hcut : (0 : ℚ) ≤ rest / (10 ^ taken * 10 ^ left) := by positivity
  have hsum : (front : ℚ) / 10 ^ taken + 1 / 10 ^ taken ≤ 1 := by
    rw [← add_div, div_le_one ht]
    exact_mod_cast hfront
  have hless : (rest : ℚ) / (10 ^ taken * 10 ^ left) ≤ 1 / 10 ^ taken := by
    have hle : (rest : ℚ) ≤ 10 ^ left := by exact_mod_cast hrest.le
    rw [div_le_div_iff₀ (by positivity) ht]
    nlinarith
  rw [front_eq, number_eq]
  obtain ⟨rfl, rfl⟩ | ⟨hlong, hlow, hhigh⟩ := hwhole
  · rw [pow_zero, mul_one]
    refine near_cut_fraction (by positivity) hcut hless ?_
    refine hend.imp (fun hzero => by rw [hzero, Nat.cast_zero, zero_div]) fun hlong => ?_
    have hlong : (2 : ℚ) ^ 60 ≤ s₀ * 10 ^ taken + front := by exact_mod_cast hlong
    rw [mul_one_div, div_le_iff₀ ht]
    calc (2 : ℚ) ^ 60 ≤ s₀ * 10 ^ taken + front := hlong
      _ = (s₀ + front / 10 ^ taken) * 10 ^ taken := by field_simp
  · exact near_cut_whole (by positivity) (by exact_mod_cast hlong) (by exact_mod_cast hlow)
      (by exact_mod_cast hhigh) hkept hcut (by linarith)

end Front

/-- The digits that are dropped do not matter much. -/
theorem near_gathered {l : Literal} (h : l.HasDigits) : l.gathered.1 < 2 ^ 64 ∧
    Double.Near (1 + 1 / 2 ^ 59) (l.gathered.1 * 10 ^ l.gathered.2)
      (Digits.value l.digits * 10 ^ (-((l.fraction.getD []).length : ℤ))) := by
  obtain ⟨hwhole, hfraction⟩ := h
  simp only [gathered, digits]
  generalize l.fraction.getD [] = fraction at *
  generalize l.whole = whole at *
  obtain ⟨hs₀, hgather⟩ := gatherWhole_spec hwhole (by decide : 0 < 2 ^ 64)
  obtain ⟨hs, htaken, hvalue, hend⟩ := gatherFraction_spec hfraction hs₀
  refine ⟨hs, ?_⟩
  set s₀ := (gatherWhole whole 0).1 with hs₀def
  set dropped := (gatherWhole whole 0).2 with hdropped
  set taken := (gatherFraction fraction s₀).2
  set left := fraction.length - taken
  have hlength : fraction.length = taken + left := by omega
  have hfront := Digits.value_take_lt hfraction htaken
  have hrest : Digits.value (fraction.drop taken) < 10 ^ left := Digits.value_drop_lt hfraction taken
  -- the number, by whole digits, digits of the fraction that are taken, and the others
  have hall : Digits.value (whole ++ fraction) = Digits.value whole * 10 ^ (taken + left) +
      (Digits.value (fraction.take taken) * 10 ^ left + Digits.value (fraction.drop taken)) := by
    rw [Digits.value_append, ← hlength, Digits.value_take_drop taken fraction]
  rw [hvalue, hall, hlength]
  refine near_front hfront hrest ?_ ?_
  · refine hend.imp (fun hall => ?_) fun hlong => ?_
    · rw [List.drop_eq_nil_of_le hall.ge]
      rfl
    · rw [← hvalue]
      omega
  · refine hgather.imp (fun hfits => ?_) fun hcut => ?_
    · have hs₀ : s₀ = Digits.value whole := by simp [hs₀def, hfits]
      have hdropped : dropped = 0 := by simp [hdropped, hfits]
      exact ⟨hs₀, hdropped⟩
    · rw [zero_mul, zero_add] at hcut
      exact ⟨by omega, hcut.2⟩

/-- All digits are gathered if they fit into 64 bits. -/
theorem gathered_eq (h : Digits.value l.digits < Nat.pow 2 64) :
    l.gathered = (Digits.value l.digits, -((l.fraction.getD []).length : ℤ)) := by
  have hdigits : Digits.value l.digits = (l.fraction.getD []).foldl
      (fun n d => n * 10 + Digits.ofChar d) (Digits.value l.whole) := List.foldl_append
  rw [hdigits] at h ⊢
  have hwhole : gatherWhole l.whole 0 = (Digits.value l.whole, 0) :=
    gatherWhole_eq l.whole 0 ((le_foldl_digits _ _).trans_lt h)
  simp only [gathered, hwhole, gatherFraction_eq _ _ h, Nat.cast_zero, zero_sub]

/-- An integer literal whose digits were all gathered. -/
theorem value_eq_of_gatherWhole (h : l.HasDigits) (hall : (gatherWhole l.whole 0).2 = 0) :
    Digits.value l.whole = (gatherWhole l.whole 0).1 := by
  obtain ⟨-, heq | ⟨-, hlow, hhigh⟩⟩ := gatherWhole_spec h.1 (by decide : 0 < 2 ^ 64)
  · rw [heq, zero_mul, zero_add]
  · rw [hall, pow_zero] at hlow hhigh
    omega

end Literal
end Json
end LuauLayout
