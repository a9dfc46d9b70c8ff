/-
  LuauLayout.Proofs.Number.SourceText

  The text of a number as a constant of the source language reads back as that
  number.

  A `PlainNumeral` is a numeral `-?(0|[1-9][0-9]*)(.[0-9]*[1-9])?`, so that its
  value is plain rational arithmetic. Setting the point into the digits of a
  decimal gives such a numeral with the value of the decimal
  (`PlainNumeral.exists_setPoint`); which decimal it is has been settled by
  `Decimal.shortest_spec_of_finite`.
-/

import LuauLayout.Number.Digits
import LuauLayout.Number.Numeral
import LuauLayout.Proofs.Number.Shortest

namespace LuauLayout

/-! ## Digits -/

namespace Digits

theorem foldl_eq (ds : List Char) (n : ℕ) :
    ds.foldl (fun n d => n * 10 + ofChar d) n = n * 10 ^ ds.length + value ds := by
  induction ds generalizing n with
  | nil => simp [value]
  | cons d ds ih =>
    rw [value, List.foldl_cons, List.foldl_cons, ih, ih (0 * 10 + ofChar d), List.length_cons]
    ring

theorem value_append (ds es : List Char) :
    value (ds ++ es) = value ds * 10 ^ es.length + value es := by
  rw [value, List.foldl_append, foldl_eq es]
  rfl

@[simp] theorem value_replicate_zero (n : ℕ) : value (List.replicate n '0') = 0 := by
  induction n with
  | zero => rfl
  | succ n ih => rw [List.replicate_succ', value_concat, ih]; rfl

theorem getLast?_toDigits (n : ℕ) :
    (Nat.toDigits 10 n).getLast? = some (Nat.digitChar (n % 10)) := by
  rw [Nat.toDigits_eq_if (by decide)]
  split
  · rename_i h
    rw [Nat.mod_eq_of_lt h]
    rfl
  · rw [List.getLast?_concat]

/-- Digits without the zeros in front. -/
def dropZeros (ds : List Char) : List Char := ds.dropWhile (· == '0')

/-- Digits without the zeros in front and behind. -/
def significant (ds : List Char) : List Char := (dropZeros (dropZeros ds).reverse).reverse

theorem dropZeros_replicate_append (n : ℕ) (ds : List Char) :
    dropZeros (List.replicate n '0' ++ ds) = dropZeros ds := by
  refine List.dropWhile_append_of_pos fun c hc => ?_
  rw [List.eq_of_mem_replicate hc]
  rfl

theorem length_dropZeros_le (ds : List Char) : (dropZeros ds).length ≤ ds.length :=
  (List.dropWhile_sublist _).length_le

@[simp] theorem dropZeros_replicate (n : ℕ) : dropZeros (List.replicate n '0') = [] := by
  have h := dropZeros_replicate_append n []
  rwa [List.append_nil] at h

/-- Zeros around digits are not significant. -/
theorem length_significant_le (a b : ℕ) (ds : List Char) :
    (significant (List.replicate a '0' ++ (ds ++ List.replicate b '0'))).length ≤ ds.length := by
  have hfront : dropZeros (ds ++ List.replicate b '0') =
      if (dropZeros ds).isEmpty then [] else dropZeros ds ++ List.replicate b '0' := by
    rw [← dropZeros_replicate b]
    exact List.dropWhile_append
  rw [significant, dropZeros_replicate_append, hfront, List.length_reverse]
  split
  · exact Nat.zero_le _
  · rw [List.reverse_append, List.reverse_replicate, dropZeros_replicate_append]
    refine (length_dropZeros_le _).trans ?_
    rw [List.length_reverse]
    exact length_dropZeros_le ds

end Digits

/-! ## Plain numerals -/

/-- A numeral `-?(0|[1-9][0-9]*)(.[0-9]*[1-9])?` by its parts. -/
structure PlainNumeral where
  negative : Bool
  whole : List Char
  fraction : List Char
  isDigit : ∀ c ∈ whole ++ fraction, c.isDigit = true
  whole_ne_nil : whole ≠ []
  leading : whole.head? = some '0' → whole = ['0']
  trailing : fraction.getLast? ≠ some '0'

namespace PlainNumeral

/-- The numeral as it is written. -/
def chars (n : PlainNumeral) : List Char :=
  (if n.negative then ['-'] else []) ++
    (n.whole ++ if n.fraction.isEmpty then [] else '.' :: n.fraction)

/-- What the digits stand for, the sign left aside. -/
def magnitude (n : PlainNumeral) : ℚ :=
  Digits.value (n.whole ++ n.fraction) * 10 ^ (-(n.fraction.length : ℤ))

/-- How many digits there are between the zeros in front and behind. -/
def significantDigits (n : PlainNumeral) : ℕ := (Digits.significant (n.whole ++ n.fraction)).length

/-- The whole part is what stands in front of the first character that is no digit. -/
theorem takeWhile_unsigned (n : PlainNumeral) :
    (n.whole ++ if n.fraction.isEmpty then [] else '.' :: n.fraction).takeWhile Char.isDigit =
      n.whole := by
  rw [List.takeWhile_append_of_pos fun c hc => n.isDigit c (List.mem_append_left _ hc)]
  split <;> simp

theorem head?_whole_ne_minus (n : PlainNumeral) : n.whole.head? ≠ some '-' := by
  intro h
  have hdigit := n.isDigit '-' (List.mem_append_left _ (List.mem_of_head? h))
  exact absurd hdigit (by decide)

/-- A numeral is read in only one way. -/
theorem eq_of_chars_eq {n m : PlainNumeral} (h : n.chars = m.chars) :
    n.negative = m.negative ∧ n.whole = m.whole ∧ n.fraction = m.fraction := by
  have hsign : ∀ p : PlainNumeral, p.negative = true ↔ p.chars.head? = some '-' := by
    intro p
    rw [chars]
    cases hp : p.negative with
    | true => simp
    | false => simp [p.whole_ne_nil, p.head?_whole_ne_minus]
  have hnegative : n.negative = m.negative := by
    rw [Bool.eq_iff_iff, hsign, hsign, h]
  rw [chars, chars, hnegative] at h
  have hunsigned := List.append_cancel_left h
  have hwhole : n.whole = m.whole := by
    rw [← n.takeWhile_unsigned, hunsigned, m.takeWhile_unsigned]
  rw [hwhole] at hunsigned
  have hfraction := List.append_cancel_left hunsigned
  refine ⟨hnegative, hwhole, ?_⟩
  split at hfraction <;> split at hfraction <;> simp_all

end PlainNumeral

/-! ## Setting the point -/

/-- Digits that are written with neither a zero in front nor one behind, but for zero itself. -/
def Numeral.IsReduced (ds : List Char) (e : ℤ) : Prop :=
  (ds.head? ≠ some '0' ∧ ds.getLast? ≠ some '0') ∨ (ds = ['0'] ∧ e = 0)

/-- The digits `whole` in front of the point and `fraction` behind it are the digits `ds`, the first
    of which stands for `10 ^ e`, with `a` zeros in front and `b` behind; no zero is needless. -/
structure Numeral.IsPlaced (ds : List Char) (e : ℤ) (whole fraction : List Char) (a b : ℕ) :
    Prop where
  digits : whole ++ fraction = List.replicate a '0' ++ (ds ++ List.replicate b '0')
  place : (b : ℤ) = e + 1 - ds.length + fraction.length
  whole_ne : whole ≠ []
  leading : whole.head? = some '0' → whole = ['0']
  trailing : fraction.getLast? ≠ some '0'

namespace Numeral

variable {ds : List Char} {e : ℤ}

/-- All digits are behind the point. -/
theorem isPlaced_behind (hne : ds ≠ []) (h : IsReduced ds e) (he : e < 0) :
    IsPlaced ds e ['0'] (List.replicate (-e - 1).toNat '0' ++ ds) ((-e - 1).toNat + 1) 0 := by
  obtain ⟨-, hlast⟩ := h.resolve_right fun hzero => by omega
  refine ⟨by simp [List.replicate_succ], ?_, List.cons_ne_nil _ _, fun _ => rfl, ?_⟩
  · rw [List.length_append, List.length_replicate]
    omega
  · rwa [List.getLast?_append_of_ne_nil _ hne]

/-- All digits are in front of the point. -/
theorem isPlaced_front (hne : ds ≠ []) (h : IsReduced ds e) (he : 0 ≤ e)
    (hlength : ds.length ≤ e.toNat + 1) :
    IsPlaced ds e (ds ++ List.replicate (e.toNat + 1 - ds.length) '0') [] 0
      (e.toNat + 1 - ds.length) := by
  refine ⟨by simp, by simp; omega, by simp [hne], ?_, by simp⟩
  rw [List.head?_append_of_ne_nil _ hne]
  intro hzero
  obtain ⟨rfl, rfl⟩ := h.resolve_left fun hreduced => hreduced.1 hzero
  rfl

/-- The point is between two digits. -/
theorem isPlaced_between (h : IsReduced ds e) (he : 0 ≤ e) (hlength : e.toNat + 1 < ds.length) :
    IsPlaced ds e (ds.take (e.toNat + 1)) (ds.drop (e.toNat + 1)) 0 0 := by
  obtain ⟨hhead, hlast⟩ := h.resolve_right fun hzero => by simp [hzero.1] at hlength
  refine ⟨by simp, ?_, ?_, ?_, ?_⟩
  · rw [List.length_drop]
    omega
  · rw [Ne, List.take_eq_nil_iff]
    rintro (hzero | rfl)
    · omega
    · simp at hlength
  · intro hzero
    rw [List.head?_take, if_neg (by omega)] at hzero
    exact absurd hzero hhead
  · rwa [List.getLast?_drop, if_neg (by omega)]

/-- Where the point is set into digits whose first stands for `10 ^ e`, zeros are put around them
    such that each digit keeps its place. -/
theorem exists_isPlaced (hne : ds ≠ []) (h : IsReduced ds e) :
    ∃ (whole fraction : List Char) (a b : ℕ), IsPlaced ds e whole fraction a b ∧
      setPoint false ds e = whole ++ (if fraction.isEmpty then [] else '.' :: fraction) := by
  rw [setPoint]
  split
  · rename_i he
    exact ⟨_, _, _, _, isPlaced_behind hne h he, by simp [hne]⟩
  · rename_i he
    simp only [Bool.false_eq_true, if_false, List.append_nil]
    split
    · rename_i hle
      exact ⟨_, _, _, _, isPlaced_front hne h (by omega) (by omega), by simp⟩
    · rename_i hlt
      refine ⟨_, _, _, _, isPlaced_between h (by omega) (by omega), ?_⟩
      have hdrop : ds.drop (e.toNat + 1) ≠ [] := by
        rw [Ne, List.drop_eq_nil_iff]
        omega
      simp [hdrop]

end Numeral

namespace PlainNumeral

/-- Setting the point into the digits of a decimal gives a numeral with its value. -/
theorem exists_setPoint {d : Decimal} (h : d.significand % 10 ≠ 0 ∨ d = ⟨0, 0⟩) (negative : Bool) :
    ∃ n : PlainNumeral, n.negative = negative ∧
      n.chars = (if negative then ['-'] else []) ++
        Numeral.setPoint false d.digits (d.exponent + d.digits.length - 1) ∧
      n.magnitude = d.toRat ∧ n.significantDigits ≤ Decimal.digitCount d.significand := by
  have hvalue : Digits.value d.digits = d.significand := Digits.value_toDigits _
  have hne : d.digits ≠ [] := Nat.toDigits_ne_nil
  have hreduced : Numeral.IsReduced d.digits (d.exponent + d.digits.length - 1) := by
    -- of the decimals that end in a zero only that of zero itself is reduced
    obtain hmod | rfl := h
    · obtain ⟨c, cs, hcs, hc⟩ := Digits.exists_toDigits_eq_cons (n := d.significand) (by omega)
      refine .inl ⟨?_, ?_⟩
      · rw [Decimal.digits, hcs]
        exact fun heq => hc (Option.some.inj heq)
      · rw [Decimal.digits, Digits.getLast?_toDigits]
        exact fun heq => hmod (Nat.digitChar_eq_zero.mp (Option.some.inj heq))
    · exact .inr ⟨rfl, rfl⟩
  obtain ⟨whole, fraction, a, b, hplaced, hchars⟩ := Numeral.exists_isPlaced hne hreduced
  obtain ⟨hdigits, hplace, hwhole, hleading, htrailing⟩ := hplaced
  have hisDigit : ∀ c ∈ whole ++ fraction, c.isDigit = true := by
    rw [hdigits]
    simp only [List.mem_append, List.mem_replicate]
    rintro c (⟨-, rfl⟩ | hc | ⟨-, rfl⟩)
    · rfl
    · exact Digits.isDigit_of_mem_toDigits hc
    · rfl
  refine ⟨⟨negative, whole, fraction, hisDigit, hwhole, hleading, htrailing⟩, rfl, ?_, ?_, ?_⟩
  · rw [hchars]
    rfl
  · have hsignificand : (Digits.value (whole ++ fraction) : ℚ) =
        d.significand * 10 ^ (b : ℤ) := by
      rw [hdigits, Digits.value_append, Digits.value_append, hvalue]
      simp
    -- by `hplace` the zeros behind and the digits of the fraction make up for the exponent
    have hexponent : (b : ℤ) + -(fraction.length : ℤ) = d.exponent := by omega
    rw [magnitude, hsignificand, Decimal.toRat, mul_assoc, ← zpow_add₀ (by norm_num), hexponent]
  · rw [significantDigits, hdigits]
    exact Digits.length_significant_le a b d.digits

end PlainNumeral

/-! ## Numbers as constants of the source language -/

namespace Double

/-- Sign and rank make up a number. -/
theorem eq_of_rank_eq {x y : Double} (hsign : x.isNegative = y.isNegative) (hrank : x.rank = y.rank) :
    x = y := by
  have hx := x.bits.toNat_lt
  have hy := y.bits.toNat_lt
  have hbits : x.bits.toNat = y.bits.toNat := by
    simp only [isNegative, rank, Nat.pow_eq, decide_eq_decide] at hsign hrank
    omega
  cases x
  cases y
  exact congrArg Double.mk (UInt64.toNat_inj.mp hbits)

theorem rank_lt_of_isFinite {x : Double} (hx : x.isFinite = true) : x.rank < infinityRank :=
  of_decide_eq_true hx

/-- A finite number is written by setting the point into the digits of the shortest decimal. -/
theorem sourceText_of_isFinite {x : Double} (hx : x.isFinite = true) :
    x.sourceText = String.ofList ((if x.isNegative then ['-'] else []) ++
      Numeral.setPoint false (Decimal.shortest .up x.rank).digits
        ((Decimal.shortest .up x.rank).exponent +
          (Decimal.shortest .up x.rank).digits.length - 1)) := by
  have hrank := rank_lt_of_isFinite hx
  have hnan : x.isNaN = false := by simp [isNaN, hrank.le]
  have hinfinite : x.isInfinite = false := by simp [isInfinite, hrank.ne]
  -- for zero the exponent is the one that the rule for the other numbers gives
  have hexponent : (if x.rank = 0 then 0 else (Decimal.shortest .up x.rank).exponent +
      (Decimal.shortest .up x.rank).digits.length - 1) = (Decimal.shortest .up x.rank).exponent +
      (Decimal.shortest .up x.rank).digits.length - 1 := by
    split
    · rename_i hzero
      rw [hzero]
      rfl
    · rfl
  rw [sourceText, hnan, hinfinite]
  simp only [Bool.false_eq_true, if_false, Numeral.finite, Numeral.magnitude, NumeralStyle.source,
    if_true, hexponent]

/-- The text of a finite number is a numeral without exponent that reads back. -/
theorem exists_plainNumeral {x : Double} (hx : x.isFinite = true) :
    ∃ n : PlainNumeral, x.sourceText = String.ofList n.chars ∧ n.negative = x.isNegative ∧
      IsNearest n.magnitude x.rank ∧ ∀ d : Decimal, IsNearest d.toRat x.rank →
        n.significantDigits ≤ Decimal.digitCount d.significand := by
  obtain ⟨hreads, hminimal, hreduced⟩ :=
    Decimal.shortest_spec_of_finite .up (rank_lt_of_isFinite hx)
  obtain ⟨n, hsign, hchars, hvalue, hcount⟩ := PlainNumeral.exists_setPoint hreduced x.isNegative
  refine ⟨n, ?_, hsign, hvalue ▸ hreads, fun d hd => hcount.trans (hminimal d hd)⟩
  rw [sourceText_of_isFinite hx, hchars]

/-- A finite number is written as a numeral without exponent, with a minus sign exactly when its
    sign bit is set. The number is the one that is nearest to the numeral, and no decimal with fewer
    digits has it for its nearest. Two finite numbers have the same text only if they have the same
    bits. -/
theorem sourceText_reads_back (x : Double) (hx : x.isFinite = true) :
    (∃ n : PlainNumeral, x.sourceText = String.ofList n.chars ∧ n.negative = x.isNegative ∧
      IsNearest n.magnitude x.rank ∧ ∀ d : Decimal, IsNearest d.toRat x.rank →
        n.significantDigits ≤ Decimal.digitCount d.significand) ∧
    ∀ y : Double, y.isFinite = true → y.sourceText = x.sourceText → y = x := by
  refine ⟨exists_plainNumeral hx, fun y hy htext => ?_⟩
  obtain ⟨n, hn, hnsign, hnreads, -⟩ := exists_plainNumeral hx
  obtain ⟨m, hm, hmsign, hmreads, -⟩ := exists_plainNumeral hy
  have hchars : m.chars = n.chars := by
    rw [hn, hm] at htext
    exact String.ofList_injective htext
  obtain ⟨hnegative, hwhole, hfraction⟩ := PlainNumeral.eq_of_chars_eq hchars
  refine eq_of_rank_eq (by rw [← hmsign, hnegative, hnsign]) (hmreads.unique ?_)
  rw [PlainNumeral.magnitude, hwhole, hfraction]
  exact hnreads

/-- The double that `-0.3` is read as. -/
theorem sourceText_reads_back_tenths :
    let x : Double := ⟨0xbfd3333333333333⟩
    x.isFinite = true ∧ x.sourceText = "-0.3" ∧
    ∃ n : PlainNumeral, x.sourceText = String.ofList n.chars ∧ n.negative = true ∧
      IsNearest n.magnitude x.rank ∧ ∀ d : Decimal, IsNearest d.toRat x.rank →
        n.significantDigits ≤ Decimal.digitCount d.significand := by
  intro x
  have hx : x.isFinite = true := by decide
  obtain ⟨⟨n, hn, hsign, hreads, hcount⟩, -⟩ := sourceText_reads_back x hx
  have hnegative : x.isNegative = true := by decide
  exact ⟨hx, by decide +kernel, n, hn, hsign.trans hnegative, hreads, hcount⟩

end Double
end LuauLayout
