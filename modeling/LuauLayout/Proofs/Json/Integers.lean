/-
  LuauLayout.Proofs.Json.Integers

  Number literals as pieces of a text, and the integers among them.

  A literal without fraction and exponent that fits into 64 bits stands for an
  integer (`Literal.value?_of_isPlain`); and every such integer is read back from
  the digits that are written for it (`JsonNumber.emits_chars`).
-/

import LuauLayout.Proofs.Json.Scanning

namespace LuauLayout
namespace Json

open Scan

/-! ## What a literal is made of -/

namespace Literal

variable {cs ds rest : List Char} {l : Literal}

/-- A literal is read part by part, up to the end. -/
theorem ofChars?_eq_some_iff : ofChars? cs = some l ↔ ∃ unsigned tail exponent,
    takeSign cs = (l.negative, unsigned) ∧ takeWhole? unsigned = some (l.whole, tail) ∧
    takeFraction? tail = some (l.fraction, exponent) ∧
    takeExponent? exponent = some (l.exponent, []) := by
  obtain ⟨negative, whole, fraction, exp⟩ := l
  constructor
  · intro h
    simp only [ofChars?, Option.bind_eq_bind] at h
    obtain ⟨⟨w, tail⟩, hwhole, h⟩ := Option.bind_eq_some_iff.mp h
    obtain ⟨⟨f, exponent⟩, hfraction, h⟩ := Option.bind_eq_some_iff.mp h
    obtain ⟨⟨e, last⟩, hexponent, h⟩ := Option.bind_eq_some_iff.mp h
    simp only [Option.ite_none_right_eq_some, List.isEmpty_iff, Option.some.injEq, mk.injEq] at h
    obtain ⟨rfl, rfl, rfl, rfl, rfl⟩ := h
    exact ⟨_, tail, exponent, rfl, hwhole, hfraction, hexponent⟩
  · rintro ⟨unsigned, tail, exponent, hsign, hwhole, hfraction, hexponent⟩
    simp [ofChars?, hsign, hwhole, hfraction, hexponent]

theorem isDigit_of_mem_takeWhile {c : Char} (h : c ∈ cs.takeWhile Char.isDigit) :
    c.isDigit = true :=
  List.all_eq_true.mp List.all_takeWhile c h

theorem takeSign_eq {negative : Bool} (h : takeSign cs = (negative, rest)) :
    cs = (if negative then ['-'] else []) ++ rest := by
  unfold takeSign at h
  split at h <;> cases h <;> rfl

/-- The whole part is made of digits and not empty. -/
theorem takeWhole?_eq_some (h : takeWhole? cs = some (ds, rest)) :
    cs = ds ++ rest ∧ ds ≠ [] ∧ ∀ d ∈ ds, d.isDigit = true := by
  have hcs : cs = cs.takeWhile Char.isDigit ++ cs.dropWhile Char.isDigit :=
    List.takeWhile_append_dropWhile.symm
  have hdigits : ∀ d ∈ cs.takeWhile Char.isDigit, d.isDigit = true :=
    fun d => isDigit_of_mem_takeWhile
  unfold takeWhole? at h
  split at h
  · cases h
  · rename_i hzero
    cases h
    rw [hzero] at hcs
    exact ⟨by rw [hcs]; rfl, List.cons_ne_nil _ _, List.forall_mem_singleton.mpr rfl⟩
  · cases h
  · rename_i hempty _ _
    cases h
    exact ⟨hcs, fun h => hempty h, hdigits⟩

/-- A fraction is a point with digits behind it. -/
theorem takeFraction?_eq_some {fraction : Option (List Char)}
    (h : takeFraction? cs = some (fraction, rest)) :
    (∃ front, cs = front ++ rest ∧ ∀ c ∈ front, isNumeralChar c = true) ∧
    ∀ d ∈ fraction.getD [], d.isDigit = true := by
  unfold takeFraction? at h
  split at h
  · rename_i tail
    split at h <;> cases h
    refine ⟨⟨'.' :: tail.takeWhile Char.isDigit, ?_, ?_⟩, fun d => isDigit_of_mem_takeWhile⟩
    · rw [List.cons_append, List.takeWhile_append_dropWhile]
    · rintro c (_ | ⟨_, hc⟩)
      · rfl
      · simp [isNumeralChar, isDigit_of_mem_takeWhile hc]
  · cases h
    exact ⟨⟨[], rfl, List.forall_mem_nil _⟩, List.forall_mem_nil _⟩

theorem exists_eq_append_takeExponentSign (cs : List Char) :
    ∃ front, cs = front ++ (takeExponentSign cs).2 ∧ ∀ c ∈ front, isNumeralChar c = true := by
  unfold takeExponentSign
  split
  · exact ⟨['-'], rfl, List.forall_mem_singleton.mpr rfl⟩
  · exact ⟨['+'], rfl, List.forall_mem_singleton.mpr rfl⟩
  · exact ⟨[], rfl, List.forall_mem_nil _⟩

/-- An exponent is a letter and digits, perhaps with a sign between. -/
theorem takeExponent?_eq_some {exponent : Option (Bool × List Char)}
    (h : takeExponent? cs = some (exponent, rest)) :
    ∃ front, cs = front ++ rest ∧ ∀ c ∈ front, isNumeralChar c = true := by
  unfold takeExponent? at h
  split at h
  · cases h
    exact ⟨[], rfl, List.forall_mem_nil _⟩
  · rename_i c tail
    split at h
    · rename_i hc
      simp only at h
      obtain ⟨sign, htail, hsign⟩ := exists_eq_append_takeExponentSign tail
      split at h <;> cases h
      refine ⟨c :: (sign ++ (takeExponentSign tail).2.takeWhile Char.isDigit), ?_, ?_⟩
      · rw [List.cons_append, List.append_assoc, List.takeWhile_append_dropWhile, ← htail]
      · intro d hd
        obtain rfl | hd := List.mem_cons.mp hd
        · obtain rfl | rfl := hc <;> rfl
        obtain hd | hd := List.mem_append.mp hd
        · exact hsign d hd
        · simp [isNumeralChar, isDigit_of_mem_takeWhile hd]
    · cases h
      exact ⟨[], rfl, List.forall_mem_nil _⟩

/-- A literal begins with a minus sign or a digit, and all of it can stand inside a numeral. -/
theorem exists_eq_cons_of_ofChars? (h : ofChars? cs = some l) :
    ∃ c rest, cs = c :: rest ∧ (c = '-' ∨ c.isDigit = true) ∧ ∀ d ∈ rest, isNumeralChar d = true := by
  obtain ⟨unsigned, tail, exponent, hsign, hwhole, hfraction, hexponent⟩ := ofChars?_eq_some_iff.mp h
  obtain ⟨rfl, hne, hdigits⟩ := takeWhole?_eq_some hwhole
  obtain ⟨⟨front, rfl, hfront⟩, -⟩ := takeFraction?_eq_some hfraction
  obtain ⟨last, rfl, hlast⟩ := takeExponent?_eq_some hexponent
  have hcs := takeSign_eq hsign
  have hwholeChars : ∀ d ∈ l.whole, isNumeralChar d = true := by
    intro d hd
    simp [isNumeralChar, hdigits d hd]
  -- without a sign the first digit of the whole part, of which there is one, comes first
  cases hnegative : l.negative with
  | true =>
    refine ⟨'-', l.whole ++ (front ++ (last ++ [])), by simp [hcs, hnegative], .inl rfl, ?_⟩
    simp only [List.append_nil, List.forall_mem_append]
    exact ⟨hwholeChars, hfront, hlast⟩
  | false =>
    obtain ⟨c, whole, hwhole⟩ := List.exists_cons_of_ne_nil hne
    rw [hwhole] at hdigits hwholeChars
    refine ⟨c, whole ++ (front ++ (last ++ [])), by simp [hcs, hnegative, hwhole],
      .inr (hdigits c List.mem_cons_self), ?_⟩
    simp only [List.append_nil, List.forall_mem_append]
    exact ⟨(List.forall_mem_cons.mp hwholeChars).2, hfront, hlast⟩

end Literal

/-- A literal that is in range is a piece of a text. -/
theorem Emits.literal {cs : List Char} {l : Literal} {n : JsonNumber}
    (hl : Literal.ofChars? cs = some l) (hn : l.value? = some n) : Emits cs [.number n] := by
  obtain ⟨c, rest, rfl, hc, hrest⟩ := Literal.exists_eq_cons_of_ofChars? hl
  exact .numeral hc hrest (by simp [numeralToken?, hl, hn])

/-- The tokens of a text with a literal in it; there are none if the literal is out of range. -/
theorem tokens?_literal {before rest cs : List Char} {ts us : List Token} {l : Literal} {b : Char}
    (hbefore : Closes before ts) (hl : Literal.ofChars? cs = some l)
    (hhead : rest.head? = some b) (hb : IsBoundary b) (hrest : Emits rest us) :
    tokens? (before ++ (cs ++ rest)) = l.value?.map fun n => ts ++ .number n :: us := by
  obtain ⟨tail, rfl⟩ := List.head?_eq_some_iff.mp hhead
  cases hvalue : l.value? with
  | none =>
    obtain ⟨c, ds, rfl, hc, hds⟩ := Literal.exists_eq_cons_of_ofChars? hl
    exact tokens?_of_numeral_none hbefore hc hds hb (by simp [numeralToken?, hl, hvalue])
  | some n => exact (hbefore.emits_append ((Emits.literal hl hvalue).append hb hrest)).tokens?

/-! ## Integers -/

namespace Literal

theorem le_foldl_digits (ds : List Char) (n : Nat) :
    n ≤ ds.foldl (fun n d => n * 10 + Digits.ofChar d) n := by
  induction ds generalizing n with
  | nil => exact Nat.le_refl n
  | cons d ds ih => exact Nat.le_trans (by omega) (ih (n * 10 + Digits.ofChar d))

/-- All digits are gathered if the number they stand for fits into 64 bits. -/
theorem gatherWhole_eq (ds : List Char) (significand : Nat)
    (h : ds.foldl (fun n d => n * 10 + Digits.ofChar d) significand < Nat.pow 2 64) :
    gatherWhole ds significand =
      (ds.foldl (fun n d => n * 10 + Digits.ofChar d) significand, 0) := by
  induction ds generalizing significand with
  | nil => rfl
  | cons d ds ih =>
    rw [List.foldl_cons] at h ⊢
    rw [gatherWhole, if_pos (Nat.lt_of_le_of_lt (le_foldl_digits ds _) h), ih _ h]

theorem gatherFraction_eq (ds : List Char) (significand : Nat)
    (h : ds.foldl (fun n d => n * 10 + Digits.ofChar d) significand < Nat.pow 2 64) :
    gatherFraction ds significand =
      (ds.foldl (fun n d => n * 10 + Digits.ofChar d) significand, ds.length) := by
  induction ds generalizing significand with
  | nil => rfl
  | cons d ds ih =>
    rw [List.foldl_cons] at h ⊢
    rw [gatherFraction, if_pos (Nat.lt_of_le_of_lt (le_foldl_digits ds _) h), ih _ h,
      List.length_cons]

/-- A literal without fraction and exponent that fits into 64 bits; a negative zero does not. -/
structure IsPlain (l : Literal) : Prop where
  fraction : l.fraction = none
  exponent : l.exponent = none
  range : if l.negative then 0 < Digits.value l.whole ∧ Digits.value l.whole ≤ Nat.pow 2 63
    else Digits.value l.whole < Nat.pow 2 64

/-- The integer that the sign and the digits of the whole part give. -/
def toInt (l : Literal) : Int :=
  if l.negative then -(Digits.value l.whole : Int) else Digits.value l.whole

theorem value?_of_isPlain {l : Literal} (h : l.IsPlain) : l.value? = some (.integer l.toInt) := by
  have hlt : Digits.value l.whole < Nat.pow 2 64 := by
    have hpow : Nat.pow 2 63 < Nat.pow 2 64 := by decide
    have hrange := h.range
    split at hrange
    · omega
    · exact hrange
  have hgather : gatherWhole l.whole 0 = (Digits.value l.whole, 0) := gatherWhole_eq l.whole 0 hlt
  simp only [value?, hgather, h.fraction, h.exponent]
  simp only [Option.isNone_none, Bool.and_self, beq_self_eq_true, if_true, Option.some.injEq,
    wholeNumber, toInt]
  have hrange := h.range
  split
  · rename_i hnegative
    rw [if_pos hnegative] at hrange
    rw [if_neg (by omega)]
  · rfl

end Literal
end Json

namespace JsonNumber

open Json

/-- An integer that fits into 64 bits, with or without sign. -/
def IsInteger64 (n : JsonNumber) : Prop :=
  ∃ i : Int, n = .integer i ∧ -(Nat.pow 2 63 : Int) ≤ i ∧ i < (Nat.pow 2 64 : Nat)

theorem isInteger64_of_isPlain {l : Literal} (h : l.IsPlain) {n : JsonNumber}
    (hn : l.value? = some n) : n.IsInteger64 := by
  rw [Literal.value?_of_isPlain h] at hn
  cases hn
  refine ⟨l.toInt, rfl, ?_⟩
  have hrange := h.range
  rw [Literal.toInt]
  split
  · rename_i hnegative
    rw [if_pos hnegative] at hrange
    omega
  · rename_i hnegative
    rw [if_neg hnegative] at hrange
    omega

/-- The digits of a number as a whole part. -/
theorem takeWhole?_toDigits (n : Nat) :
    Literal.takeWhole? (Nat.toDigits 10 n) = some (Nat.toDigits 10 n, []) := by
  have hall : ∀ d ∈ Nat.toDigits 10 n, d.isDigit = true := fun d => Digits.isDigit_of_mem_toDigits
  have htake : (Nat.toDigits 10 n).takeWhile Char.isDigit = Nat.toDigits 10 n := by
    simpa using @List.takeWhile_append_of_pos _ Char.isDigit (Nat.toDigits 10 n) [] hall
  have hdrop : (Nat.toDigits 10 n).dropWhile Char.isDigit = [] := by
    simpa using @List.dropWhile_append_of_pos _ Char.isDigit (Nat.toDigits 10 n) [] hall
  rw [Literal.takeWhole?, htake, hdrop]
  obtain rfl | hpos := Nat.eq_zero_or_pos n
  · rfl
  · obtain ⟨d, ds, hds, hd⟩ := Digits.exists_toDigits_eq_cons hpos
    rw [hds]
    split <;> simp_all

/-- An integer is written as the literal of its sign and its digits. -/
theorem ofChars?_integerChars (i : Int) :
    Literal.ofChars? (integerChars i) = some ⟨i < 0, Nat.toDigits 10 i.natAbs, none, none⟩ := by
  refine Literal.ofChars?_eq_some_iff.mpr
    ⟨Nat.toDigits 10 i.natAbs, [], [], ?_, takeWhole?_toDigits _, rfl, rfl⟩
  by_cases hi : i < 0
  · simp [integerChars, hi, Literal.takeSign]
  · obtain ⟨d, ds, hds⟩ := List.exists_cons_of_ne_nil (Nat.toDigits_ne_nil (n := i.natAbs) (b := 10))
    have hd : d.isDigit = true := by
      refine Digits.isDigit_of_mem_toDigits (n := i.natAbs) ?_
      rw [hds]
      exact List.mem_cons_self
    have hminus : d ≠ '-' := by
      rintro rfl
      exact absurd hd (by decide)
    simp only [integerChars, hi, if_false, List.nil_append, hds]
    unfold Literal.takeSign
    split
    · rename_i heq
      exact absurd (List.cons.inj heq).1 hminus
    · simp

/-- What is written for an integer of 64 bits is read as that integer. -/
theorem emits_chars {n : JsonNumber} (h : n.IsInteger64) : Emits n.chars [.number n] := by
  obtain ⟨i, rfl, hlow, hhigh⟩ := h
  have hvalue : Digits.value (Nat.toDigits 10 i.natAbs) = i.natAbs := Digits.value_toDigits _
  have hplain : Literal.IsPlain ⟨i < 0, Nat.toDigits 10 i.natAbs, none, none⟩ := by
    refine ⟨rfl, rfl, ?_⟩
    simp only [decide_eq_true_eq, hvalue]
    split <;> omega
  refine .literal (ofChars?_integerChars i) ?_
  rw [Literal.value?_of_isPlain hplain, Literal.toInt]
  simp only [decide_eq_true_eq, hvalue]
  split
  · rw [show (-(i.natAbs : Int)) = i by omega]
  · rw [show ((i.natAbs : Nat) : Int) = i by omega]

end JsonNumber
end LuauLayout
