/-
  LuauLayout.Proofs.Node.Spelling

  The texts that name a span.

  A location is read by cutting it at its first dash and either part at its first
  comma. Blanks are trimmed off at every stage, and a number has to fit into a
  machine word before it is compared with the limit of places. None of this is in
  the grammar of locations, which is four numerals with separators between them
  and blanks anywhere but inside a numeral. The two agree because a padded numeral
  holds no separator, so that the first dash and the first comma are the only ones
  at which a text can fit the grammar, and because the limit fits into a word.

    * `Digits.IsNumeral`, `Digits.IsPaddedNumeral` — numerals, and with blanks.
    * `Coordinate.IsSpelledBy`, `Span.IsSpelledBy` — the grammar, without limits.
    * `Coordinate.IsWithinLimit`, `Span.IsWithinLimit` — the places that may be
      named.
    * `Coordinate.readNumber_eq_ok_iff`, `Coordinate.read_eq_ok_iff`,
      `Location.read_eq_ok_iff` — one stage of the reader each.
    * `Location.span_iff_isSpelledBy` — a location has a span exactly when the
      grammar gives it one within the limit, and every such span is printed in a
      form that is read back.
-/

import LuauLayout.Failure
import Mathlib.Data.List.TakeWhile

namespace LuauLayout

/-- Two steps in a row succeed exactly when each of them does. -/
theorem bind_eq_ok_iff {ε α β : Type} {r : Except ε α} {f : α → Except ε β} {b : β} :
    (r >>= f) = .ok b ↔ ∃ a, r = .ok a ∧ f a = .ok b := by
  cases r with
  | error e =>
    constructor
    · intro h
      cases h
    · rintro ⟨a, ha, -⟩
      cases ha
  | ok a =>
    constructor
    · intro h
      exact ⟨a, rfl, h⟩
    · rintro ⟨a', ha, h⟩
      cases ha
      exact h

/-! ## Trimming -/

namespace Text

variable {left right cs : List Char}

/-- What is trimmed off is blank. -/
theorem exists_blanks_trim (cs : List Char) : ∃ left right, cs = left ++ trim cs ++ right ∧
    (∀ c ∈ left, isBlank c = true) ∧ ∀ c ∈ right, isBlank c = true := by
  let rest := cs.dropWhile isBlank
  have hrest : rest = trim cs ++ (rest.reverse.takeWhile isBlank).reverse := by
    rw [trim, ← List.reverse_append, List.takeWhile_append_dropWhile, List.reverse_reverse]
  refine ⟨cs.takeWhile isBlank, (rest.reverse.takeWhile isBlank).reverse, ?_, ?_, ?_⟩
  · rw [List.append_assoc, ← hrest, List.takeWhile_append_dropWhile]
  · intro c hc
    exact List.mem_takeWhile_imp hc
  · intro c hc
    exact List.mem_takeWhile_imp (List.mem_reverse.mp hc)

/-- Blanks around a text make no difference. -/
theorem trim_pad (hleft : ∀ c ∈ left, isBlank c = true) (cs : List Char)
    (hright : ∀ c ∈ right, isBlank c = true) : trim (left ++ cs ++ right) = trim cs := by
  have hfront : (left ++ cs ++ right).dropWhile isBlank = (cs ++ right).dropWhile isBlank := by
    rw [List.append_assoc, List.dropWhile_append_of_pos hleft]
  rw [trim, trim, hfront, List.dropWhile_append]
  by_cases hempty : (cs.dropWhile isBlank).isEmpty
  · -- there is nothing but blanks
    have hblank : right.dropWhile isBlank = [] := List.dropWhile_eq_nil_iff.mpr hright
    rw [if_pos hempty, hblank, List.isEmpty_iff.mp hempty]
  · have hback : ∀ c ∈ right.reverse, isBlank c = true := by
      intro c hc
      exact hright c (List.mem_reverse.mp hc)
    rw [if_neg hempty, List.reverse_append, List.dropWhile_append_of_pos hback]

/-- A text without blanks stays as it is. -/
theorem trim_eq_self (h : ∀ c ∈ cs, isBlank c = false) : trim cs = cs := by
  have hkeep (ds : List Char) (hds : ∀ c ∈ ds, isBlank c = false) :
      ds.dropWhile isBlank = ds := by
    rw [List.dropWhile_eq_self_iff]
    intro hlength
    rw [hds _ (List.getElem_mem hlength)]
    exact Bool.false_ne_true
  have hback : ∀ c ∈ cs.reverse, isBlank c = false := by
    intro c hc
    exact h c (List.mem_reverse.mp hc)
  rw [trim, hkeep cs h, hkeep _ hback, List.reverse_reverse]

theorem isBlank_of_isDigit {c : Char} (h : c.isDigit = true) : isBlank c = false := by
  obtain ⟨hlow, hhigh⟩ := Char.isDigit_iff_toNat.mp h
  have hlow : 48 ≤ c.toNat := hlow
  have hhigh : c.toNat ≤ 57 := hhigh
  simp [isBlank]
  omega

theorem not_mem_of_blanks {sep : Char} (hsep : isBlank sep = false) {blanks : List Char}
    (hblanks : ∀ c ∈ blanks, isBlank c = true) : sep ∉ blanks := by
  intro hmem
  rw [hblanks sep hmem] at hsep
  cases hsep

/-- Blanks hold no separator, so trimming moves no cut. -/
theorem cut?_trim {sep : Char} (hsep : isBlank sep = false) {a b : List Char}
    (h : cut? sep cs = some (a, b)) : ∃ left a' b' right,
      a = left ++ a' ∧ b = b' ++ right ∧ cut? sep (trim cs) = some (a', b') ∧
      (∀ c ∈ left, isBlank c = true) ∧ ∀ c ∈ right, isBlank c = true := by
  obtain ⟨left, right, hcs, hleft, hright⟩ := exists_blanks_trim cs
  have hl : sep ∉ left := not_mem_of_blanks hsep hleft
  have hr : sep ∉ right := not_mem_of_blanks hsep hright
  cases hcut : cut? sep (trim cs) with
  | none =>
    -- then the separator is nowhere at all
    have hcore : sep ∉ trim cs := cut?_eq_none_iff.mp hcut
    have hnone : cut? sep cs = none := by
      rw [cut?_eq_none_iff, hcs, List.mem_append, List.mem_append]
      rintro ((hmem | hmem) | hmem)
      · exact hl hmem
      · exact hcore hmem
      · exact hr hmem
    rw [hnone] at h
    cases h
  | some parts =>
    obtain ⟨a', b'⟩ := parts
    obtain ⟨hcore, ha'⟩ := cut?_eq_some_iff.mp hcut
    have hwhole : cut? sep cs = some (left ++ a', b' ++ right) := by
      refine cut?_eq_some_iff.mpr ⟨?_, ?_⟩
      · rw [hcs, hcore]
        simp only [List.append_assoc, List.cons_append]
      · rw [List.mem_append, not_or]
        exact ⟨hl, ha'⟩
    rw [h] at hwhole
    cases hwhole
    exact ⟨left, a', b', right, rfl, rfl, rfl, hleft, hright⟩

end Text

/-! ## The grammar -/

/-- An optional plus sign and one or more ASCII digits, leading zeros among them. -/
def Digits.IsNumeral (cs : List Char) (n : Nat) : Prop :=
  ∃ sign ds, cs = sign ++ ds ∧ (sign = [] ∨ sign = ['+']) ∧
    ds ≠ [] ∧ (∀ d ∈ ds, d.isDigit = true) ∧ Nat.ofDigitChars 10 ds 0 = n

/-- A numeral with blanks on either side. -/
def Digits.IsPaddedNumeral (cs : List Char) (n : Nat) : Prop :=
  ∃ left m right, cs = left ++ m ++ right ∧ (∀ c ∈ left, Text.isBlank c = true) ∧
    (∀ c ∈ right, Text.isBlank c = true) ∧ Digits.IsNumeral m n

/-- Two numbers with a comma between them. -/
def Coordinate.IsSpelledBy (c : Coordinate) (cs : List Char) : Prop :=
  ∃ row column, cs = row ++ ',' :: column ∧
    Digits.IsPaddedNumeral row c.row ∧ Digits.IsPaddedNumeral column c.column

/-- Two places with a dash between them. -/
def Span.IsSpelledBy (s : Span) (cs : List Char) : Prop :=
  ∃ start stop, cs = start ++ '-' :: stop ∧ s.start.IsSpelledBy start ∧ s.stop.IsSpelledBy stop

/-- Both numbers of a place are within the limit. -/
def Coordinate.IsWithinLimit (c : Coordinate) : Prop := c.row ≤ limit ∧ c.column ≤ limit

/-- Both ends of a span are within the limit. -/
def Span.IsWithinLimit (s : Span) : Prop := s.start.IsWithinLimit ∧ s.stop.IsWithinLimit

/-! ## Numerals -/

namespace Digits

variable {cs : List Char} {n : Nat}

/-- The decimal digits of a number spell it. -/
theorem isNumeral_repr (n : Nat) : IsNumeral n.repr.toList n := by
  rw [Nat.toList_repr]
  refine ⟨[], Nat.toDigits 10 n, rfl, .inl rfl, Nat.toDigits_ne_nil, ?_, ?_⟩
  · intro d hd
    exact Nat.isDigit_of_mem_toDigits (by decide) (by decide) hd
  · exact Nat.ofDigitChars_toDigits (by decide) (by decide)

/-- A numeral is made of digits, behind a plus sign at most. -/
theorem IsNumeral.eq_or_isDigit (h : IsNumeral cs n) {c : Char} (hc : c ∈ cs) :
    c = '+' ∨ c.isDigit = true := by
  obtain ⟨sign, ds, rfl, hsign, -, hds, -⟩ := h
  rcases List.mem_append.mp hc with hc | hc
  · rcases hsign with rfl | rfl
    · cases hc
    · exact .inl (List.mem_singleton.mp hc)
  · exact .inr (hds c hc)

theorem IsNumeral.trim_eq (h : IsNumeral cs n) : Text.trim cs = cs := by
  apply Text.trim_eq_self
  intro c hc
  rcases h.eq_or_isDigit hc with rfl | hdigit
  · decide
  · exact Text.isBlank_of_isDigit hdigit

/-- Only blanks were there to be trimmed. -/
theorem isPaddedNumeral_iff : IsPaddedNumeral cs n ↔ IsNumeral (Text.trim cs) n := by
  constructor
  · rintro ⟨left, m, right, rfl, hleft, hright, hm⟩
    rw [Text.trim_pad hleft m hright, hm.trim_eq]
    exact hm
  · intro h
    obtain ⟨left, right, hcs, hleft, hright⟩ := Text.exists_blanks_trim cs
    exact ⟨left, Text.trim cs, right, hcs, hleft, hright, h⟩

/-- More blanks change nothing. -/
theorem isPaddedNumeral_pad {left right : List Char} (hleft : ∀ c ∈ left, Text.isBlank c = true)
    (hright : ∀ c ∈ right, Text.isBlank c = true) :
    IsPaddedNumeral (left ++ cs ++ right) n ↔ IsPaddedNumeral cs n := by
  rw [isPaddedNumeral_iff, isPaddedNumeral_iff, Text.trim_pad hleft cs hright]

theorem IsNumeral.isPadded (h : IsNumeral cs n) : IsPaddedNumeral cs n := by
  rw [isPaddedNumeral_iff, h.trim_eq]
  exact h

/-- A separator that is neither blank nor part of a numeral is not among its characters. -/
theorem IsPaddedNumeral.not_mem (h : IsPaddedNumeral cs n) {sep : Char}
    (hblank : Text.isBlank sep = false) (hplus : sep ≠ '+') (hdigit : sep.isDigit = false) :
    sep ∉ cs := by
  obtain ⟨left, m, right, rfl, hleft, hright, hm⟩ := h
  have hl : sep ∉ left := Text.not_mem_of_blanks hblank hleft
  have hr : sep ∉ right := Text.not_mem_of_blanks hblank hright
  have hnumeral : sep ∉ m := by
    intro hmem
    rcases hm.eq_or_isDigit hmem with rfl | hsep
    · exact hplus rfl
    · rw [hsep] at hdigit
      cases hdigit
  rw [List.mem_append, List.mem_append, not_or, not_or]
  exact ⟨⟨hl, hnumeral⟩, hr⟩

end Digits

/-! ## Coordinates -/

namespace Coordinate

variable {cs : List Char} {c : Coordinate} {n : Nat}

/-- Behind its sign, a number is read from digits that do not stand for too much. -/
theorem natural?_sign_eq_some_iff {sign ds : List Char}
    (hsign : sign = [] ∧ (∀ rest, ds ≠ '+' :: rest) ∨ sign = ['+']) :
    natural? (sign ++ ds) = some n ↔ ds ≠ [] ∧ (∀ d ∈ ds, d.isDigit = true) ∧
      Nat.ofDigitChars 10 ds 0 = n ∧ n < Nat.pow 2 64 := by
  have hread : natural? (sign ++ ds) =
      if ds.isEmpty || !ds.all Char.isDigit || Nat.pow 2 64 ≤ Digits.value ds then none
      else some (Digits.value ds) := by
    rcases hsign with ⟨rfl, hplus⟩ | rfl
    · rw [List.nil_append, natural?]
      exact hplus
    · rfl
  -- the check of the reader, as a proposition
  have hgood : ¬(ds.isEmpty || !ds.all Char.isDigit || Nat.pow 2 64 ≤ Digits.value ds) = true ↔
      (ds ≠ [] ∧ ∀ d ∈ ds, d.isDigit = true) ∧ Digits.value ds < Nat.pow 2 64 := by
    simp only [Bool.or_eq_true, List.isEmpty_iff, Bool.not_eq_true', decide_eq_true_eq,
      not_or, Bool.not_eq_false, List.all_eq_true, Nat.not_le]
  rw [hread, ← Digits.value_eq_ofDigitChars]
  constructor
  · intro h
    split at h
    · cases h
    · rename_i hnot
      obtain ⟨⟨hne, hdigits⟩, hlt⟩ := hgood.mp hnot
      cases h
      exact ⟨hne, hdigits, rfl, hlt⟩
  · rintro ⟨hne, hdigits, rfl, hlt⟩
    exact if_neg (hgood.mpr ⟨⟨hne, hdigits⟩, hlt⟩)

/-- The numbers that fit into 64 bits are read from their numerals, and nothing else is. -/
theorem natural?_eq_some_iff :
    natural? cs = some n ↔ Digits.IsNumeral cs n ∧ n < Nat.pow 2 64 := by
  constructor
  · intro h
    by_cases hplus : ∃ rest, cs = '+' :: rest
    · obtain ⟨ds, rfl⟩ := hplus
      have hsigned : natural? (['+'] ++ ds) = some n := h
      obtain ⟨hne, hdigits, hn, hlt⟩ := (natural?_sign_eq_some_iff (.inr rfl)).mp hsigned
      exact ⟨⟨['+'], ds, rfl, .inr rfl, hne, hdigits, hn⟩, hlt⟩
    · have hsign : ∀ rest, cs ≠ '+' :: rest := by
        intro rest hrest
        exact hplus ⟨rest, hrest⟩
      have hunsigned : natural? ([] ++ cs) = some n := h
      obtain ⟨hne, hdigits, hn, hlt⟩ :=
        (natural?_sign_eq_some_iff (.inl ⟨rfl, hsign⟩)).mp hunsigned
      exact ⟨⟨[], cs, rfl, .inl rfl, hne, hdigits, hn⟩, hlt⟩
  · rintro ⟨⟨sign, ds, rfl, hsign, hne, hdigits, hn⟩, hlt⟩
    refine (natural?_sign_eq_some_iff ?_).mpr ⟨hne, hdigits, hn, hlt⟩
    rcases hsign with rfl | rfl
    · -- a digit is no sign
      refine .inl ⟨rfl, ?_⟩
      rintro rest rfl
      have hdigit : Char.isDigit '+' = true := hdigits '+' List.mem_cons_self
      cases hdigit
    · exact .inr rfl

/-- A number is read when it is a numeral, padded or not, within the limit. -/
theorem readNumber_eq_ok_iff {axis : Axis} :
    readNumber axis cs = .ok n ↔ Digits.IsPaddedNumeral cs n ∧ n ≤ limit := by
  rw [Digits.isPaddedNumeral_iff, readNumber]
  -- the limit is far below what a word holds
  have hfits (hn : Digits.IsNumeral (Text.trim cs) n) (hlimit : n ≤ limit) :
      natural? (Text.trim cs) = some n :=
    natural?_eq_some_iff.mpr ⟨hn, Nat.lt_of_le_of_lt hlimit (by decide)⟩
  cases h : natural? (Text.trim cs) with
  | none =>
    constructor
    · intro hread
      cases hread
    · rintro ⟨hn, hlimit⟩
      rw [hfits hn hlimit] at h
      cases h
  | some m =>
    obtain ⟨hm, -⟩ := natural?_eq_some_iff.mp h
    constructor
    · intro hread
      dsimp only at hread
      split at hread
      · cases hread
      · rename_i hlimit
        cases hread
        exact ⟨hm, Nat.le_of_not_lt hlimit⟩
    · rintro ⟨hn, hlimit⟩
      rw [hfits hn hlimit] at h
      cases h
      exact if_neg (Nat.not_lt.mpr hlimit)

/-- A place is read from what spells it, if it is within the limit. -/
theorem read_eq_ok_iff : read cs = .ok c ↔ c.IsSpelledBy cs ∧ c.IsWithinLimit := by
  constructor
  · intro h
    rw [read] at h
    split at h
    · cases h
    · rename_i row column hcut
      obtain ⟨hcs, -⟩ := Text.cut?_eq_some_iff.mp hcut
      obtain ⟨r, hr, h⟩ := bind_eq_ok_iff.mp h
      obtain ⟨k, hk, h⟩ := bind_eq_ok_iff.mp h
      cases h
      obtain ⟨hrow, hrowLimit⟩ := readNumber_eq_ok_iff.mp hr
      obtain ⟨hcolumn, hcolumnLimit⟩ := readNumber_eq_ok_iff.mp hk
      exact ⟨⟨row, column, hcs, hrow, hcolumn⟩, hrowLimit, hcolumnLimit⟩
  · rintro ⟨⟨row, column, rfl, hrow, hcolumn⟩, hrowLimit, hcolumnLimit⟩
    have hcut : Text.cut? ',' (row ++ ',' :: column) = some (row, column) :=
      Text.cut?_eq_some_iff.mpr ⟨rfl, hrow.not_mem (by decide) (by decide) (by decide)⟩
    have hr : readNumber .row row = .ok c.row := readNumber_eq_ok_iff.mpr ⟨hrow, hrowLimit⟩
    have hk : readNumber .column column = .ok c.column :=
      readNumber_eq_ok_iff.mpr ⟨hcolumn, hcolumnLimit⟩
    rw [read, hcut]
    exact bind_eq_ok_iff.mpr ⟨_, hr, bind_eq_ok_iff.mpr ⟨_, hk, rfl⟩⟩

/-- Blanks around a place belong to its numbers. -/
theorem IsSpelledBy.pad {left right : List Char} (h : c.IsSpelledBy cs)
    (hleft : ∀ b ∈ left, Text.isBlank b = true) (hright : ∀ b ∈ right, Text.isBlank b = true) :
    c.IsSpelledBy (left ++ cs ++ right) := by
  obtain ⟨row, column, rfl, hrow, hcolumn⟩ := h
  refine ⟨left ++ row, column ++ right, ?_, ?_, ?_⟩
  · simp only [List.append_assoc, List.cons_append]
  · have hpad := (Digits.isPaddedNumeral_pad hleft (List.forall_mem_nil _)).mpr hrow
    rwa [List.append_nil] at hpad
  · exact (Digits.isPaddedNumeral_pad (List.forall_mem_nil _) hright).mpr hcolumn

theorem isSpelledBy_trim : c.IsSpelledBy (Text.trim cs) ↔ c.IsSpelledBy cs := by
  constructor
  · intro h
    obtain ⟨left, right, hcs, hleft, hright⟩ := Text.exists_blanks_trim cs
    rw [hcs]
    exact h.pad hleft hright
  · rintro ⟨row, column, hcs, hrow, hcolumn⟩
    have hcut : Text.cut? ',' cs = some (row, column) :=
      Text.cut?_eq_some_iff.mpr ⟨hcs, hrow.not_mem (by decide) (by decide) (by decide)⟩
    obtain ⟨left, row', column', right, rfl, rfl, htrim, hleft, hright⟩ :=
      Text.cut?_trim (by decide) hcut
    obtain ⟨hcore, -⟩ := Text.cut?_eq_some_iff.mp htrim
    refine ⟨row', column', hcore, ?_, ?_⟩
    · rw [← List.append_nil (left ++ row')] at hrow
      exact (Digits.isPaddedNumeral_pad hleft (List.forall_mem_nil _)).mp hrow
    · exact (Digits.isPaddedNumeral_pad (List.forall_mem_nil _) hright).mp hcolumn

theorem IsSpelledBy.not_mem_dash (h : c.IsSpelledBy cs) : '-' ∉ cs := by
  obtain ⟨row, column, rfl, hrow, hcolumn⟩ := h
  have hr : '-' ∉ row := hrow.not_mem (by decide) (by decide) (by decide)
  have hk : '-' ∉ column := hcolumn.not_mem (by decide) (by decide) (by decide)
  rw [List.mem_append, List.mem_cons, not_or, not_or]
  exact ⟨hr, by decide, hk⟩

/-- The text of a place spells it. -/
theorem isSpelledBy_text (c : Coordinate) : c.IsSpelledBy c.text.toList := by
  refine ⟨c.row.repr.toList, c.column.repr.toList, ?_, ?_, ?_⟩
  · rw [text, String.toList_append, String.toList_append, List.append_assoc]
    rfl
  · exact (Digits.isNumeral_repr c.row).isPadded
  · exact (Digits.isNumeral_repr c.column).isPadded

end Coordinate

/-! ## Locations -/

/-- The text of a span spells it, with a blank on either side of the dash. -/
theorem Span.isSpelledBy_text (s : Span) : s.IsSpelledBy s.text.toList := by
  have hblank : ∀ b ∈ [' '], Text.isBlank b = true := by
    intro b hb
    rw [List.mem_singleton.mp hb]
    decide
  refine ⟨s.start.text.toList ++ [' '], ' ' :: s.stop.text.toList, ?_, ?_, ?_⟩
  · rw [text, String.toList_append, String.toList_append, List.append_assoc, List.append_assoc]
    rfl
  · have hstart := (Coordinate.isSpelledBy_text s.start).pad (List.forall_mem_nil _) hblank
    rwa [List.nil_append] at hstart
  · have hstop := (Coordinate.isSpelledBy_text s.stop).pad hblank (List.forall_mem_nil _)
    rwa [List.append_nil] at hstop

namespace Location

variable {l : Location} {s : Span}

/-- A span is read from what spells it, if it is within the limit. -/
theorem read_eq_ok_iff : l.read = .ok s ↔ s.IsSpelledBy l.text.toList ∧ s.IsWithinLimit := by
  constructor
  · intro h
    rw [read] at h
    split at h
    · cases h
    · rename_i start stop hcut
      obtain ⟨htext, -⟩ := Text.cut?_eq_some_iff.mp hcut
      obtain ⟨a, ha, h⟩ := bind_eq_ok_iff.mp h
      obtain ⟨b, hb, h⟩ := bind_eq_ok_iff.mp h
      cases h
      obtain ⟨hstart, hstartLimit⟩ := Coordinate.read_eq_ok_iff.mp ha
      obtain ⟨hstop, hstopLimit⟩ := Coordinate.read_eq_ok_iff.mp hb
      exact ⟨⟨start, stop, htext, Coordinate.isSpelledBy_trim.mp hstart,
        Coordinate.isSpelledBy_trim.mp hstop⟩, hstartLimit, hstopLimit⟩
  · rintro ⟨⟨start, stop, htext, hstart, hstop⟩, hstartLimit, hstopLimit⟩
    have hcut : Text.cut? '-' l.text.toList = some (start, stop) :=
      Text.cut?_eq_some_iff.mpr ⟨htext, hstart.not_mem_dash⟩
    have ha : Coordinate.read (Text.trim start) = .ok s.start :=
      Coordinate.read_eq_ok_iff.mpr ⟨Coordinate.isSpelledBy_trim.mpr hstart, hstartLimit⟩
    have hb : Coordinate.read (Text.trim stop) = .ok s.stop :=
      Coordinate.read_eq_ok_iff.mpr ⟨Coordinate.isSpelledBy_trim.mpr hstop, hstopLimit⟩
    rw [read, hcut]
    exact bind_eq_ok_iff.mpr ⟨_, ha, bind_eq_ok_iff.mpr ⟨_, hb, rfl⟩⟩

theorem span_eq_ok_iff : l.span = .ok s ↔ s.IsSpelledBy l.text.toList ∧ s.IsWithinLimit := by
  rw [← read_eq_ok_iff, span]
  cases l.read with
  | error fault =>
    constructor
    · intro h
      cases h
    · intro h
      cases h
  | ok t =>
    constructor
    · intro h
      cases h
      rfl
    · intro h
      cases h
      rfl

/-- Both ends of a span that was read are within the limit. -/
theorem isWithinLimit_of_span (h : l.span = .ok s) : s.IsWithinLimit := (span_eq_ok_iff.mp h).2

/-- A failure to read a location carries it as it was written. -/
theorem exists_of_span_error {e : Failure} (h : l.span = .error e) :
    ∃ fault, e = .malformedSpan l fault := by
  rw [span] at h
  cases hr : l.read with
  | error fault =>
    rw [hr] at h
    cases h
    exact ⟨fault, rfl⟩
  | ok t =>
    rw [hr] at h
    cases h

/-- A location has a span exactly when the grammar gives it one within the limit, and that one;
    every other location is malformed. What a span within the limit is printed as names it. -/
theorem span_iff_isSpelledBy (l : Location) :
    (∀ s : Span, l.span = .ok s ↔ s.IsSpelledBy l.text.toList ∧ s.IsWithinLimit) ∧
    ((∃ fault, l.span = .error (.malformedSpan l fault)) ↔
      ¬∃ s : Span, s.IsSpelledBy l.text.toList ∧ s.IsWithinLimit) ∧
    ∀ s : Span, s.IsWithinLimit → Location.span ⟨s.text⟩ = .ok s := by
  refine ⟨fun s => span_eq_ok_iff, ⟨?_, ?_⟩, ?_⟩
  · rintro ⟨fault, hfault⟩ ⟨s, hs⟩
    rw [span_eq_ok_iff.mpr hs] at hfault
    cases hfault
  · intro hnone
    cases hspan : l.span with
    | error e =>
      obtain ⟨fault, rfl⟩ := exists_of_span_error hspan
      exact ⟨fault, rfl⟩
    | ok s => exact absurd ⟨s, span_eq_ok_iff.mp hspan⟩ hnone
  · intro s hs
    exact span_eq_ok_iff.mpr ⟨s.isSpelledBy_text, hs⟩

/-- The limit itself may be named, with zeros and blanks in front of it, and one more may not. -/
theorem span_iff_isSpelledBy_at_limit :
    Span.IsSpelledBy ⟨⟨7, 0⟩, ⟨1048576, 3⟩⟩ "+007,0-\t0001048576 , 3".toList ∧
    (¬∃ s : Span, s.IsSpelledBy "7,0 - 1048577,3".toList ∧ s.IsWithinLimit) ∧
    Span.IsWithinLimit ⟨⟨7, 0⟩, ⟨1048576, 3⟩⟩ ∧
    Location.span ⟨Span.text ⟨⟨7, 0⟩, ⟨1048576, 3⟩⟩⟩ = .ok ⟨⟨7, 0⟩, ⟨1048576, 3⟩⟩ := by
  have hread : Location.read ⟨"+007,0-\t0001048576 , 3"⟩ = .ok ⟨⟨7, 0⟩, ⟨1048576, 3⟩⟩ := by
    decide +kernel
  have hspan : Location.span ⟨"+007,0-\t0001048576 , 3"⟩ = .ok ⟨⟨7, 0⟩, ⟨1048576, 3⟩⟩ := by
    rw [Location.span, hread]
    rfl
  have hbeyond : Location.read ⟨"7,0 - 1048577,3"⟩ = .error (.beyondLimit .row "1048577") := by
    decide +kernel
  have hrefused : Location.span ⟨"7,0 - 1048577,3"⟩ =
      .error (.malformedSpan ⟨"7,0 - 1048577,3"⟩ (.beyondLimit .row "1048577")) := by
    rw [Location.span, hbeyond]
    rfl
  have hlimit : Span.IsWithinLimit ⟨⟨7, 0⟩, ⟨1048576, 3⟩⟩ :=
    ⟨⟨by decide, by decide⟩, by decide, by decide⟩
  refine ⟨?_, ?_, hlimit, ?_⟩
  · exact (((span_iff_isSpelledBy ⟨"+007,0-\t0001048576 , 3"⟩).1 _).mp hspan).1
  · exact (span_iff_isSpelledBy ⟨"7,0 - 1048577,3"⟩).2.1.mp ⟨_, hrefused⟩
  · exact (span_iff_isSpelledBy ⟨"7,0 - 1048577,3"⟩).2.2 _ hlimit

end Location

end LuauLayout
