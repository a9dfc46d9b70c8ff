/-
  LuauLayout.Proofs.Node.OutOfRange

  Locations with a number beyond the limit.

  A number is read into a machine word before it is compared with the limit, so
  there are two ways for it to be too great. One that fits into the word is
  refused as what it is. One that does not is taken for no number at all, in
  spite of its digits. Which number is blamed does not depend on this: the four
  are read in their order, and the first that is beyond the limit ends the
  reading.

    * `Figure`, `Spelling`      — a number as it is written, and four of them as a
      location.
    * `Span.isSpelledBy_iff`    — spellings are what the grammar of locations
      allows.
    * `Figure.readNumber_eq`, `Coordinate.read_trim_figures`,
      `Spelling.read_eq`        — one stage of the reader each.
    * `Location.span_of_beyond` — the failure for a location with a number beyond
      the limit.
-/

import LuauLayout.Proofs.Node.Spelling

namespace LuauLayout

/-- A numeral does not stand for two numbers. -/
theorem Digits.IsNumeral.unique {cs : List Char} {m n : Nat} (hm : Digits.IsNumeral cs m)
    (hn : Digits.IsNumeral cs n) : m = n := by
  obtain ⟨sign, ds, rfl, hsign, -, hds, rfl⟩ := hm
  obtain ⟨other, es, hcs, hother, -, hes, rfl⟩ := hn
  have hplus : ¬Char.isDigit '+' = true := by decide
  -- a plus sign is no digit, so both have it or neither does
  rcases hsign with rfl | rfl <;> rcases hother with rfl | rfl
  · rw [show ds = es from hcs]
  · have hcs : ds = '+' :: es := hcs
    exact absurd (hds '+' (hcs ▸ List.mem_cons_self)) hplus
  · have hcs : '+' :: ds = es := hcs
    exact absurd (hes '+' (hcs ▸ List.mem_cons_self)) hplus
  · rw [show ds = es from List.tail_eq_of_cons_eq hcs]

/-! ## Numbers as they are written -/

/-- A number, and how it is written: a numeral with blanks around it, or without. -/
structure Figure where
  chars : List Char
  value : Nat
  spells : Digits.IsPaddedNumeral chars value

namespace Figure

/-- A number as its decimal digits. -/
def ofNat (n : Nat) : Figure := ⟨n.repr.toList, n, (Digits.isNumeral_repr n).isPadded⟩

/-- The numeral without the blanks around it. -/
def text (f : Figure) : String := String.ofList (Text.trim f.chars)

/-- Whether a number is beyond the limit of rows and columns. -/
def isBeyond (f : Figure) : Bool := Coordinate.limit < f.value

/-- What is said about a number beyond the limit. -/
def fault (axis : Axis) (f : Figure) : SpanFault :=
  if f.value < Nat.pow 2 64 then .beyondLimit axis f.text else .notANumber axis f.text

/-- What a number is read as. -/
def result (axis : Axis) (f : Figure) : Except SpanFault Nat :=
  if f.isBeyond then .error (f.fault axis) else .ok f.value

theorem isNumeral_trim (f : Figure) : Digits.IsNumeral (Text.trim f.chars) f.value :=
  Digits.isPaddedNumeral_iff.mp f.spells

theorem natural?_trim (f : Figure) : Coordinate.natural? (Text.trim f.chars) =
    if f.value < Nat.pow 2 64 then some f.value else none := by
  by_cases hfits : f.value < Nat.pow 2 64
  · rw [if_pos hfits]
    exact Coordinate.natural?_eq_some_iff.mpr ⟨f.isNumeral_trim, hfits⟩
  · rw [if_neg hfits, Option.eq_none_iff_forall_ne_some]
    intro m hm
    obtain ⟨hnumeral, hlt⟩ := Coordinate.natural?_eq_some_iff.mp hm
    rw [hnumeral.unique f.isNumeral_trim] at hlt
    exact hfits hlt

/-- A number is read whatever blanks are around it. -/
theorem readNumber_eq (f : Figure) (axis : Axis) {cs : List Char}
    (h : Text.trim cs = Text.trim f.chars) : Coordinate.readNumber axis cs = f.result axis := by
  have hlimit : Coordinate.limit < Nat.pow 2 64 := by decide
  rw [Coordinate.readNumber, h, natural?_trim, result, isBeyond, fault, text]
  by_cases hfits : f.value < Nat.pow 2 64
  · simp only [if_pos hfits, decide_eq_true_eq]
  · -- what does not fit into a word is beyond the limit as well
    have hbeyond : Coordinate.limit < f.value := by omega
    simp only [if_neg hfits, hbeyond, decide_true, if_true]

/-- A separator is not part of a number. -/
theorem not_mem_chars (f : Figure) {sep : Char} (hblank : Text.isBlank sep = false)
    (hplus : sep ≠ '+') (hdigit : sep.isDigit = false) : sep ∉ f.chars :=
  f.spells.not_mem hblank hplus hdigit

end Figure

/-- A row and a column are read one after the other, whatever blanks are trimmed off first. -/
theorem Coordinate.read_trim_figures (row column : Figure) :
    Coordinate.read (Text.trim (row.chars ++ ',' :: column.chars)) = do
      let r ← row.result .row
      let c ← column.result .column
      return ⟨r, c⟩ := by
  have hcut : Text.cut? ',' (row.chars ++ ',' :: column.chars) = some (row.chars, column.chars) :=
    Text.cut?_eq_some_iff.mpr ⟨rfl, row.not_mem_chars (by decide) (by decide) (by decide)⟩
  obtain ⟨left, row', column', right, hrow, hcolumn, htrim, hleft, hright⟩ :=
    Text.cut?_trim (by decide) hcut
  -- the blanks that have been trimmed off are around the numerals
  have hr : Text.trim row' = Text.trim row.chars := by
    have hpad := Text.trim_pad hleft row' (List.forall_mem_nil _)
    rw [hrow, ← hpad, List.append_nil]
  have hc : Text.trim column' = Text.trim column.chars := by
    have hpad := Text.trim_pad (List.forall_mem_nil _) column' hright
    rw [hcolumn, ← hpad, List.nil_append]
  rw [read, htrim]
  show (do
    let r ← readNumber .row row'
    let c ← readNumber .column column'
    return (⟨r, c⟩ : Coordinate)) = _
  rw [row.readNumber_eq .row hr, column.readNumber_eq .column hc]

/-! ## Locations as they are written -/

/-- The four numbers of a location as they are written. -/
structure Spelling where
  startRow : Figure
  startColumn : Figure
  stopRow : Figure
  stopColumn : Figure

namespace Spelling

/-- The numbers with the separators between them. -/
def chars (w : Spelling) : List Char :=
  (w.startRow.chars ++ ',' :: w.startColumn.chars) ++
    '-' :: (w.stopRow.chars ++ ',' :: w.stopColumn.chars)

/-- The span that is spelled. -/
def span (w : Spelling) : Span :=
  ⟨⟨w.startRow.value, w.startColumn.value⟩, ⟨w.stopRow.value, w.stopColumn.value⟩⟩

/-- The numbers in their order: start before end, row before column. -/
def figures (w : Spelling) : List (Axis × Figure) :=
  [(.row, w.startRow), (.column, w.startColumn), (.row, w.stopRow), (.column, w.stopColumn)]

/-- The first number that is beyond the limit. -/
def firstBeyond? (w : Spelling) : Option (Axis × Figure) := w.figures.find? (·.2.isBeyond)

end Spelling

/-- The spellings of a span are the texts that the grammar of locations allows for it. -/
theorem Span.isSpelledBy_iff {s : Span} {cs : List Char} :
    s.IsSpelledBy cs ↔ ∃ w : Spelling, cs = w.chars ∧ w.span = s := by
  constructor
  · rintro ⟨start, stop, rfl, ⟨row, column, rfl, hrow, hcolumn⟩,
      ⟨row', column', rfl, hrow', hcolumn'⟩⟩
    exact ⟨⟨⟨row, _, hrow⟩, ⟨column, _, hcolumn⟩, ⟨row', _, hrow'⟩, ⟨column', _, hcolumn'⟩⟩,
      rfl, rfl⟩
  · rintro ⟨w, rfl, rfl⟩
    exact ⟨_, _, rfl, ⟨_, _, rfl, w.startRow.spells, w.startColumn.spells⟩,
      ⟨_, _, rfl, w.stopRow.spells, w.stopColumn.spells⟩⟩

namespace Spelling

variable {w : Spelling}

/-- Some number is beyond the limit exactly if the span is not within it. -/
theorem firstBeyond?_eq_none_iff : w.firstBeyond? = none ↔ w.span.IsWithinLimit := by
  simp only [firstBeyond?, figures, List.find?_eq_none, List.forall_mem_cons, List.not_mem_nil,
    false_implies, implies_true, and_true, Figure.isBeyond, decide_eq_true_eq, Nat.not_lt,
    Span.IsWithinLimit, Coordinate.IsWithinLimit, span, and_assoc]

/-- Reading goes up to the first number beyond the limit, and fails at it. -/
theorem read_eq {l : Location} (hl : l.text.toList = w.chars) : l.read =
    match w.firstBeyond? with
    | some (axis, f) => .error (f.fault axis)
    | none => .ok w.span := by
  have hdash : '-' ∉ w.startRow.chars ++ ',' :: w.startColumn.chars := by
    rw [List.mem_append, List.mem_cons, not_or, not_or]
    exact ⟨w.startRow.not_mem_chars (by decide) (by decide) (by decide), by decide,
      w.startColumn.not_mem_chars (by decide) (by decide) (by decide)⟩
  have hcut : Text.cut? '-' l.text.toList = some (w.startRow.chars ++ ',' :: w.startColumn.chars,
      w.stopRow.chars ++ ',' :: w.stopColumn.chars) :=
    Text.cut?_eq_some_iff.mpr ⟨hl, hdash⟩
  rw [Location.read, hcut]
  show (do
    let start ← Coordinate.read (Text.trim (w.startRow.chars ++ ',' :: w.startColumn.chars))
    let stop ← Coordinate.read (Text.trim (w.stopRow.chars ++ ',' :: w.stopColumn.chars))
    return (⟨start, stop⟩ : Span)) = _
  rw [Coordinate.read_trim_figures, Coordinate.read_trim_figures, firstBeyond?, figures]
  -- the first of the four that is beyond the limit decides; the others are not looked at
  simp only [Figure.result, List.find?_cons, List.find?_nil]
  cases w.startRow.isBeyond with
  | true => rfl
  | false =>
    cases w.startColumn.isBeyond with
    | true => rfl
    | false =>
      cases w.stopRow.isBeyond with
      | true => rfl
      | false =>
        cases w.stopColumn.isBeyond with
        | true => rfl
        | false => rfl

end Spelling

namespace Location

/-- A location with a number beyond the limit is malformed on account of the first such number. It
    is said to be beyond the limit if it fits into a word, and not to be a number if it does not. -/
theorem span_of_beyond {l : Location} {w : Spelling} (hl : l.text.toList = w.chars)
    (hbeyond : ¬w.span.IsWithinLimit) :
    ∃ axis f, w.firstBeyond? = some (axis, f) ∧
      (f.value < Nat.pow 2 64 →
        l.span = .error (.malformedSpan l (.beyondLimit axis f.text))) ∧
      (Nat.pow 2 64 ≤ f.value →
        l.span = .error (.malformedSpan l (.notANumber axis f.text))) := by
  cases hfirst : w.firstBeyond? with
  | none => exact absurd (Spelling.firstBeyond?_eq_none_iff.mp hfirst) hbeyond
  | some entry =>
    obtain ⟨axis, f⟩ := entry
    have hread : l.read = .error (f.fault axis) := by rw [Spelling.read_eq hl, hfirst]
    have hspan : l.span = .error (.malformedSpan l (f.fault axis)) := by
      rw [span, hread]
      rfl
    refine ⟨axis, f, rfl, ?_, ?_⟩
    · intro hfits
      rw [hspan, Figure.fault, if_pos hfits]
    · intro hlarge
      rw [hspan, Figure.fault, if_neg (Nat.not_lt.mpr hlarge)]

/-- The first of two numbers beyond the limit fits into a word, so what the second does not fit into
    is of no account. -/
theorem span_of_beyond_column :
    let w : Spelling := ⟨.ofNat 0, .ofNat 1048577, .ofNat 18446744073709551616, .ofNat 0⟩
    let l : Location := ⟨"0,1048577-18446744073709551616,0"⟩
    l.text.toList = w.chars ∧ ¬w.span.IsWithinLimit ∧
      l.span = .error (.malformedSpan l (.beyondLimit .column "1048577")) := by
  intro w l
  have hl : l.text.toList = w.chars := by decide +kernel
  have hfirst : w.firstBeyond? = some (.column, .ofNat 1048577) := rfl
  have hbeyond : ¬w.span.IsWithinLimit := by
    rw [← Spelling.firstBeyond?_eq_none_iff, hfirst]
    exact Option.some_ne_none _
  have htext : (Figure.ofNat 1048577).text = "1048577" := by decide +kernel
  obtain ⟨axis, f, hf, hsmall, -⟩ := span_of_beyond hl hbeyond
  rw [hfirst] at hf
  cases hf
  refine ⟨hl, hbeyond, ?_⟩
  rw [← htext]
  exact hsmall (by decide)

/-- The least number that does not fit into a word is far beyond the limit, and a location that has
    it for a row is refused because it is not a number. -/
theorem exists_beyond_notANumber : ∃ (l : Location) (s : Span),
    s.IsSpelledBy l.text.toList ∧ Coordinate.limit < s.start.row ∧
      l.span = .error (.malformedSpan l (.notANumber .row "18446744073709551616")) := by
  let w : Spelling := ⟨.ofNat 18446744073709551616, .ofNat 0, .ofNat 0, .ofNat 0⟩
  have hread : Location.read ⟨"18446744073709551616,0-0,0"⟩ =
      .error (.notANumber .row "18446744073709551616") := by decide +kernel
  refine ⟨⟨"18446744073709551616,0-0,0"⟩, w.span, ?_, by decide, ?_⟩
  · exact Span.isSpelledBy_iff.mpr ⟨w, by decide +kernel, rfl⟩
  · rw [span, hread]
    rfl

end Location
end LuauLayout
