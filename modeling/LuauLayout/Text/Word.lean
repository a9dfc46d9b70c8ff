/-
  LuauLayout.Text.Word

  The words of a line: what stays together when the line is broken.

  A word ends where a line may end, except behind a hyphen, a soft hyphen
  included. When the line itself ends with a hyphen, its last two words are one.
  Instructions to a terminal are passed over; they go with the word that follows
  them.

    * `words` — the words of a line, each with the spaces behind it;
      `flatten_words` says that nothing is lost.
-/

import LuauLayout.Text.Escape
import LuauLayout.Text.LineBreak

namespace LuauLayout
namespace Text

/-- The hyphen, and the soft hyphen. -/
def isHyphen (c : Char) : Bool := c == '-' || c == '\xad'

/-- Takes back the last answer that is yes. -/
def clearLast : List Bool → List Bool
  | [] => []
  | b :: rest => if rest.any id then b :: clearLast rest else false :: rest

/-- Cuts a list behind each item that is marked. -/
def cutBehind {α : Type} : List (α × Bool) → List (List α)
  | [] => []
  | (a, true) :: rest => [a] :: cutBehind rest
  | (a, false) :: rest =>
    match cutBehind rest with
    | [] => [[a]]
    | g :: gs => (a :: g) :: gs

/-- Puts items behind the last group. -/
def appendLast {α : Type} (tail : List α) : List (List α) → List (List α)
  | [] => if tail.isEmpty then [] else [tail]
  | [g] => [g ++ tail]
  | g :: h :: rest => g :: appendLast tail (h :: rest)

/-- For each character of a line, whether a word ends behind it. -/
def wordEnds (shown : List Char) : List Bool :=
  let marks := List.zipWith (fun c e => e && !isHyphen c) shown (ends shown)
  if shown.getLast?.any isHyphen then clearLast marks else marks

/-- The words of a line, each with the spaces behind it. -/
def words (line : List Char) : List (List Char) :=
  let (cs, tail) := cells .outside [] line
  appendLast tail <|
    (cutBehind (cs.zip (wordEnds (cs.map Cell.shown)))).map (·.flatMap Cell.chars)

/-! ## Nothing is lost -/

theorem length_clearLast (bs : List Bool) : (clearLast bs).length = bs.length := by
  induction bs with
  | nil => rfl
  | cons b rest ih =>
    simp only [clearLast]
    split <;> simp [ih]

theorem length_wordEnds (shown : List Char) : (wordEnds shown).length = shown.length := by
  simp only [wordEnds]
  split <;> simp [length_clearLast, length_ends]

theorem flatten_cutBehind {α : Type} (items : List (α × Bool)) :
    (cutBehind items).flatten = items.map Prod.fst := by
  induction items with
  | nil => rfl
  | cons p rest ih =>
    obtain ⟨a, b⟩ := p
    cases b with
    | true => simp [cutBehind, ih]
    | false =>
      simp only [cutBehind, List.map_cons]
      split
      · next h => rw [h] at ih; simp [← ih]
      · next g gs h => rw [h] at ih; simp [← ih]

theorem flatten_appendLast {α : Type} (tail : List α) (groups : List (List α)) :
    (appendLast tail groups).flatten = groups.flatten ++ tail := by
  fun_induction appendLast tail groups with
  | case1 h => simp_all
  | case2 h => simp
  | case3 g => simp
  | case4 g h rest ih => simp [ih]

/-- The words of a line make up the line. -/
theorem flatten_words (line : List Char) : (words line).flatten = line := by
  have hcells := cells_chars .outside [] line
  simp only [words, flatten_appendLast]
  have hzip : ((cells .outside [] line).1.zip
      (wordEnds ((cells .outside [] line).1.map Cell.shown))).map Prod.fst
      = (cells .outside [] line).1 := by
    apply List.map_fst_zip
    simp [length_wordEnds]
  have hcut := flatten_cutBehind ((cells .outside [] line).1.zip
      (wordEnds ((cells .outside [] line).1.map Cell.shown)))
  rw [hzip] at hcut
  have hmap : ∀ gs : List (List Cell),
      (gs.map (·.flatMap Cell.chars)).flatten = gs.flatten.flatMap Cell.chars := by
    intro gs
    induction gs with
    | nil => rfl
    | cons g rest ih => simp [ih]
  rw [hmap, hcut]
  simpa using hcells

end Text
end LuauLayout
