/-
  LuauLayout.Proofs.LineDiff.Printed

  What can be read off a printed difference.

  Whoever reads a printed difference takes the first character of each line for
  its mark. The lines that both texts have and those that only the expected one
  has should then be the expected text, and likewise for the actual one.

  The groups of a difference are such a pair of texts, but for an empty text,
  which takes part as no line at all. Not every line of a group is printed as it
  is, though: an empty one at the end of a group is left out, and a carriage
  return at the end of any other line is. So both texts can be read off exactly
  if neither is empty and no group has such a line, and a difference whose groups
  are single empty lines shows no difference.

    * `readPrinted`           — the marked lines that are read off a text.
    * `entries`, `without`    — the lines of groups, and those but for one mark.
    * `without_marked`        — the lines that are marked as of one text are its
      lines.
    * `readPrinted_print`     — reading gives the lines of each group that are
      shown.
    * `print_shows_iff`       — when both texts, and when any difference, can be
      read off.
-/

import LuauLayout.Proofs.LineDiff.Distance
import LuauLayout.Text.Escape

namespace LuauLayout

/-- A text without the instructions to the terminal in front of its first character. -/
def Text.dropInstructions (e : Escape) : List Char → List Char
  | [] => []
  | c :: rest => if e.hides c then dropInstructions (e.next c) rest else c :: rest

/-! ## Parts of lists -/

section Parts

variable {α β : Type} {f g : α → List β} {xs : List α}

/-- Parts that are no longer than their counterparts are no longer together. -/
theorem length_flatMap_le (hle : ∀ x ∈ xs, (f x).length ≤ (g x).length) :
    (xs.flatMap f).length ≤ (xs.flatMap g).length := by
  induction xs with
  | nil => exact Nat.le_refl _
  | cons x xs ih =>
    obtain ⟨hx, hxs⟩ := List.forall_mem_cons.mp hle
    have hrest := ih hxs
    rw [List.flatMap_cons, List.flatMap_cons, List.length_append, List.length_append]
    omega

/-- They make up the same together exactly if each is its counterpart. -/
theorem flatMap_eq_flatMap_iff (hle : ∀ x ∈ xs, (f x).length ≤ (g x).length) :
    xs.flatMap f = xs.flatMap g ↔ ∀ x ∈ xs, f x = g x := by
  constructor
  · intro h
    induction xs with
    | nil => exact List.forall_mem_nil _
    | cons x xs ih =>
      obtain ⟨hx, hxs⟩ := List.forall_mem_cons.mp hle
      rw [List.flatMap_cons, List.flatMap_cons] at h
      -- no part makes up for another that is too short
      have hlength := congrArg List.length h
      have hrest := length_flatMap_le hxs
      rw [List.length_append, List.length_append] at hlength
      obtain ⟨hhead, htail⟩ := List.append_inj h (by omega)
      exact List.forall_mem_cons.mpr ⟨hhead, ih hxs htail⟩
  · intro h
    rw [List.flatMap_def, List.flatMap_def, List.map_congr_left h]

end Parts

namespace LineDiff

/-! ## Lines of groups -/

/-- The lines of groups, each with its mark. -/
def entries (gs : List Group) : List (Mark × String) :=
  gs.flatMap fun g => g.lines.map (g.mark, ·)

/-- The lines under any but one mark. -/
def without (m : Mark) (es : List (Mark × String)) : List String :=
  (es.filter (·.1 ≠ m)).map (·.2)

theorem without_append (m : Mark) (es fs : List (Mark × String)) :
    without m (es ++ fs) = without m es ++ without m fs := by
  rw [without, List.filter_append, List.map_append]
  rfl

theorem without_map (m mark : Mark) (ls : List String) :
    without m (ls.map (mark, ·)) = if mark ≠ m then ls else [] := by
  by_cases h : mark = m
  · simp [without, h, List.filter_map, Function.comp_def]
  · simp [without, h, List.filter_map, Function.comp_def]

/-- Of marked lines in groups, those but for one mark are in the groups but for this mark. -/
theorem without_flatMap (m : Mark) (f : Group → List String) (gs : List Group) :
    without m (gs.flatMap fun g => (f g).map (g.mark, ·)) =
      (gs.filter (·.mark ≠ m)).flatMap f := by
  induction gs with
  | nil => rfl
  | cons g rest ih =>
    rw [List.flatMap_cons, without_append, ih, without_map]
    by_cases h : g.mark = m
    · simp [h]
    · simp [h]

/-- A line in front of groups is in front of their lines. -/
theorem entries_consLine (e : Mark × String) (gs : List Group) :
    entries (consLine e gs) = e :: entries gs := by
  cases gs with
  | nil => rfl
  | cons g rest =>
    rw [consLine]
    split
    · rename_i hmark
      simp [entries, hmark]
    · rfl

/-- Grouping loses no line. -/
theorem entries_foldr_consLine (es : List (Mark × String)) :
    entries (es.foldr consLine []) = es := by
  induction es with
  | nil => rfl
  | cons e rest ih => rw [List.foldr_cons, entries_consLine, ih]

theorem lines_ne_nil_consLine (e : Mark × String) {gs : List Group}
    (h : ∀ g ∈ gs, g.lines ≠ []) : ∀ g ∈ consLine e gs, g.lines ≠ [] := by
  cases gs with
  | nil => simp [consLine]
  | cons g rest =>
    obtain ⟨-, hrest⟩ := List.forall_mem_cons.mp h
    rw [consLine]
    split
    · exact List.forall_mem_cons.mpr ⟨List.cons_ne_nil _ _, hrest⟩
    · exact List.forall_mem_cons.mpr ⟨List.cons_ne_nil _ _, h⟩

/-- There is no group without a line. -/
theorem lines_ne_nil_foldr_consLine (es : List (Mark × String)) :
    ∀ g ∈ es.foldr consLine [], g.lines ≠ [] := by
  induction es with
  | nil => exact List.forall_mem_nil _
  | cons e rest ih => exact lines_ne_nil_consLine e ih

/-! ## Lines of a text -/

/-- A line that is common stands behind the lines in front of its first occurrence, and those that
    are common behind it stand behind it. -/
theorem exists_of_cons_sublist {c : String} {rest ls : List String} (h : (c :: rest).Sublist ls) :
    ls = ls.takeWhile (· ≠ c) ++ c :: (ls.dropWhile (· ≠ c)).tail ∧
      rest.Sublist (ls.dropWhile (· ≠ c)).tail := by
  induction ls with
  | nil => cases h
  | cons l ls ih =>
    by_cases hl : l = c
    · subst hl
      simpa using List.cons_sublist_cons.mp h
    · have hbehind : (c :: rest).Sublist ls := by
        cases h with
        | cons _ h => exact h
        | cons_cons _ h => exact absurd rfl hl
      obtain ⟨hls, hrest⟩ := ih hbehind
      have htake : (l :: ls).takeWhile (· ≠ c) = l :: ls.takeWhile (· ≠ c) := by simp [hl]
      have hdrop : (l :: ls).dropWhile (· ≠ c) = ls.dropWhile (· ≠ c) := by simp [hl]
      rw [htake, hdrop, List.cons_append, ← hls]
      exact ⟨rfl, hrest⟩

/-- By the common lines: of the marked lines, those but for the added ones are the expected lines,
    and those but for the removed ones the actual lines. -/
theorem without_marked {common expected actual : List String} (he : common.Sublist expected)
    (ha : common.Sublist actual) :
    without .added (marked common expected actual) = expected ∧
      without .removed (marked common expected actual) = actual := by
  induction common generalizing expected actual with
  | nil => simp [marked, without_append, without_map]
  | cons c rest ih =>
    obtain ⟨hexpected, hrestE⟩ := exists_of_cons_sublist he
    obtain ⟨hactual, hrestA⟩ := exists_of_cons_sublist ha
    obtain ⟨ihE, ihA⟩ := ih hrestE hrestA
    -- a common line is on both sides, whichever mark is left out
    have hcommon (m : Mark) (hm : Mark.common ≠ m) (es : List (Mark × String)) :
        without m ((.common, c) :: es) = c :: without m es := by simp [without, hm]
    rw [marked]
    constructor
    · rw [without_append, without_append, without_map, without_map, hcommon _ (by decide), ihE,
        if_pos (by decide), if_neg (by decide), List.append_nil]
      exact hexpected.symm
    · rw [without_append, without_append, without_map, without_map, hcommon _ (by decide), ihA,
        if_neg (by decide), if_pos (by decide), List.nil_append]
      exact hactual.symm

/-- The lines of a text are counted all, but for the one of the empty text. -/
theorem counted_lines_eq_iff {t : String} : counted (Text.lines t) = Text.lines t ↔ t ≠ "" := by
  have hempty : Text.lines "" = [""] := rfl
  rw [counted]
  split
  · rename_i hlines
    have ht : t = "" := Text.lines_injective (hlines.trans hempty.symm)
    subst ht
    simp [hempty]
  · rename_i hlines
    refine iff_of_true rfl ?_
    rintro rfl
    exact hlines hempty

theorem counted_sublist (ls : List String) : (counted ls).Sublist ls := by
  rw [counted]
  split
  · exact List.nil_sublist _
  · exact List.Sublist.refl _

/-- What is common is a subsequence of what is counted, be it counted or not. -/
theorem counted_sublist_counted {common ls : List String} (h : common.Sublist ls) :
    (counted common).Sublist (counted ls) := by
  by_cases hls : ls = [""]
  · -- of one empty line, the common lines are this line or none
    subst hls
    rcases List.sublist_cons_iff.mp h with hnil | ⟨rest, rfl, hnil⟩
    · obtain rfl := List.sublist_nil.mp hnil
      exact List.nil_sublist _
    · obtain rfl := List.sublist_nil.mp hnil
      exact List.Sublist.refl _
  · rw [show counted ls = ls from if_neg hls]
    exact (counted_sublist common).trans h

/-- The groups of a difference are the lines of either text, each with its mark. -/
theorem without_entries_groups (expected actual : String) :
    without .added (entries (groups expected actual)) = counted (Text.lines expected) ∧
      without .removed (entries (groups expected actual)) = counted (Text.lines actual) := by
  obtain ⟨he, ha⟩ := common_sublist (Text.lines expected) (Text.lines actual)
  rw [groups, entries_foldr_consLine]
  exact without_marked (counted_sublist_counted he) (counted_sublist_counted ha)

/-- There is no line break in a line of a group. -/
theorem unbroken_of_mem_groups {expected actual : String} {g : Group}
    (hg : g ∈ groups expected actual) {l : String} (hl : l ∈ g.lines) : '\n' ∉ l.toList := by
  have hentry : (g.mark, l) ∈ entries (groups expected actual) :=
    List.mem_flatMap.mpr ⟨g, hg, List.mem_map_of_mem hl⟩
  have hmem (m : Mark) (hm : g.mark ≠ m) : l ∈ without m (entries (groups expected actual)) :=
    List.mem_map.mpr ⟨_, List.mem_filter.mpr ⟨hentry, by simpa using hm⟩, rfl⟩
  have hlines (t : String) (ht : l ∈ counted (Text.lines t)) : '\n' ∉ l.toList := by
    obtain ⟨part, hpart, rfl⟩ := List.mem_map.mp ((counted_sublist _).subset ht)
    rw [String.toList_ofList]
    exact Text.not_mem_of_mem_split hpart
  obtain ⟨he, ha⟩ := without_entries_groups expected actual
  -- a line that is not of the expected text has been added to it
  by_cases hadded : g.mark = .added
  · exact hlines actual (ha ▸ hmem .removed (by rw [hadded]; decide))
  · exact hlines expected (he ▸ hmem .added hadded)

/-! ## Reading -/

/-- The mark that a character stands for. -/
def Mark.ofSign? : Char → Option Mark
  | ' ' => some .common
  | '-' => some .removed
  | '+' => some .added
  | _ => none

/-- The mark of a printed line and what is behind it, whatever its colour. -/
def readLine? (l : List Char) : Option (Mark × String) :=
  match Text.dropInstructions .outside l with
  | [] => none
  | c :: rest => (Mark.ofSign? c).map (·, String.ofList rest)

/-- The marked lines of a text. -/
def readChars (cs : List Char) : List (Mark × String) :=
  (Text.split '\n' cs).filterMap readLine?

/-- The marked lines of a printed difference. -/
def readPrinted (text : String) : List (Mark × String) := readChars text.toList

/-- A line is read before those behind it. -/
theorem readChars_line {l : List Char} (hl : '\n' ∉ l) (rest : List Char) :
    readChars (l ++ '\n' :: rest) = (readLine? l).toList ++ readChars rest := by
  rw [readChars, Text.split_append_separator hl, List.filterMap_cons]
  cases readLine? l with
  | none => rfl
  | some e => rfl

/-- The code for a colour is one instruction, or two. -/
theorem dropInstructions_colour (m : Mark) (cs : List Char) :
    Text.dropInstructions .outside (m.colour.toList ++ cs) = Text.dropInstructions .outside cs := by
  cases m with
  | common => rfl
  | removed => rfl
  | added => rfl

/-- A colour at the beginning of a line is passed over. -/
theorem readChars_colour (m : Mark) (rest : List Char) :
    readChars (m.colour.toList ++ rest) = readChars rest := by
  have hcolour : '\n' ∉ m.colour.toList := by cases m <;> decide
  obtain ⟨part, parts, hsplit⟩ := List.exists_cons_of_ne_nil (Text.split_ne_nil '\n' rest)
  rw [readChars, readChars, Text.split_append hcolour hsplit, hsplit]
  simp only [List.filterMap_cons, readLine?, dropInstructions_colour]

theorem readLine?_sign (m : Mark) (l : String) :
    readLine? (m.sign ++ l).toList = some (m, l) := by
  have hread : readLine? (m.sign ++ l).toList = some (m, String.ofList l.toList) := by
    rw [String.toList_append]
    cases m with
    | common => rfl
    | removed => rfl
    | added => rfl
  rw [hread, String.ofList_toList]

/-- No line break is shown in a line that has none. -/
theorem unbroken_of_mem_shown {ls : List String} (h : ∀ l ∈ ls, '\n' ∉ l.toList) :
    ∀ l ∈ Text.shown ls, '\n' ∉ l.toList := by
  fun_induction Text.shown ls with
  | case1 => exact h
  | case2 => exact List.forall_mem_nil _
  | case3 last _ => exact h
  | case4 l next rest ih =>
    obtain ⟨hl, hrest⟩ := List.forall_mem_cons.mp h
    refine List.forall_mem_cons.mpr ⟨?_, ih hrest⟩
    rw [Text.dropReturn]
    split
    · rw [String.toList_ofList]
      exact fun hmem => hl (List.dropLast_subset _ hmem)
    · exact hl

/-- Lines under one mark are read one by one. -/
theorem readChars_signed (m : Mark) {ls : List String} (h : ∀ l ∈ ls, '\n' ∉ l.toList)
    (rest : List Char) :
    readChars ((ls.map (m.sign ++ ·)).flatMap (fun l => (l ++ "\n").toList) ++ rest) =
      ls.map (m, ·) ++ readChars rest := by
  induction ls with
  | nil => rfl
  | cons l ls ih =>
    obtain ⟨hl, hls⟩ := List.forall_mem_cons.mp h
    have hsigned : '\n' ∉ (m.sign ++ l).toList := by
      rw [String.toList_append, List.mem_append, not_or]
      exact ⟨by cases m <;> decide, hl⟩
    have hbreak : "\n".toList = ['\n'] := rfl
    rw [List.map_cons, List.flatMap_cons, String.toList_append, hbreak, List.append_assoc,
      List.append_assoc, List.singleton_append, readChars_line hsigned, ih hls, readLine?_sign]
    rfl

/-- A group is read as its lines that are shown, whether it is coloured or not. -/
theorem readChars_group (colours : Bool) {g : Group} (h : ∀ l ∈ g.lines, '\n' ∉ l.toList)
    (rest : List Char) :
    readChars ((g.print colours).toList ++ rest) =
      (Text.shown g.lines).map (g.mark, ·) ++ readChars rest := by
  have hlines : (String.join (g.shown.map (· ++ "\n"))).toList =
      g.shown.flatMap fun l => (l ++ "\n").toList := by
    rw [String.toList_join, List.flatMap_map]
  rw [Group.print, String.toList_append, hlines, List.append_assoc]
  have hsigned := readChars_signed g.mark (unbroken_of_mem_shown h) rest
  cases colours with
  | false => exact hsigned
  | true =>
    exact (readChars_colour g.mark _).trans hsigned

/-- A printed difference is read as the lines of each group that are shown. -/
theorem readPrinted_print (colours : Bool) {gs : List Group}
    (h : ∀ g ∈ gs, ∀ l ∈ g.lines, '\n' ∉ l.toList) :
    readPrinted (print colours gs) =
      gs.flatMap fun g => (Text.shown g.lines).map (g.mark, ·) := by
  -- `rest` is the instruction that resets the colour, or nothing
  have hread (rest : List Char) (hrest : readChars rest = []) :
      readChars ((String.join (gs.map (Group.print colours))).toList ++ rest) =
        gs.flatMap fun g => (Text.shown g.lines).map (g.mark, ·) := by
    induction gs with
    | nil => exact hrest
    | cons g gs ih =>
      obtain ⟨hg, hgs⟩ := List.forall_mem_cons.mp h
      rw [List.map_cons, String.join_cons, String.toList_append, List.append_assoc,
        readChars_group colours hg, ih hgs, List.flatMap_cons]
  rw [readPrinted, print, String.toList_append]
  cases colours with
  | false => exact hread _ rfl
  | true => exact hread _ rfl

/-! ## What is read -/

/-- Every line of the group is shown as it is. -/
def Group.KeepsLines (g : Group) : Prop :=
  g.lines.getLast? ≠ some "" ∧ ∀ l ∈ g.lines.dropLast, l.toList.getLast? ≠ some '\r'

instance (g : Group) : Decidable g.KeepsLines := inferInstanceAs (Decidable (_ ∧ _))

/-- If the groups but for one mark are the lines of a text, then what is shown of them is the text
    exactly if it is not empty and every such group keeps its lines. -/
theorem without_shown_eq_lines_iff {m : Mark} {gs : List Group} {t : String}
    (h : without m (entries gs) = counted (Text.lines t)) :
    without m (gs.flatMap fun g => (Text.shown g.lines).map (g.mark, ·)) = Text.lines t ↔
      t ≠ "" ∧ ∀ g ∈ gs, g.mark ≠ m → g.KeepsLines := by
  rw [entries, without_flatMap] at h
  have hle : ∀ g ∈ gs.filter (·.mark ≠ m), (Text.shown g.lines).length ≤ g.lines.length :=
    fun g _ => Text.length_shown_le g.lines
  rw [without_flatMap]
  constructor
  · intro hshown
    -- what is shown is no longer than what is counted, which is no longer than the text
    have hcounted : counted (Text.lines t) = Text.lines t := by
      refine (counted_sublist _).eq_of_length_le ?_
      rw [← h, ← hshown]
      exact length_flatMap_le hle
    rw [← hcounted, ← h, flatMap_eq_flatMap_iff hle] at hshown
    refine ⟨counted_lines_eq_iff.mp hcounted, fun g hg hm => ?_⟩
    exact Text.shown_eq_self_iff.mp (hshown g (List.mem_filter.mpr ⟨hg, by simpa using hm⟩))
  · rintro ⟨ht, hkeeps⟩
    rw [← counted_lines_eq_iff.mpr ht, ← h, flatMap_eq_flatMap_iff hle]
    intro g hg
    obtain ⟨hmem, hm⟩ := List.mem_filter.mp hg
    exact Text.shown_eq_self_iff.mpr (hkeeps g hmem (by simpa using hm))

/-- A line that is not common is shown exactly if there is a group of such lines other than a
    single empty line. -/
theorem exists_shown_iff {gs : List Group} (h : ∀ g ∈ gs, g.lines ≠ []) :
    (∃ e ∈ gs.flatMap fun g => (Text.shown g.lines).map (g.mark, ·), e.1 ≠ .common) ↔
      ∃ g ∈ gs, g.mark ≠ .common ∧ g.lines ≠ [""] := by
  constructor
  · rintro ⟨e, he, hmark⟩
    obtain ⟨g, hg, he⟩ := List.mem_flatMap.mp he
    obtain ⟨l, hl, rfl⟩ := List.mem_map.mp he
    refine ⟨g, hg, hmark, fun hempty => List.ne_nil_of_mem hl ?_⟩
    exact Text.shown_eq_nil_iff.mpr (.inr hempty)
  · rintro ⟨g, hg, hmark, hempty⟩
    have hshown : Text.shown g.lines ≠ [] := fun hnil =>
      (Text.shown_eq_nil_iff.mp hnil).elim (h g hg) hempty
    obtain ⟨l, hl⟩ := List.exists_mem_of_ne_nil _ hshown
    exact ⟨(g.mark, l), List.mem_flatMap.mpr ⟨g, hg, List.mem_map_of_mem hl⟩, hmark⟩

/-- What is read off the printed difference of two texts. -/
def readBack (colours : Bool) (expected actual : String) : List (Mark × String) :=
  readPrinted (print colours (groups expected actual))

/-- Two different texts have a distance, and their groups are their lines. From what is printed,
    the lines of each group that are shown are read; these are the lines of the expected and of the
    actual text exactly if it is not empty and the groups it has keep their lines, and they show
    a difference exactly if there is a group of lines that only one text has, other than a single
    empty line. -/
theorem print_shows_iff (colours : Bool) {expected actual : String} (hne : expected ≠ actual) :
    distance expected actual ≠ 0 ∧
    without .added (entries (groups expected actual)) = counted (Text.lines expected) ∧
    without .removed (entries (groups expected actual)) = counted (Text.lines actual) ∧
    readBack colours expected actual =
      (groups expected actual).flatMap (fun g => (Text.shown g.lines).map (g.mark, ·)) ∧
    (without .added (readBack colours expected actual) = Text.lines expected ↔
      expected ≠ "" ∧ ∀ g ∈ groups expected actual, g.mark ≠ .added → g.KeepsLines) ∧
    (without .removed (readBack colours expected actual) = Text.lines actual ↔
      actual ≠ "" ∧ ∀ g ∈ groups expected actual, g.mark ≠ .removed → g.KeepsLines) ∧
    ((∃ e ∈ readBack colours expected actual, e.1 ≠ .common) ↔
      ∃ g ∈ groups expected actual, g.mark ≠ .common ∧ g.lines ≠ [""]) := by
  obtain ⟨he, ha⟩ := without_entries_groups expected actual
  have hread : readBack colours expected actual =
      (groups expected actual).flatMap fun g => (Text.shown g.lines).map (g.mark, ·) :=
    readPrinted_print colours fun _ hg _ hl => unbroken_of_mem_groups hg hl
  refine ⟨mt distance_eq_zero_iff.mp hne, he, ha, hread, ?_, ?_, ?_⟩
  · rw [hread]
    exact without_shown_eq_lines_iff he
  · rw [hread]
    exact without_shown_eq_lines_iff ha
  · rw [hread]
    exact exists_shown_iff (lines_ne_nil_foldr_consLine _)

/-- An empty line in front of another one of its group is printed, and so is a carriage return at
    the end of a text. -/
theorem print_shows_empty_line :
    "a\n\nb" ≠ "c\r" ∧
      without .added (readBack true "a\n\nb" "c\r") = Text.lines "a\n\nb" ∧
      without .removed (readBack true "a\n\nb" "c\r") = Text.lines "c\r" := by
  have hne : "a\n\nb" ≠ "c\r" := by decide
  obtain ⟨-, -, -, -, hexpected, hactual, -⟩ := print_shows_iff true hne
  exact ⟨hne, hexpected.mpr (by decide +kernel), hactual.mpr (by decide +kernel)⟩

/-- An empty line between two common ones is a group of its own. Its text differs from the one
    without it, and the printed difference does not show it. -/
theorem empty_line_not_printed :
    "a\n\nb" ≠ "a\nb" ∧
      without .added (entries (groups "a\n\nb" "a\nb")) = Text.lines "a\n\nb" ∧
      without .removed (entries (groups "a\n\nb" "a\nb")) = Text.lines "a\nb" ∧
      print false (groups "a\n\nb" "a\nb") = " a\n b\n" ∧
      without .added (readBack false "a\n\nb" "a\nb") ≠ Text.lines "a\n\nb" ∧
      ¬∃ e ∈ readBack false "a\n\nb" "a\nb", e.1 ≠ .common := by
  decide +kernel

end LineDiff
end LuauLayout
