/-
  LuauLayout.Text.Lines

  A text as lines, in two ways.

  `lines` cuts a text at every line break and loses nothing else: joining the
  lines gives the text back, and even the empty text has one line. `shown` is how
  a run of lines is put on a terminal, where a carriage return before a line
  break belongs to the break, and where nothing is shown for an empty last line.

    * `lines`       — cutting.
    * `joinLines`   — the reverse.
    * `shown`       — the lines that are shown for a run of lines;
      `shown_eq_self_iff` says when that is all of them.
    * `trimLineEnd` — a text without the line breaks and carriage returns at its end.
    * `endsLine`    — whether there is one of them at its end.
-/

import LuauLayout.Text.Split

namespace LuauLayout
namespace Text

/-- The lines of a text; there is at least one. -/
def lines (s : String) : List String := (split '\n' s.toList).map String.ofList

/-- Lines as one text, with a line break between each and the next. -/
def joinLines (ls : List String) : String := "\n".intercalate ls

/-- The line without the carriage return at its end, if it has one. -/
def dropReturn (l : String) : String :=
  if l.toList.getLast? = some '\r' then String.ofList l.toList.dropLast else l

/-- What is shown for a run of lines: all but the last without a carriage return at the end, and
    the last as it is, unless it is empty. -/
def shown : List String → List String
  | [] => []
  | [last] => if last = "" then [] else [last]
  | l :: next :: rest => dropReturn l :: shown (next :: rest)

/-- Whether a character ends a line. -/
def isLineEnd (c : Char) : Bool := c == '\n' || c == '\r'

/-- A text without the line breaks and carriage returns at its end. -/
def trimLineEnd (s : String) : String :=
  String.ofList (s.toList.reverse.dropWhile isLineEnd).reverse

/-- Whether a text ends with a line break or a carriage return. -/
def endsLine (s : String) : Bool := s.toList.getLast?.any isLineEnd

/-- A line break at the end is trimmed like the rest. -/
theorem trimLineEnd_append_break (s : String) : trimLineEnd (s ++ "\n") = trimLineEnd s := by
  have hbreak : "\n".toList = ['\n'] := rfl
  rw [trimLineEnd, String.toList_append, hbreak, List.reverse_append]
  rfl

/-- Trimming leaves a text as it is exactly if there is nothing to trim. -/
theorem trimLineEnd_eq_self_iff {s : String} : trimLineEnd s = s ↔ endsLine s = false := by
  have hlast : s.toList.reverse.head? = s.toList.getLast? := List.head?_reverse
  rw [endsLine, ← hlast, trimLineEnd]
  cases hr : s.toList.reverse with
  | nil =>
    have hs : s = "" := by simpa using hr
    simp [hs]
  | cons c rest =>
    have hs : s = String.ofList (c :: rest).reverse := by
      rw [← hr, List.reverse_reverse, String.ofList_toList]
    cases hc : isLineEnd c with
    | false => simp [hc, hs]
    | true =>
      -- what is left of the rest is shorter than the text
      have hlength : (rest.dropWhile isLineEnd).length ≤ rest.length :=
        (List.dropWhile_sublist _).length_le
      constructor
      · intro h
        rw [hs, String.ofList_inj, List.reverse_inj, List.dropWhile_cons_of_pos hc] at h
        have := congrArg List.length h
        simp only [List.length_cons] at this
        omega
      · intro h
        simp [hc] at h

/-! ## Lines that are shown -/

/-- A line is as it was exactly if it has no carriage return at its end. -/
theorem dropReturn_eq_self_iff {l : String} :
    dropReturn l = l ↔ l.toList.getLast? ≠ some '\r' := by
  rw [dropReturn]
  split
  · rename_i hlast
    obtain ⟨cs, hl⟩ := List.getLast?_eq_some_iff.mp hlast
    refine iff_of_false (fun h => ?_) (fun h => h hlast)
    have hchars : cs = cs ++ ['\r'] := by
      rw [← String.toList_inj, String.toList_ofList, hl, List.dropLast_concat] at h
      exact h
    have hlength := congrArg List.length hchars
    rw [List.length_append, List.length_singleton] at hlength
    omega
  · rename_i hlast
    exact iff_of_true rfl hlast

theorem length_shown_le (ls : List String) : (shown ls).length ≤ ls.length := by
  fun_induction shown ls with
  | case1 => exact Nat.le_refl _
  | case2 => exact Nat.zero_le _
  | case3 => exact Nat.le_refl _
  | case4 l next rest ih =>
    rw [List.length_cons, List.length_cons]
    exact Nat.succ_le_succ ih

/-- Nothing is shown for no line, and for a single one that is empty. -/
theorem shown_eq_nil_iff {ls : List String} : shown ls = [] ↔ ls = [] ∨ ls = [""] := by
  fun_cases shown ls with
  | case1 => simp
  | case2 => simp
  | case3 last h => simp [h]
  | case4 l next rest => simp

/-- All lines are shown as they are exactly if the last is not empty and no other one has a
    carriage return at its end. -/
theorem shown_eq_self_iff {ls : List String} : shown ls = ls ↔
    ls.getLast? ≠ some "" ∧ ∀ l ∈ ls.dropLast, l.toList.getLast? ≠ some '\r' := by
  fun_induction shown ls with
  | case1 => simp
  | case2 => simp
  | case3 last h => simp [h]
  | case4 l next rest ih =>
    rw [List.cons.injEq, ih, dropReturn_eq_self_iff, List.getLast?_cons_cons,
      List.dropLast_cons_cons, List.forall_mem_cons]
    exact and_left_comm

/-- Two texts with the same lines are the same. -/
theorem lines_injective {s t : String} (h : lines s = lines t) : s = t := by
  have hp : split '\n' s.toList = split '\n' t.toList :=
    (List.map_inj_right fun _ _ => String.ofList_inj.mp).mp h
  exact String.toList_inj.mp (split_injective hp)

end Text
end LuauLayout
