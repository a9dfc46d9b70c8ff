/-
  LuauLayout.Proofs.Json.Scanning

  Scanning a text piece by piece.

  A word or a numeral ends only at the character behind it, so the scan of a text
  is not simply the scan of its pieces one after the other. `Scan.found?` counts
  an open word or numeral as if it ended here, and `Emits cs ts` says that the
  characters `cs` give the tokens `ts`, the last of which may still be open. Such
  pieces may follow each other where the next begins with a character that ends
  words and numerals (`Emits.append`).

    * `Emits.tokens?`    — a piece that is the whole text.
    * `Closes`           — the same of characters behind which nothing is open.
    * `Emits.text`       — a JSON string, whatever its characters.
    * `Emits.numeral`    — a numeral.
    * `Json.numerals`    — the numerals of a text; every number among its tokens
      is what one of them stands for (`exists_numeral_of_mem`).
-/

import LuauLayout.Proofs.Json.Shape

namespace LuauLayout

/-! ## Steps that succeed -/

section

variable {α σ : Type} {f : σ → α → Option σ} {s s' : σ}

theorem List.foldlM_cons_of_some {x : α} (h : f s x = some s') (xs : List α) :
    (x :: xs).foldlM f s = xs.foldlM f s' := by
  rw [List.foldlM_cons, h]
  rfl

theorem List.foldlM_append_of_some {xs : List α} (h : xs.foldlM f s = some s') (ys : List α) :
    (xs ++ ys).foldlM f s = ys.foldlM f s' := by
  rw [List.foldlM_append, h]
  rfl

end

namespace Json

/-! ## Pieces of a text -/

namespace Scan

/-- The tokens found so far, newest first, with a word or a numeral that is open. -/
def found? (s : Scan) : Option (List Token) :=
  match s.mode with
  | .between => some s.tokens
  | .word chars => (wordToken? chars.reverse).map (· :: s.tokens)
  | .numeral chars => (numeralToken? chars.reverse).map (· :: s.tokens)
  | _ => none

theorem finish_eq_found? (s : Scan) : s.finish = s.found?.map List.reverse := by
  obtain ⟨mode, found⟩ := s
  cases mode <;> simp [finish, found?, Function.comp_def]

/-- A character that is in no word and in no numeral. -/
def IsBoundary (c : Char) : Prop := c.isLower = false ∧ isNumeralChar c = false

instance (c : Char) : Decidable (IsBoundary c) := inferInstanceAs (Decidable (_ ∧ _))

/-- At a boundary what is open ends, and the character is read as where a token may begin. -/
theorem step_boundary {s : Scan} {found : List Token} {c : Char} (hs : s.found? = some found)
    (hc : IsBoundary c) : s.step c = begin? found c := by
  obtain ⟨mode, tokens⟩ := s
  cases mode with
  | between =>
    cases hs
    rfl
  | word chars =>
    obtain ⟨t, ht, rfl⟩ := Option.map_eq_some_iff.mp hs
    simp [step, hc.1, ht]
  | numeral chars =>
    obtain ⟨t, ht, rfl⟩ := Option.map_eq_some_iff.mp hs
    simp [step, hc.2, ht]
  | text => cases hs
  | escape => cases hs
  | hex => cases hs
  | pairSlash => cases hs
  | pairLetter => cases hs

end Scan

open Scan

/-- From where a token may begin, the characters give these tokens; the last may still be
    open. -/
def Emits (cs : List Char) (ts : List Token) : Prop :=
  ∀ before, ∃ s, cs.foldlM Scan.step ⟨.between, before⟩ = some s ∧
    s.found? = some (ts.reverse ++ before)

namespace Emits

variable {cs ds : List Char} {ts us : List Token} {c : Char} {t : Token}

theorem nil : Emits [] [] := fun before => ⟨⟨.between, before⟩, rfl, rfl⟩

/-- Two pieces, the second beginning at a boundary. -/
theorem append (h : Emits cs ts) (hc : IsBoundary c) (hd : Emits (c :: ds) us) :
    Emits (cs ++ c :: ds) (ts ++ us) := by
  intro before
  obtain ⟨s, hs, hfound⟩ := h before
  obtain ⟨s', hs', hfound'⟩ := hd (ts.reverse ++ before)
  refine ⟨s', ?_, by simp [hfound']⟩
  have hstep : s.step c = Scan.step ⟨.between, ts.reverse ++ before⟩ c := step_boundary hfound hc
  rw [List.foldlM_append_of_some hs, List.foldlM_cons, hstep, ← List.foldlM_cons, hs']

/-- A character that is a token by itself. -/
theorem cons (hc : ∀ before, begin? before c = some ⟨.between, t :: before⟩) (h : Emits cs ts) :
    Emits (c :: cs) (t :: ts) := by
  intro before
  obtain ⟨s, hs, hfound⟩ := h (t :: before)
  refine ⟨s, ?_, by simp [hfound]⟩
  have hstep : Scan.step ⟨.between, before⟩ c = some ⟨.between, t :: before⟩ := hc before
  rw [List.foldlM_cons_of_some hstep, hs]

/-- A character that is a token by itself, at the end. -/
theorem single (hc : ∀ before, begin? before c = some ⟨.between, t :: before⟩) : Emits [c] [t] :=
  nil.cons hc

/-- A word of letters. -/
theorem word (ht : wordToken? cs = some t) : Emits cs [t] := by
  have hcs : (cs = ['n', 'u', 'l', 'l'] ∧ t = .null) ∨ (cs = ['t', 'r', 'u', 'e'] ∧ t = .bool true) ∨
      (cs = ['f', 'a', 'l', 's', 'e'] ∧ t = .bool false) := by
    simp only [wordToken?] at ht
    split at ht
    · exact .inl ⟨‹_›, (Option.some.inj ht).symm⟩
    split at ht
    · exact .inr (.inl ⟨‹_›, (Option.some.inj ht).symm⟩)
    split at ht
    · exact .inr (.inr ⟨‹_›, (Option.some.inj ht).symm⟩)
    · cases ht
  intro before
  obtain ⟨rfl, rfl⟩ | ⟨rfl, rfl⟩ | ⟨rfl, rfl⟩ := hcs <;> exact ⟨_, rfl, rfl⟩

/-- All of a text. -/
theorem tokens? (h : Emits cs ts) : Json.tokens? cs = some ts := by
  obtain ⟨s, hs, hfound⟩ := h []
  have hs' : cs.foldlM Scan.step Scan.start = some s := hs
  rw [Json.tokens?, hs', Option.bind_some, finish_eq_found?, hfound]
  simp

end Emits

/-- From where a token may begin, the characters give these tokens, and another may begin behind
    them. -/
def Closes (cs : List Char) (ts : List Token) : Prop :=
  ∀ before, cs.foldlM Scan.step ⟨.between, before⟩ = some ⟨.between, ts.reverse ++ before⟩

theorem Closes.append {cs ds : List Char} {ts us : List Token} (h : Closes cs ts)
    (hd : Closes ds us) : Closes (cs ++ ds) (ts ++ us) := by
  intro before
  rw [List.foldlM_append_of_some (h before), hd, List.reverse_append, List.append_assoc]

theorem Closes.emits_append {cs ds : List Char} {ts us : List Token} (h : Closes cs ts)
    (hd : Emits ds us) : Emits (cs ++ ds) (ts ++ us) := by
  intro before
  obtain ⟨s, hs, hfound⟩ := hd (ts.reverse ++ before)
  refine ⟨s, ?_, by simp [hfound]⟩
  rw [List.foldlM_append_of_some (h before), hs]

/-! ## Strings -/

theorem hexValue?_hexDigit {n : Nat} (h : n < 16) : hexValue? (hexDigit n) = some n := by
  have hall : ∀ m : Fin 16, hexValue? (hexDigit m) = some m.val := by decide
  exact hall ⟨n, h⟩

/-- Inside a string, what is written for a character is read as that character. -/
theorem foldlM_escapeChar (c : Char) (chars : List Char) (before : List Token) :
    (escapeChar c).foldlM Scan.step ⟨.text chars, before⟩ = some ⟨.text (c :: chars), before⟩ := by
  unfold escapeChar
  split
  · subst c; rfl
  split
  · subst c; rfl
  split
  · subst c; rfl
  split
  · subst c; rfl
  split
  · subst c; rfl
  split
  · subst c; rfl
  split
  · subst c; rfl
  split
  · -- a control character as the four digits of its code
    rename_i hc
    have hhigh : hexValue? (hexDigit (c.toNat / 16)) = some (c.toNat / 16) :=
      hexValue?_hexDigit (by omega)
    have hlow : hexValue? (hexDigit (c.toNat % 16)) = some (c.toNat % 16) :=
      hexValue?_hexDigit (by omega)
    have hzero : hexValue? '0' = some 0 := by decide
    have hcode : c.toNat / 16 * 16 + c.toNat % 16 = c.toNat := by omega
    have hunit : unit? chars c.toNat none = some (.text (c :: chars)) := by
      have hsurrogate : ¬ (0xdc00 ≤ c.toNat) ∧ ¬ (0xd800 ≤ c.toNat) := by omega
      simp [unit?, hsurrogate.1, hsurrogate.2, Char.ofNat_toNat]
    simp [Scan.step, hzero, hhigh, hlow, hcode, hunit]
  · rename_i hquote hslash _ _ _ _ _ hcontrol
    simp [Scan.step, hquote, hslash, hcontrol]

theorem foldlM_escapeChars (cs chars : List Char) (before : List Token) :
    (cs.flatMap escapeChar).foldlM Scan.step ⟨.text chars, before⟩ =
      some ⟨.text (cs.reverse ++ chars), before⟩ := by
  induction cs generalizing chars with
  | nil => rfl
  | cons c cs ih =>
    rw [List.flatMap_cons, List.foldlM_append_of_some (foldlM_escapeChar c chars before), ih]
    simp

/-- A JSON string is read as the text it was written for. -/
theorem Closes.text (s : String) : Closes (textChars s) [.text s] := by
  intro before
  have hopen : Scan.step ⟨.between, before⟩ '"' = some ⟨.text [], before⟩ := rfl
  rw [textChars, List.foldlM_cons_of_some hopen,
    List.foldlM_append_of_some (foldlM_escapeChars s.toList [] before)]
  simp [Scan.step]

theorem Emits.text (s : String) : Emits (textChars s) [.text s] :=
  fun before => ⟨_, Closes.text s before, rfl⟩

/-! ## Numerals -/

/-- Inside a numeral, characters of numerals are gathered. -/
theorem foldlM_numeral {cs : List Char} (h : ∀ c ∈ cs, isNumeralChar c = true) (chars : List Char)
    (before : List Token) :
    cs.foldlM Scan.step ⟨.numeral chars, before⟩ = some ⟨.numeral (cs.reverse ++ chars), before⟩ := by
  induction cs generalizing chars with
  | nil => rfl
  | cons c cs ih =>
    have hc : isNumeralChar c = true := h c List.mem_cons_self
    have hstep : Scan.step ⟨.numeral chars, before⟩ c = some ⟨.numeral (c :: chars), before⟩ := by
      simp [Scan.step, hc]
    rw [List.foldlM_cons_of_some hstep, ih (fun d hd => h d (List.mem_cons_of_mem _ hd))]
    simp

/-- A minus sign or a digit begins a numeral. -/
theorem begin?_numeral {c : Char} (h : c = '-' ∨ c.isDigit = true) (before : List Token) :
    begin? before c = some ⟨.numeral [c], before⟩ := by
  obtain rfl | h := h
  · rfl
  · have hne : ∀ d : Char, d.isDigit = false → c ≠ d := by
      rintro d hd rfl
      rw [h] at hd
      cases hd
    simp [begin?, isSpace, h, hne ' ' (by decide), hne '\t' (by decide), hne '\n' (by decide),
      hne '\r' (by decide), hne '\x7b' (by decide), hne '\x7d' (by decide), hne '[' (by decide),
      hne ']' (by decide), hne ',' (by decide), hne ':' (by decide), hne '"' (by decide)]

/-- A numeral is gathered from where a token may begin. -/
theorem foldlM_between_numeral {c : Char} {cs : List Char} (hc : c = '-' ∨ c.isDigit = true)
    (hcs : ∀ d ∈ cs, isNumeralChar d = true) (before : List Token) :
    (c :: cs).foldlM Scan.step ⟨.between, before⟩ = some ⟨.numeral (c :: cs).reverse, before⟩ := by
  have hstep : Scan.step ⟨.between, before⟩ c = some ⟨.numeral [c], before⟩ :=
    begin?_numeral hc before
  rw [List.foldlM_cons_of_some hstep, foldlM_numeral hcs, List.reverse_cons]

/-- A numeral that stands for a number. -/
theorem Emits.numeral {c : Char} {cs : List Char} {n : JsonNumber}
    (hc : c = '-' ∨ c.isDigit = true) (hcs : ∀ d ∈ cs, isNumeralChar d = true)
    (hn : numeralToken? (c :: cs) = some (.number n)) : Emits (c :: cs) [.number n] :=
  fun before => ⟨_, foldlM_between_numeral hc hcs before, by simp [found?, hn]⟩

/-- In a text with a numeral that stands for no number there are no tokens. -/
theorem tokens?_of_numeral_none {before rest : List Char} {ts : List Token} {c b : Char}
    {cs : List Char} (hbefore : Closes before ts) (hc : c = '-' ∨ c.isDigit = true)
    (hcs : ∀ d ∈ cs, isNumeralChar d = true) (hb : IsBoundary b)
    (hnone : numeralToken? (c :: cs) = none) :
    Json.tokens? (before ++ ((c :: cs) ++ b :: rest)) = none := by
  have hstart : before.foldlM Scan.step Scan.start = some ⟨.between, ts.reverse ++ []⟩ := hbefore []
  have hend : Scan.step ⟨.numeral (c :: cs).reverse, ts.reverse ++ []⟩ b = none := by
    rw [Scan.step]
    simp only [hb.2, List.reverse_reverse, hnone, Bool.false_eq_true, if_false, Option.bind_none]
  rw [Json.tokens?, List.foldlM_append_of_some hstart,
    List.foldlM_append_of_some (foldlM_between_numeral hc hcs _), List.foldlM_cons, hend]
  rfl

/-! ## The numerals of a text -/

namespace Scan

/-- The numeral that ends here, if the scanner is in one and no more of it follows. -/
def ended (s : Scan) (next : Option Char) : List (List Char) :=
  match s.mode with
  | .numeral chars => if next.any isNumeralChar then [] else [chars.reverse]
  | _ => []

/-- The numerals of a text that is scanned from here on. -/
def numerals (s : Scan) : List Char → List (List Char)
  | [] => s.ended none
  | c :: cs =>
    match s.step c with
    | none => []
    | some s' => s.ended (some c) ++ s'.numerals cs

end Scan

/-- The numerals of a JSON text, as they are written. -/
def numerals (text : String) : List (List Char) := Scan.start.numerals text.toList

namespace Scan

/-- Where a token may begin, no numeral ends. -/
theorem number_mem_of_begin? {found : List Token} {c : Char} {s : Scan} {n : JsonNumber}
    (h : begin? found c = some s) (hn : .number n ∈ s.tokens) : .number n ∈ found := by
  unfold begin? at h
  iterate 10
    split at h
    · cases h
      simpa using hn
  cases h

theorem wordToken?_ne_number (cs : List Char) (n : JsonNumber) :
    wordToken? cs ≠ some (.number n) := by
  simp only [wordToken?]
  iterate 3
    split
    · simp
  simp

/-- A number among the tokens found so far is that of the open numeral if it was not there before.
    The numeral ends here unless the next character belongs to it. -/
theorem exists_ended_of_found? {s : Scan} {found : List Token} {next : Option Char}
    {n : JsonNumber} (h : s.found? = some found) (hn : .number n ∈ found)
    (hnext : ∀ chars, s.mode = .numeral chars → next.any isNumeralChar = false) :
    .number n ∈ s.tokens ∨ ∃ cs ∈ s.ended next, numeralToken? cs = some (.number n) := by
  obtain ⟨mode, tokens⟩ := s
  cases mode with
  | between =>
    cases h
    exact .inl hn
  | word chars =>
    obtain ⟨t, ht, rfl⟩ := Option.map_eq_some_iff.mp h
    refine .inl ((List.mem_cons.mp hn).resolve_left ?_)
    rintro rfl
    exact wordToken?_ne_number _ _ ht
  | numeral chars =>
    obtain ⟨t, ht, rfl⟩ := Option.map_eq_some_iff.mp h
    obtain rfl | hn := List.mem_cons.mp hn
    · exact .inr ⟨chars.reverse, by simp [ended, hnext chars rfl], ht⟩
    · exact .inl hn
  | text => cases h
  | escape => cases h
  | hex => cases h
  | pairSlash => cases h
  | pairLetter => cases h

/-- What one character does to the tokens: it goes on with what is open, it ends a string, or it
    ends what is open and is read as where a token may begin. -/
theorem step_cases {s s' : Scan} {c : Char} (h : s.step c = some s') :
    s'.tokens = s.tokens ∨ (∃ text, s'.tokens = .text text :: s.tokens) ∨
    ∃ found, s.found? = some found ∧ begin? found c = some s' ∧
      ∀ chars, s.mode = .numeral chars → isNumeralChar c = false := by
  obtain ⟨mode, tokens⟩ := s
  cases mode with
  | between => exact .inr (.inr ⟨tokens, rfl, h, fun _ => Mode.noConfusion⟩)
  | word chars =>
    simp only [step] at h
    split at h
    · cases h
      exact .inl rfl
    · obtain ⟨t, ht, hbegin⟩ := Option.bind_eq_some_iff.mp h
      exact .inr (.inr ⟨t :: tokens, by simp [found?, ht], hbegin, fun _ => Mode.noConfusion⟩)
  | numeral chars =>
    simp only [step] at h
    split at h
    · cases h
      exact .inl rfl
    · rename_i hc
      obtain ⟨t, ht, hbegin⟩ := Option.bind_eq_some_iff.mp h
      exact .inr (.inr ⟨t :: tokens, by simp [found?, ht], hbegin,
        fun _ _ => Bool.eq_false_iff.mpr hc⟩)
  -- inside a string, only its end gives a token
  | text chars =>
    simp only [step] at h
    split at h
    · cases h
      exact .inr (.inl ⟨_, rfl⟩)
    split at h
    · cases h
      exact .inl rfl
    split at h <;> cases h
    exact .inl rfl
  | escape chars =>
    simp only [step] at h
    split at h
    · cases h
      exact .inl rfl
    · obtain ⟨d, -, rfl⟩ := Option.map_eq_some_iff.mp h
      exact .inl rfl
  | hex chars missing value high =>
    obtain ⟨d, -, h⟩ := Option.bind_eq_some_iff.mp h
    split at h
    · obtain ⟨m, -, rfl⟩ := Option.map_eq_some_iff.mp h
      exact .inl rfl
    · cases h
      exact .inl rfl
  | pairSlash chars high =>
    simp only [step] at h
    split at h <;> cases h
    exact .inl rfl
  | pairLetter chars high =>
    simp only [step] at h
    split at h <;> cases h
    exact .inl rfl

/-- A number that is new among the tokens after one character is that of the numeral which this
    character ends. -/
theorem exists_ended_of_step {s s' : Scan} {c : Char} {n : JsonNumber} (h : s.step c = some s')
    (hn : .number n ∈ s'.tokens) :
    .number n ∈ s.tokens ∨ ∃ cs ∈ s.ended (some c), numeralToken? cs = some (.number n) := by
  obtain hsame | ⟨text, htext⟩ | ⟨found, hfound, hbegin, hnext⟩ := step_cases h
  · exact .inl (hsame ▸ hn)
  · rw [htext] at hn
    exact .inl ((List.mem_cons.mp hn).resolve_left Token.noConfusion)
  · exact exists_ended_of_found? hfound (number_mem_of_begin? hbegin hn) hnext

/-- A number among the tokens at the end of the text was there before or is that of a numeral. -/
theorem exists_numeral_of_finish {s s' : Scan} {cs : List Char} {ts : List Token} {n : JsonNumber}
    (hrun : cs.foldlM step s = some s') (hfinish : s'.finish = some ts) (hn : .number n ∈ ts) :
    .number n ∈ s.tokens ∨ ∃ ds ∈ s.numerals cs, numeralToken? ds = some (.number n) := by
  induction cs generalizing s with
  | nil =>
    obtain rfl : s = s' := Option.some.inj hrun
    rw [finish_eq_found?] at hfinish
    obtain ⟨found, hfound, rfl⟩ := Option.map_eq_some_iff.mp hfinish
    exact exists_ended_of_found? hfound (List.mem_reverse.mp hn) fun _ _ => rfl
  | cons c cs ih =>
    rw [List.foldlM_cons] at hrun
    obtain ⟨s₁, hs₁, hrun⟩ := Option.bind_eq_some_iff.mp hrun
    -- a numeral ends at the character behind it, so it is counted with the step over that one
    have hnumerals : s.numerals (c :: cs) = s.ended (some c) ++ s₁.numerals cs := by
      rw [numerals, hs₁]
    rw [hnumerals]
    obtain hn | ⟨ds, hds, hnumeral⟩ := ih hrun
    · obtain hn | ⟨ds, hds, hnumeral⟩ := exists_ended_of_step hs₁ hn
      · exact .inl hn
      · exact .inr ⟨ds, List.mem_append_left _ hds, hnumeral⟩
    · exact .inr ⟨ds, List.mem_append_right _ hds, hnumeral⟩

end Scan

/-- Every number among the tokens of a text is what one of its numerals stands for. -/
theorem exists_numeral_of_mem {text : String} {ts : List Token} {n : JsonNumber}
    (h : tokens? text.toList = some ts) (hn : .number n ∈ ts) :
    ∃ cs ∈ numerals text, numeralToken? cs = some (.number n) := by
  obtain ⟨s, hrun, hfinish⟩ := Option.bind_eq_some_iff.mp h
  exact (exists_numeral_of_finish hrun hfinish hn).resolve_left List.not_mem_nil

end Json
end LuauLayout
