/-
  LuauLayout.Proofs.Node.Layout

  What it means that some lines are a layout of a tree.

  Every statement stands on rows of its own, below those of the statement before
  it, with any number of empty rows between them. On a row the tokens follow one
  another. Where the tree has a place for a token, any number of blanks may stand
  before it, and the place has to be that of the token; the tokens for which the
  tree has no place stand right behind what is before them. Whether the grammar
  of the language allows a node where it stands plays no part.

    * `Atom.IsPlain`   — a token without a line break.
    * `Node.Spelled`, `Node.Separated` — an expression, and expressions with
      commas between them, continue a line.
    * `Node.Valued`    — the right side of an assignment continues a line.
    * `Node.LineOf`    — a statement other than a block is a line.
    * `Node.Laid`      — statements continue a text.
-/

import LuauLayout.Node.Basic
import LuauLayout.Number.Numeral
import LuauLayout.Proofs.Buffer.Lines
import LuauLayout.Proofs.Node.Traversal
import LuauLayout.Render.Operator

namespace LuauLayout

/-! ## Tokens -/

namespace Numeral

/-- Digits with a point stand on one line if the digits do. -/
theorem setPoint_unbroken (wholeFraction : Bool) {ds : List Char} (hds : '\n' ∉ ds) (e : Int) :
    '\n' ∉ setPoint wholeFraction ds e := by
  unfold setPoint
  by_cases he : e < 0
  · rw [if_pos he]
    simp [hds]
  · rw [if_neg he]
    by_cases hwhole : ds.length ≤ e.toNat + 1
    · rw [if_pos hwhole]
      cases wholeFraction <;> simp [hds]
    · have htake : '\n' ∉ ds.take (e.toNat + 1) := fun h => hds (List.mem_of_mem_take h)
      have hdrop : '\n' ∉ ds.drop (e.toNat + 1) := fun h => hds (List.mem_of_mem_drop h)
      rw [if_neg hwhole]
      simp [htake, hdrop]

theorem setPoint_ne_nil (wholeFraction : Bool) {ds : List Char} (hds : ds ≠ []) (e : Int) :
    setPoint wholeFraction ds e ≠ [] := by
  unfold setPoint
  by_cases he : e < 0
  · rw [if_pos he]
    exact List.cons_ne_nil _ _
  · rw [if_neg he]
    by_cases hwhole : ds.length ≤ e.toNat + 1
    · rw [if_pos hwhole, List.append_assoc]
      exact List.append_ne_nil_of_left_ne_nil hds _
    · rw [if_neg hwhole]
      exact List.append_ne_nil_of_right_ne_nil _ (List.cons_ne_nil _ _)

/-- Numbers of the source text have no exponent. -/
theorem oneLine_finite_source (x : Double) : OneLine (String.ofList (finite .source x)) := by
  have hdigits : '\n' ∉ (Decimal.shortest .up x.rank).digits := by
    intro h
    exact absurd (Nat.isDigit_of_mem_toDigits (by decide) (by decide) h) (by decide)
  have hne : (Decimal.shortest .up x.rank).digits ≠ [] := Nat.toDigits_ne_nil
  have hmagnitude : magnitude .source x.rank = setPoint false
      (Decimal.shortest .up x.rank).digits
      (if x.rank = 0 then 0
        else (Decimal.shortest .up x.rank).exponent
          + (Decimal.shortest .up x.rank).digits.length - 1) := rfl
  rw [finite, hmagnitude]
  constructor
  · intro h
    rw [String.ofList_eq_empty_iff] at h
    exact setPoint_ne_nil _ hne _ (List.append_eq_nil_iff.mp h).2
  · rw [String.toList_ofList, List.mem_append]
    rintro (hsign | h)
    · cases hneg : x.isNegative <;> simp [hneg] at hsign
    · exact setPoint_unbroken _ hdigits _ h

end Numeral

theorem Double.oneLine_sourceText (x : Double) : OneLine x.sourceText := by
  unfold sourceText
  split
  · decide
  · split
    · split <;> decide
    · exact Numeral.oneLine_finite_source x

namespace Operator

/-- The symbol of an operator stands on one line if its name does. -/
theorem oneLine_binarySymbol {name : String} (h : OneLine name) : OneLine (binarySymbol name) := by
  unfold binarySymbol
  split <;> first | decide | exact h

theorem oneLine_unarySymbol {name : String} (h : OneLine name) : OneLine (unarySymbol name) := by
  unfold unarySymbol
  split <;> first | decide | exact h

/-- A binary operator with a space on either side. -/
theorem oneLine_spaced {name : String} (h : OneLine name) :
    OneLine (" " ++ binarySymbol name ++ " ") := by
  have hsymbol := (oneLine_binarySymbol h).unbroken
  constructor
  · simp
  · simp [hsymbol]

end Operator

/-- The names in a token are not empty, and nothing in it breaks a line. -/
def Atom.IsPlain : Atom → Prop
  | .text s => '\n' ∉ s.toList
  | .global name => OneLine name
  | .binding name _ => OneLine name
  | .localRef b => OneLine b.name
  | _ => True

instance (a : Atom) : Decidable a.IsPlain :=
  match a with
  | .breakStat | .continueStat | .varargs | .nil | .bool _ | .number _ => .isTrue trivial
  | .text s => inferInstanceAs (Decidable ('\n' ∉ s.toList))
  | .global name => inferInstanceAs (Decidable (OneLine name))
  | .binding name _ => inferInstanceAs (Decidable (OneLine name))
  | .localRef b => inferInstanceAs (Decidable (OneLine b.name))

theorem Atom.IsPlain.oneLine_source {a : Atom} (h : a.IsPlain) : OneLine a.source := by
  cases a with
  | breakStat => decide
  | continueStat => decide
  | varargs => decide
  | nil => decide
  | bool value => cases value <;> decide
  | number x => exact x.oneLine_sourceText
  | text s =>
    have hs : '\n' ∉ s.toList := h
    constructor
    · simp [source]
    · simp [source, hs]
  | global name => exact h
  | binding name declaredType => exact h
  | localRef b => exact h

/-! ## Rows -/

namespace Node

mutual

/-- On a row, the tokens of an expression continue a line. -/
inductive Spelled (row : Nat) : Node → Line → Line → Prop where
  | atom {l : Location} {a : Atom} {line : Line} {gap : Nat} {stop : Coordinate} :
      a.IsPlain → l.read = .ok ⟨⟨row, line.length + gap⟩, stop⟩ →
      Spelled row (.atom l a) line (line.put gap a.source)
  /-- A member without a place stands right behind its `.` or `:`. -/
  | member {l : Location} {base : Node} {name : String} {op : Option String} {line mid : Line} :
      OneLine (op.getD ".") → OneLine name → Spelled row base line mid →
      Spelled row (.indexName l base name none op) line ((mid.put 0 (op.getD ".")).put 0 name)
  | placedMember {l nl : Location} {base : Node} {name : String} {op : Option String}
      {line mid : Line} {gap : Nat} {stop : Coordinate} :
      OneLine (op.getD ".") → OneLine name → Spelled row base line mid →
      nl.read = .ok ⟨⟨row, (mid.put 0 (op.getD ".")).length + gap⟩, stop⟩ →
      Spelled row (.indexName l base name (some nl) op) line
        ((mid.put 0 (op.getD ".")).put gap name)
  /-- A group ends behind its parenthesis. -/
  | group {l : Location} {e : Node} {line mid : Line} {gap gap' : Nat} :
      l.read = .ok ⟨⟨row, line.length + gap⟩, ⟨row, mid.length + gap' + 1⟩⟩ →
      Spelled row e (line.put gap "(") mid →
      Spelled row (.group l e) line (mid.put gap' ")")
  | call {l : Location} {callee : Node} {args : List Node} {line before mid : Line} {gap : Nat}
      {start : Coordinate} :
      l.read = .ok ⟨start, ⟨row, mid.length + gap + 1⟩⟩ →
      Spelled row callee line before → Separated row false args (before.put 0 "(") mid →
      Spelled row (.call l callee args) line (mid.put gap ")")
  | unary {l : Location} {op : String} {e : Node} {line after : Line} {gap : Nat}
      {stop : Coordinate} :
      OneLine op → l.read = .ok ⟨⟨row, line.length + gap⟩, stop⟩ →
      Spelled row e (line.put gap (Operator.unarySymbol op)) after →
      Spelled row (.unary l op e) line after
  | binary {l : Location} {op : String} {left right : Node} {line mid after : Line} :
      OneLine op → Spelled row left line mid →
      Spelled row right (mid.put 0 (" " ++ Operator.binarySymbol op ++ " ")) after →
      Spelled row (.binary l op left right) line after

/-- On a row, expressions with commas between them continue a line; `started` when there is one
    before them. -/
inductive Separated (row : Nat) : Bool → List Node → Line → Line → Prop where
  | nil {started : Bool} {line : Line} : Separated row started [] line line
  | cons {started : Bool} {n : Node} {rest : List Node} {line mid after : Line} :
      Spelled row n (if started then line.put 0 "," else line) mid →
      Separated row true rest mid after → Separated row started (n :: rest) line after

end

/-- On a row, the values of an assignment continue the line of its targets. -/
inductive Valued (row : Nat) : Option (List Node) → Line → Line → Prop where
  | none {line : Line} : Valued row none line line
  | empty {line : Line} : Valued row (some []) line line
  | some {value : Node} {rest : List Node} {line after : Line} :
      Separated row false (value :: rest) (line.put 0 " = ") after →
      Valued row (some (value :: rest)) line after

/-- A statement other than a block is the line of a row. -/
inductive LineOf (row : Nat) : Node → Line → Prop where
  | token {l : Location} {a : Atom} {gap : Nat} {stop : Coordinate} :
      a.IsPlain → l.read = .ok ⟨⟨row, gap⟩, stop⟩ → LineOf row (.atom l a) (Line.put [] gap a.source)
  | localDecl {l : Location} {targets : List Node} {values : Option (List Node)} {gap : Nat}
      {stop : Coordinate} {mid line : Line} :
      l.read = .ok ⟨⟨row, gap⟩, stop⟩ →
      Separated row false targets (Line.put [] gap "local") mid → Valued row values mid line →
      LineOf row (.localDecl l targets values) line
  | assign {l : Location} {target : Node} {rest : List Node} {values : Option (List Node)}
      {mid line : Line} :
      Separated row false (target :: rest) [] mid → Valued row values mid line →
      LineOf row (.assign l (target :: rest) values) line
  | ret {l : Location} {values : List Node} {gap : Nat} {stop : Coordinate} {line : Line} :
      l.read = .ok ⟨⟨row, gap⟩, stop⟩ →
      Separated row false values (Line.put [] gap "return") line →
      LineOf row (.ret l values) line
  | exprStat {l : Location} {e : Node} {line : Line} :
      Spelled row e [] line → LineOf row (.exprStat l e) line

end Node

/-- Lines with one more below them, some empty ones in between. -/
def Line.under (above : List Line) (skip : Nat) (line : Line) : List Line :=
  above ++ List.replicate skip [] ++ [line]

/-- The statements of a list continue a text. A block has a row for its `do` and one for its
    `end`, and it ends where its `end` begins. -/
inductive Node.Laid : List Node → List Line → List Line → Prop where
  | nil {ls : List Line} : Laid [] ls ls
  | line {n : Node} {rest : List Node} {above ls : List Line} {skip : Nat} {line : Line} :
      LineOf (above.length + skip) n line → Laid rest (Line.under above skip line) ls →
      Laid (n :: rest) above ls
  | block {l : Location} {body rest : List Node} {above inner ls : List Line}
      {skip gap skip' gap' : Nat} :
      l.read = .ok ⟨⟨above.length + skip, gap⟩, ⟨inner.length + skip', gap'⟩⟩ →
      Laid body (Line.under above skip (Line.put [] gap "do")) inner →
      Laid rest (Line.under inner skip' (Line.put [] gap' "end")) ls →
      Laid (.block l true body :: rest) above ls

end LuauLayout
