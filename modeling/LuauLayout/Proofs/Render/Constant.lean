/-
  LuauLayout.Proofs.Render.Constant

  Number constants, from the literal in a dump to the text in its layout.

  A literal may be read as a double that is not the nearest one; the constant is
  then laid out as another number, without a report. How far off it can be is
  known for every literal (`Json.Literal.IsReadAs`), and for many it is exact.

    * `Node.exists_literal_of_number` — every constant of every dump is read from
      a literal of it.
    * `Render.dispatchAt_number` — it is written at its place.
    * `constant_laid_out` — both together, and a dump of one constant, whatever its
      literal and its place: what is laid out, or that the dump is refused.
    * `exists_constant_changed` — a constant that comes out changed.
-/

import LuauLayout.Proofs.Json.Accuracy
import LuauLayout.Proofs.Json.Reading
import LuauLayout.Proofs.Node.Decoding
import LuauLayout.Proofs.Node.Spelling
import LuauLayout.Proofs.Render.RoundTrip

namespace LuauLayout

/-! ## What a literal is read as -/

namespace Json.Literal

variable {cs : List Char} {l : Literal} {x : Double}

/-- The finite double `x` has the sign of the literal and is five ranks at most away from the
    nearest one; it is the nearest one if nothing is rounded twice. -/
structure IsReadAs (l : Literal) (x : Double) : Prop where
  isFinite : x.isFinite = true
  isNegative : x.isNegative = l.negative
  near : ∀ r, Double.IsNearest l.magnitude r → x.rank ≤ r + 5 ∧ r ≤ x.rank + 5
  exact : l.IsExact → Double.IsNearest l.magnitude x.rank

/-- The nearest double is the infinity or at most five ranks below it, and something is rounded
    twice. -/
structure IsRefused (l : Literal) : Prop where
  near : ∀ r, Double.IsNearest l.magnitude r → Double.infinityRank ≤ r + 5
  not_exact : ¬ l.IsExact

theorem isReadAs_of_double? (h : l.HasDigits) (hx : l.double? = some x) : l.IsReadAs x := by
  obtain ⟨hsign, hfinite⟩ := double?_spec h hx
  refine ⟨by simpa [Double.isFinite] using hfinite, hsign, fun r hr => ?_, fun hexact => ?_⟩
  · obtain ⟨r', hr', hnear⟩ := accurate h
    rw [hx] at hnear
    rw [hr.unique hr']
    exact hnear
  · obtain ⟨y, hy, hnearest⟩ := l.exact hexact
    rw [hx] at hy
    cases hy
    exact hnearest

theorem isRefused_of_double? (h : l.HasDigits) (hx : l.double? = none) : l.IsRefused := by
  refine ⟨fun r hr => ?_, fun hexact => ?_⟩
  · obtain ⟨r', hr', hnear, -⟩ := accurate h
    rw [hx] at hnear
    rw [hr.unique hr']
    exact hnear
  · obtain ⟨y, hy, -⟩ := l.exact hexact
    rw [hx] at hy
    cases hy

end Json.Literal

/-! ## Constants in a dump -/

open Json (Literal)

/-- A constant is the member `value` of an object. -/
theorem Node.exists_value_of_number {v : Json} {location : Location} {x : Double}
    (h : Node.ofJson v = .ok (.atom location (.number x))) : ∃ members, v = .object members ∧
      ∃ n, SortedMap.lookup? "value" members = some (.number n) ∧ n.toDouble = x := by
  cases v with
  | object members =>
    refine ⟨members, rfl, ?_⟩
    -- only under the tag of a form does an object become an atom
    obtain huntagged | ⟨form, htag⟩ | ⟨tag, htag, hforeign⟩ := tag_cases members
    · rw [ofJson_of_untagged huntagged] at h
      cases h
    · obtain ⟨hform, hfields⟩ := (ofJson_eq_ok_iff htag).mp h
      cases hform
      have hvalue : FormField.Holds ⟨"value", .number, .required⟩
          (SortedMap.lookup? "value" members) (.number x) := by
        obtain ⟨-, hrest⟩ := List.forall₂_cons.mp hfields
        exact (List.forall₂_cons.mp hrest).1
      cases hlookup : SortedMap.lookup? "value" members with
      | none =>
        rw [hlookup] at hvalue
        cases hvalue with
        | missing hmissing => cases hmissing
      | some w =>
        rw [hlookup] at hvalue
        cases hvalue with
        | present hreads _ =>
          cases hreads with
          | number n => exact ⟨n, rfl, rfl⟩
    · rw [ofJson_of_foreign htag hforeign] at h
      cases h
  | null => cases h
  | bool b => cases h
  | number n => cases h
  | text s => cases h
  | list items => cases h

/-- Every constant of every dump is what a literal of its text is read as. -/
theorem Node.exists_literal_of_number {text : String} {root v : Json} {location : Location}
    {x : Double} (hread : Json.parse? text = some root) (hpart : v.IsPartOf root)
    (hnode : Node.ofJson v = .ok (.atom location (.number x))) :
    ∃ cs ∈ Json.numerals text, ∃ l, Literal.ofChars? cs = some l ∧ l.double? = some x ∧
      l.IsReadAs x := by
  let P (n : JsonNumber) : Prop := ∃ cs ∈ Json.numerals text, ∃ l, Literal.ofChars? cs = some l ∧
    l.double? = some n.toDouble ∧ l.IsReadAs n.toDouble
  have hP : ∀ cs ∈ Json.numerals text, ∀ n, Json.Scan.numeralToken? cs = some (.number n) → P n := by
    intro cs hcs n hn
    obtain ⟨l, hl, hn⟩ := Option.bind_eq_some_iff.mp hn
    obtain ⟨m, hm, hmn⟩ := Option.map_eq_some_iff.mp hn
    cases hmn
    have hdouble : l.double? = some n.toDouble := by rw [Literal.double?, hm, Option.map_some]
    have hreads := Literal.isReadAs_of_double? (Literal.hasDigits_of_ofChars? hl) hdouble
    exact ⟨cs, hcs, l, hl, hdouble, hreads⟩
  -- every number in the value of the text is that of a numeral, so the member `value` is
  have hdelivered : Json.IsDelivered P Json.maxDepth v :=
    (Json.isDelivered_of_parse? hread hP).part hpart
  obtain ⟨members, rfl, n, hvalue, rfl⟩ := exists_value_of_number hnode
  have hmember : (Json.number n).IsPartOf (.object members) :=
    .member (SortedMap.mem_of_lookup? hvalue) .refl
  cases hdelivered.part hmember with
  | number _ hn => exact hn

/-- Wherever a constant stands, its text is written at the start of its location. -/
theorem Render.dispatchAt_number {l : Location} {span : Span} (hspan : l.span = .ok span)
    (x : Double) (p : Position) : dispatchAt .standard p (.atom l (.number x)) = (do
      write x.sourceText span.start
      return .rendered) := by
  have hreg : Registry.standard.get? (Node.tagAt p (.atom l (.number x))) =
      some (.native (Atom.number x).form) := Registry.get?_standard_tagAt p _
  have hstart : l.start = .ok span.start := by
    rw [Location.start, hspan]
    rfl
  rw [dispatchAt_of_some hreg, renderWith_atom, writeAtStart, hstart]
  rfl

/-! ## A dump of one constant -/

/-- The text of a dump whose only statement is a number constant. -/
def constantDump (location : String) (literal : List Char) : String :=
  "\x7b\"body\":[\x7b\"location\":" ++ String.ofList (Json.textChars location) ++
    ",\"type\":\"AstExprConstantNumber\",\"value\":" ++ String.ofList literal ++
    "\x7d],\"location\":\"0,0 - 0,0\",\"type\":\"AstStatBlock\"\x7d"

/-- What is laid out for a constant alone: empty rows, blanks, and the number. -/
def constantText (start : Coordinate) (x : Double) : String :=
  "\n".intercalate (List.replicate start.row "" ++
    [String.ofList (List.replicate start.column ' ') ++ x.sourceText])

theorem toList_around (a b c : String) (cs ds : List Char) :
    (a ++ String.ofList cs ++ b ++ String.ofList ds ++ c).toList =
      (a.toList ++ cs ++ b.toList) ++ (ds ++ c.toList) := by
  simp only [String.toList_append, String.toList_ofList, List.append_assoc]

/-- The document that it is, once its number is read. -/
def constantBlock (location : String) (x : Double) : Block :=
  ⟨⟨"0,0 - 0,0"⟩, false, [.atom ⟨location⟩ (.number x)]⟩

/-- A dump of one constant is the document with the double that its literal is read as. -/
theorem ofText_constantDump (location : String) {literal : List Char} {l : Literal}
    (hl : Literal.ofChars? literal = some l) :
    Block.ofText (constantDump location literal) =
      match l.double? with
      | none => .error .badText
      | some x => .ok (constantBlock location x) := by
  have hopen : Json.Closes "\x7b\"body\":[\x7b\"location\":".toList
      [.openBrace, .text "body", .colon, .openBracket, .openBrace, .text "location", .colon] :=
    fun _ => rfl
  have htype : Json.Closes ",\"type\":\"AstExprConstantNumber\",\"value\":".toList
      [.comma, .text "type", .colon, .text "AstExprConstantNumber", .comma, .text "value", .colon] :=
    fun _ => rfl
  have hclose : Json.Emits "\x7d],\"location\":\"0,0 - 0,0\",\"type\":\"AstStatBlock\"\x7d".toList
      [.closeBrace, .closeBracket, .comma, .text "location", .colon, .text "0,0 - 0,0", .comma,
        .text "type", .colon, .text "AstStatBlock", .closeBrace] :=
    fun _ => ⟨_, rfl, rfl⟩
  -- the text around location and literal is fixed; each piece of it is scanned on its own
  have htokens := Json.tokens?_literal ((hopen.append (.text location)).append htype) hl
    rfl (by decide) hclose
  have htext : (constantDump location literal).toList =
      ("\x7b\"body\":[\x7b\"location\":".toList ++ Json.textChars location ++
        ",\"type\":\"AstExprConstantNumber\",\"value\":".toList) ++ (literal ++
        "\x7d],\"location\":\"0,0 - 0,0\",\"type\":\"AstStatBlock\"\x7d".toList) :=
    toList_around _ _ _ _ _
  rw [Block.ofText, Json.parse?, htext, htokens, Literal.double?]
  cases l.value? with
  | none => rfl
  | some n => rfl

/-- A constant alone is laid out at its place. -/
theorem reconstruct_constantBlock {location : String} {span : Span}
    (hspan : (Location.mk location).span = .ok span) (x : Double) :
    reconstruct .standard (constantBlock location x) =
      ([], .ok ⟨constantText span.start x, .complete⟩) := by
  have hread : (Location.mk location).read = .ok span :=
    Location.read_eq_ok_iff.mpr (Location.span_eq_ok_iff.mp hspan)
  let ls : List Line := Line.under [] span.start.row (Line.put [] span.start.column x.sourceText)
  have hline : Node.LineOf span.start.row (.atom ⟨location⟩ (.number x))
      (Line.put [] span.start.column x.sourceText) :=
    .token (a := .number x) trivial hread
  have hlaid : Node.Laid (constantBlock location x).body [] ls := by
    -- the one statement begins `span.start.row` rows below the top; the rows above it are empty
    refine @Node.Laid.line _ _ _ _ span.start.row _ ?_ .nil
    rw [List.length_nil, Nat.zero_add]
    exact hline
  have hlays := Render.lays_walkNodes hlaid
  have hshows := hlays.shows .empty .empty
  have hlast : ls.getLast? ≠ some [] := hlaid.getLast?_ne (Option.some_ne_none _).symm
  refine reconstruct_eq_ok_iff.mpr ⟨hlays.quiet.symm, ⟨_, hlays.result⟩, ?_⟩
  show _ = (⟨(Buffer.empty.performAll (Render.walkNodes .standard
    (constantBlock location x).body).actions).render, _⟩ :
    Reconstruction)
  have htext : "\n".intercalate (ls.map String.ofList) = constantText span.start x := by
    simp [ls, Line.under, Line.put, constantText, String.ofList_append]
  rw [hshows.render hlast, htext]
  rfl

/-- A number constant, from its literal to its layout. A dump of one constant is refused if its
    literal is out of range, and is laid out otherwise as what the literal is read as. In any other
    dump, too, every constant is what a literal of the dump is read as, and wherever it stands its
    text is written at the start of its location. -/
theorem constant_laid_out {literal : List Char} {l : Literal} {location : String} {span : Span}
    (hl : Literal.ofChars? literal = some l)
    (hspan : (Location.mk location).span = .ok span) :
    (match l.double? with
    | none => Block.ofText (constantDump location literal) = .error .badText ∧ l.IsRefused
    | some x => Block.ofText (constantDump location literal) = .ok (constantBlock location x) ∧
      reconstruct .standard (constantBlock location x) =
        ([], .ok ⟨constantText span.start x, .complete⟩) ∧ l.IsReadAs x) ∧
    ∀ (text : String) (root v : Json) (x : Double), Json.parse? text = some root →
      v.IsPartOf root → Node.ofJson v = .ok (.atom ⟨location⟩ (.number x)) →
      (∃ cs ∈ Json.numerals text, ∃ k, Literal.ofChars? cs = some k ∧ k.double? = some x ∧
        k.IsReadAs x) ∧
      ∀ p, Render.dispatchAt .standard p (.atom ⟨location⟩ (.number x)) = (do
        Render.write x.sourceText span.start
        return .rendered) := by
  constructor
  · have hdigits := Literal.hasDigits_of_ofChars? hl
    have hread := ofText_constantDump location hl
    cases hdouble : l.double? with
    | none =>
      rw [hdouble] at hread
      exact ⟨hread, Literal.isRefused_of_double? hdigits hdouble⟩
    | some x =>
      rw [hdouble] at hread
      exact ⟨hread, reconstruct_constantBlock hspan x, Literal.isReadAs_of_double? hdigits hdouble⟩
  · intro text root v x hparse hpart hnode
    exact ⟨Node.exists_literal_of_number hparse hpart hnode, Render.dispatchAt_number hspan x⟩

/-- A literal for which nothing is rounded twice, below an empty row; and the same literal as the
    value of a `return`. -/
theorem constant_laid_out_quarter :
    let literal := "-25e-2".toList
    let l : Literal := ⟨true, ['2', '5'], none, some (true, ['2'])⟩
    let x : Double := ⟨0xbfd0000000000000⟩
    let constant : Json := .object [("location", .text "1,2 - 1,7"),
      ("type", .text "AstExprConstantNumber"), ("value", .number (.double x))]
    let returned : Json := .object [("list", .list [constant]), ("location", .text "0,0 - 1,7"),
      ("type", .text "AstStatReturn")]
    let text := "\x7b\"list\":[\x7b\"location\":\"1,2 - 1,7\",\"type\":\"AstExprConstantNumber\"," ++
      "\"value\":-25e-2\x7d],\"location\":\"0,0 - 1,7\",\"type\":\"AstStatReturn\"\x7d"
    Literal.ofChars? literal = some l ∧
    (Location.mk "1,2 - 1,7").span = .ok ⟨⟨1, 2⟩, ⟨1, 7⟩⟩ ∧
    Block.ofText (constantDump "1,2 - 1,7" literal) = .ok (constantBlock "1,2 - 1,7" x) ∧
    reconstruct .standard (constantBlock "1,2 - 1,7" x) =
      ([], .ok ⟨"\n  -0.25", .complete⟩) ∧ Double.IsNearest l.magnitude x.rank ∧
    Json.parse? text = some returned ∧
    (∃ cs ∈ Json.numerals text, ∃ k, Literal.ofChars? cs = some k ∧ k.double? = some x ∧
      k.IsReadAs x) ∧
    Render.dispatchAt .standard .operand (.atom ⟨"1,2 - 1,7"⟩ (.number x)) = (do
      Render.write "-0.25" ⟨1, 2⟩
      return .rendered) := by
  intro literal l x constant returned text
  have hl : Literal.ofChars? literal = some l := by decide +kernel
  have hspan : (Location.mk "1,2 - 1,7").span = .ok ⟨⟨1, 2⟩, ⟨1, 7⟩⟩ := rfl
  have hdouble : l.double? = some x := by decide +kernel
  have hexact : l.IsExact := .inr (.inl (by decide))
  have htext : constantText ⟨1, 2⟩ x = "\n  -0.25" := by decide +kernel
  have hsource : x.sourceText = "-0.25" := by decide +kernel
  have htokens : Json.tokens? text.toList = some returned.tokens := by decide +kernel
  have hparse : Json.parse? text = some returned := by
    rw [Json.parse?, htokens]
    rfl
  have hpart : constant.IsPartOf returned :=
    .member List.mem_cons_self (.item List.mem_cons_self .refl)
  have hnode : Node.ofJson constant = .ok (.atom ⟨"1,2 - 1,7"⟩ (.number x)) := rfl
  obtain ⟨hlaid, hgeneral⟩ := constant_laid_out hl hspan
  rw [hdouble] at hlaid
  obtain ⟨hread, hlayout, hvalue⟩ := hlaid
  rw [htext] at hlayout
  obtain ⟨hliteral, hwritten⟩ := hgeneral text returned constant x hparse hpart hnode
  rw [hsource] at hwritten
  exact ⟨hl, hspan, hread, hlayout, hvalue.exact hexact, hparse, hliteral, hwritten .operand⟩

/-- The elementary charge as it is dumped: its nearest double is the one before the double that is
    read, and has a shorter text. -/
theorem exists_constant_changed :
    let literal := "1.6021766339999999e-19".toList
    ∃ (l : Literal) (x y : Double), Literal.ofChars? literal = some l ∧
      Double.IsNearest l.magnitude y.rank ∧ y.isFinite = true ∧ y.isNegative = l.negative ∧
      constantText ⟨0, 0⟩ y = "0.0000000000000000001602176634" ∧
      Block.ofText (constantDump "0,0 - 0,5" literal) = .ok (constantBlock "0,0 - 0,5" x) ∧
      reconstruct .standard (constantBlock "0,0 - 0,5" x) =
        ([], .ok ⟨"0.00000000000000000016021766340000001", .complete⟩) := by
  intro literal
  let l : Literal := ⟨false, ['1'], some "6021766339999999".toList, some (true, ['1', '9'])⟩
  let x : Double := ⟨4325607224011134548⟩
  let y : Double := ⟨4325607224011134547⟩
  have hl : Literal.ofChars? literal = some l := by decide +kernel
  have hspan : (Location.mk "0,0 - 0,5").span = .ok ⟨⟨0, 0⟩, ⟨0, 5⟩⟩ := rfl
  have hdouble : l.double? = some x := by decide +kernel
  have htext : constantText ⟨0, 0⟩ x = "0.00000000000000000016021766340000001" := by decide +kernel
  have hnearest : Double.IsNearest l.magnitude y.rank := by
    have hvalue : Digits.value l.digits = 16021766339999999 := by decide +kernel
    have hscale : l.scale = -35 := by decide +kernel
    have hfraction : Fraction.toRat ⟨16021766339999999, Nat.pow 10 35⟩ = l.magnitude := by
      rw [Literal.magnitude, hvalue, hscale, Fraction.toRat]
      norm_num
    have hrank : Double.nearestRank ⟨16021766339999999, Nat.pow 10 35⟩ = y.rank := by decide +kernel
    rw [← hfraction, ← hrank]
    exact Double.isNearest_nearestRank (by decide)
  have hread := ofText_constantDump "0,0 - 0,5" hl
  have hlayout := reconstruct_constantBlock hspan x
  rw [hdouble] at hread
  rw [htext] at hlayout
  exact ⟨l, x, y, hl, hnearest, by decide, by decide, by decide +kernel, hread, hlayout⟩

end LuauLayout
