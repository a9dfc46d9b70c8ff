/-
  LuauLayout.Text.LineBreak

  Where a line may end.

  Reading a text from its start, the characters so far are summed up in a
  `Context`: the class of the last one that counts, and what stands behind it. A
  mark counts as part of the character before it, and as a letter where there is
  none. The rules are those of the line breaking algorithm of Unicode (as of
  version 15.1), in their order of precedence. Two of them look one character
  further ahead: a mark that closes a quotation is known by what follows it, and
  so is a consonant that closes a syllable.

    * `BreakClass.divides`     — whether a line may end between two neighbours.
    * `BreakClass.spacesDivide`— whether it may end behind spaces.
    * `Context.breaks`         — whether it may end in front of the next character.
    * `endsOf`, `ends`         — for each character of a text, whether it may end
      behind it; `length_ends` and `ends_append_singleton` say that every character has
      its answer, and that the end of the text is no such place.
-/

import LuauLayout.Text.BreakClass

namespace LuauLayout
namespace Text

namespace BreakClass

/-! ## Groups of classes -/

/-- Characters that end a line by themselves. -/
def isHard : BreakClass → Bool
  | .hardBreak | .carriageReturn | .lineFeed | .nextLine => true
  | _ => false

/-- Characters that no line begins with, because they belong to the end of the one before. -/
def isTrailing : BreakClass → Bool
  | .space | .zeroWidthSpace => true
  | k => k.isHard

/-- Characters that stay with what is before them, even across spaces. -/
def clings : BreakClass → Bool
  | .wordJoiner | .closing | .closingBracket | .exclamation | .infixSeparator | .slash => true
  | _ => false

/-- Characters that attach to the one before them. -/
def isMark : BreakClass → Bool
  | .combiningMark | .joiner => true
  | _ => false

/-- The letters. -/
def isLetter : BreakClass → Bool
  | .letter | .hebrewLetter | .dottedCircle => true
  | _ => false

/-- Characters that open what another one closes. -/
def isOpening : BreakClass → Bool
  | .opening | .wideOpening => true
  | _ => false

/-- Quotation marks of any shape. -/
def isQuotation : BreakClass → Bool
  | .quotation | .initialQuotation | .finalQuotation => true
  | _ => false

/-- What a syllable of a Brahmic script is built on. -/
def isBase : BreakClass → Bool
  | .aksara | .aksaraStart | .dottedCircle => true
  | _ => false

/-- Signs that stand for a word each. -/
def isSign : BreakClass → Bool
  | .ideograph | .emojiBase | .emojiModifier => true
  | _ => false

/-- What Hangul is written with. -/
def isHangul : BreakClass → Bool
  | .leadingJamo | .vowelJamo | .trailingJamo | .openSyllable | .closedSyllable => true
  | _ => false

/-- What stands beside a number. -/
def isUnit : BreakClass → Bool
  | .beforeNumber | .afterNumber => true
  | _ => false

/-- Behind these, as behind spaces, a mark of the shape that begins a quotation does begin one. -/
def isQuoteStart (k : BreakClass) : Bool :=
  k.isHard || k.isOpening || k.isQuotation || k == .glue || k == .zeroWidthSpace

/-- In front of these, a mark of the shape that ends a quotation does end one. -/
def isQuoteEnd (k : BreakClass) : Bool :=
  k.isTrailing || k.clings || k.isQuotation || k == .glue

/-! ## Neighbours -/

/-- Hyphens and starters that a line does not begin with, and what a line does not end with. -/
def keepsShut (a k : BreakClass) : Bool :=
  k == .breakAfter || k == .hyphen || k == .nonStarter || k == .inseparable
    || a == .breakBefore || (a == .slash && k == .hebrewLetter)

/-- Words and what belongs to them: letters and numbers, also in brackets. -/
def keepsWord (a k : BreakClass) : Bool :=
  (a.isLetter && (k.isLetter || k == .numeric || k.isUnit || k == .opening))
    || (a == .numeric && (k.isLetter || k == .opening))
    || (a.isUnit && k.isLetter)
    || (a == .infixSeparator && k.isLetter)
    || (a == .closingBracket && (k.isLetter || k == .numeric))

/-- Numbers with their signs and units. -/
def keepsNumber (a k : BreakClass) : Bool :=
  ((a == .closing || a == .closingBracket || a == .numeric) && k.isUnit)
    || (a.isUnit && (k.isOpening || k == .numeric))
    || ((a == .hyphen || a == .infixSeparator || a == .numeric || a == .slash) && k == .numeric)
    || (a == .beforeNumber && (k.isSign || k.isHangul))
    || ((a.isSign || a.isHangul) && k == .afterNumber)

/-- The parts of a syllable or of a sign. -/
def keepsSign (a k : BreakClass) : Bool :=
  (a == .leadingJamo
      && (k == .leadingJamo || k == .vowelJamo || k == .openSyllable || k == .closedSyllable))
    || ((a == .vowelJamo || a == .openSyllable) && (k == .vowelJamo || k == .trailingJamo))
    || ((a == .trailingJamo || a == .closedSyllable) && k == .trailingJamo)
    || (a == .emojiBase && k == .emojiModifier)

/-- The parts of a syllable of a Brahmic script. -/
def keepsSyllable (a k : BreakClass) : Bool :=
  (a == .aksaraPrebase && k.isBase) || (a.isBase && (k == .viramaFinal || k == .virama))

/-- Whether a line may end between two characters that stand side by side. -/
def divides (a k : BreakClass) : Bool :=
  if a.isHard then !(a == .carriageReturn && k == .lineFeed)
  else if k.isTrailing then false
  else if a == .zeroWidthSpace then true
  else if k.clings || a == .wordJoiner || a == .glue || a.isOpening then false
  else if k == .glue then a == .breakAfter || a == .hyphen
  else if a == .dash && k == .dash then false
  else if a.isQuotation || k.isQuotation then false
  else if a == .contingent || k == .contingent then true
  else
    !(keepsShut a k || keepsWord a k || keepsNumber a k || keepsSign a k || keepsSyllable a k)

/-- Whether a line may end behind spaces; `a` is what stands in front of them. -/
def spacesDivide (a : Option BreakClass) (k : BreakClass) : Bool :=
  if k.isTrailing then false
  else if a == some .zeroWidthSpace then true
  else
    !(k.clings || a.any isOpening
      || ((a == some .closing || a == some .closingBracket) && k == .nonStarter)
      || (a == some .dash && k == .dash))

end BreakClass

/-! ## Reading a text -/

/-- What the characters so far say about a line that ends behind them. -/
structure Context where
  /-- The class of the last character that is neither a space nor a mark; none at the start. -/
  last : Option BreakClass
  /-- Whether spaces stand behind it. -/
  spaced : Bool
  /-- Whether the character that was read last is a joiner. -/
  joined : Bool
  /-- Whether the last character is a hyphen that a Hebrew letter keeps. -/
  bound : Bool
  /-- Whether the last character is one half of a flag that lacks the other. -/
  half : Bool
  /-- Whether the last character begins a quotation. -/
  quoting : Bool
  /-- Whether the last character is a virama that waits for the consonant to stack. -/
  stacking : Bool
  deriving DecidableEq, Repr, Inhabited

namespace Context

/-- The start of a text. -/
def start : Context := ⟨none, false, false, false, false, false, false⟩

/-- Whether the next character is a mark on the last one. -/
def attaches (x : Context) (k : BreakClass) : Bool :=
  k.isMark && !x.spaced && x.last.any fun a => !a.isHard && a != .zeroWidthSpace

/-- A mark without a character to attach to counts as a letter. -/
def alone (k : BreakClass) : BreakClass := if k.isMark then .letter else k

/-- The context behind the next character. -/
def next (x : Context) (k : BreakClass) : Context :=
  if x.attaches k then { x with joined := k == .joiner }
  else if k = .space then
    { x with spaced := true, joined := false, bound := false, half := false, stacking := false }
  else
    { last := some (alone k)
      spaced := false
      joined := k == .joiner
      bound := !x.spaced && x.last == some .hebrewLetter && (k == .hyphen || k == .breakAfter)
      half := k == .regionalIndicator && !x.half
      quoting := k == .initialQuotation && (x.spaced || x.last.all BreakClass.isQuoteStart)
      stacking := k == .virama && !x.spaced && x.last.any BreakClass.isBase }

/-- Whether the next character ends a quotation, by the one that follows it. -/
def closes (k : BreakClass) (after : Option BreakClass) : Bool :=
  k == .finalQuotation && after.all BreakClass.isQuoteEnd

/-- Whether the next character belongs to the syllable before it: it is stacked below the last
    one, or it ends the syllable, silenced by the one that follows it. -/
def joins (x : Context) (k : BreakClass) (after : Option BreakClass) : Bool :=
  (x.stacking && (k == .aksara || k == .dottedCircle))
    || (x.last.any BreakClass.isBase && k.isBase && after == some .viramaFinal)

/-- Whether a line may end in front of the next character; `after` is the class of the one
    behind that, marks aside. -/
def breaks (x : Context) (k : BreakClass) (after : Option BreakClass) : Bool :=
  if x.joined || x.attaches k || x.quoting then false
  else if x.spaced then
    BreakClass.spacesDivide x.last (alone k)
      && (x.last == some .zeroWidthSpace || !closes k after)
  else
    match x.last with
    | none => false
    | some a =>
      BreakClass.divides a (alone k) && (!x.bound || k == .contingent)
        && !(x.half && k == .regionalIndicator) && !x.joins k after

end Context

/-- For each character of a text, given by its class, whether a line may end behind it. -/
def endsOf (x : Context) : List BreakClass → List Bool
  | [] => []
  | k :: rest =>
    let behind := x.next k
    let here :=
      match rest with
      | [] => false
      | next :: further => behind.breaks next (further.find? fun m => !m.isMark)
    here :: endsOf behind rest

/-- For each character of a text, whether a line may end behind it. -/
def ends (cs : List Char) : List Bool := endsOf .start (cs.map BreakClass.ofChar)

theorem length_endsOf (x : Context) (ks : List BreakClass) :
    (endsOf x ks).length = ks.length := by
  induction ks generalizing x with
  | nil => rfl
  | cons k rest ih => simp [endsOf, ih]

/-- Every character has its answer. -/
theorem length_ends (cs : List Char) : (ends cs).length = cs.length := by
  simp [ends, length_endsOf]

theorem endsOf_append_singleton (x : Context) (ks : List BreakClass) (k : BreakClass) :
    (endsOf x (ks ++ [k])).getLast? = some false := by
  induction ks generalizing x with
  | nil => simp [endsOf]
  | cons l rest ih =>
    simp only [List.cons_append, endsOf, List.getLast?_cons, ih]
    rfl

/-- The end of a text is no place inside it. -/
theorem ends_append_singleton (cs : List Char) (c : Char) :
    (ends (cs ++ [c])).getLast? = some false := by
  simp only [ends, List.map_append, List.map_cons, List.map_nil, endsOf_append_singleton]

end Text
end LuauLayout
