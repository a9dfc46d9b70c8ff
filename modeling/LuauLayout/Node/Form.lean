/-
  LuauLayout.Node.Form

  The kinds of syntax nodes whose shape is known.

  Every node of a dump carries a tag. The twenty tags below belong to the forms
  this library can take apart; a node under any other tag is kept whole. Tags in
  the namespace `AstType` belong to static type annotations, which are no part
  of the text that is laid out.

    * `Form.tag`, `Form.ofTag?` — the tag of a form and back.
    * `ForeignTag`       — a tag that no form has.
    * `isTypeTag`        — the namespace of annotations.
-/

namespace LuauLayout

/-- The forms of nodes. -/
inductive Form where
  | block
  | localDecl
  | assign
  | ret
  | exprStat
  | breakStat
  | continueStat
  | binding
  | global
  | localRef
  | indexName
  | group
  | call
  | unary
  | binary
  | varargs
  | bool
  | number
  | text
  | nil
  deriving DecidableEq, Repr, Inhabited

namespace Form

/-- The tag of a form. -/
def tag : Form → String
  | .block => "AstStatBlock"
  | .localDecl => "AstStatLocal"
  | .assign => "AstStatAssign"
  | .ret => "AstStatReturn"
  | .exprStat => "AstStatExpr"
  | .breakStat => "AstStatBreak"
  | .continueStat => "AstStatContinue"
  | .binding => "AstLocal"
  | .global => "AstExprGlobal"
  | .localRef => "AstExprLocal"
  | .indexName => "AstExprIndexName"
  | .group => "AstExprGroup"
  | .call => "AstExprCall"
  | .unary => "AstExprUnary"
  | .binary => "AstExprBinary"
  | .varargs => "AstExprVarargs"
  | .bool => "AstExprConstantBool"
  | .number => "AstExprConstantNumber"
  | .text => "AstExprConstantString"
  | .nil => "AstExprConstantNil"

/-- All forms. -/
def all : List Form :=
  [.block, .localDecl, .assign, .ret, .exprStat, .breakStat, .continueStat, .binding, .global,
    .localRef, .indexName, .group, .call, .unary, .binary, .varargs, .bool, .number, .text, .nil]

/-- The form with this tag. -/
def ofTag? (tag : String) : Option Form := all.find? fun f => f.tag == tag

theorem mem_all (f : Form) : f ∈ all := by
  cases f <;> decide

/-- A form is found under its own tag. -/
theorem ofTag?_tag (f : Form) : ofTag? f.tag = some f := by
  cases f <;> decide +kernel

/-- A form is found only under its own tag. -/
theorem tag_of_ofTag? {tag : String} {f : Form} (h : ofTag? tag = some f) : f.tag = tag := by
  have := List.find?_some h
  simpa using this

/-- Different forms have different tags. -/
theorem tag_injective {f g : Form} (h : f.tag = g.tag) : f = g := by
  have hf := ofTag?_tag f
  rw [h, ofTag?_tag g] at hf
  exact (Option.some.inj hf).symm

end Form

/-- A tag that no form has. It is part of a node that is kept whole, so the trees of this library
    are those that decoding yields; a node put together by hand, under the tag of a form but without
    its fields, is not among them. -/
structure ForeignTag where
  text : String
  noForm : Form.ofTag? text = none

/-- Whether a tag belongs to a static type annotation. -/
def isTypeTag (tag : String) : Bool :=
  ['A', 's', 't', 'T', 'y', 'p', 'e'].isPrefixOf tag.toList

/-- No form is a type annotation. -/
theorem isTypeTag_tag (f : Form) : isTypeTag f.tag = false := by
  cases f <;> decide +kernel

end LuauLayout
