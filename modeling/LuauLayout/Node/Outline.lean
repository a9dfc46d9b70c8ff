/-
  LuauLayout.Node.Outline

  Nodes laid out for a reader.

  The outline of a node names its form and the payload of the form, field by
  field; values that came as JSON are laid out as such.

    * `Node.outline`  — the outline of a node.
    * `Node.describe` — the node on one line: the JSON text of what it was read
      from if it is unmodelled, otherwise its outline.
-/

import LuauLayout.Node.Basic
import LuauLayout.Outline

namespace LuauLayout

namespace Json

mutual

/-- A JSON value as an outline. Everything but a list or an object is one word. -/
def outline : Json → Outline
  | .null => .word "Null"
  | .bool true => .word "Bool(true)"
  | .bool false => .word "Bool(false)"
  | .number n => .word ("Number(" ++ String.ofList n.chars ++ ")")
  | .text s => .word ("String(" ++ Text.quote s ++ ")")
  | .list items => .list "Array " (itemOutlines items)
  | .object members => .table "Object " (memberOutlines members)

def itemOutlines : List Json → List Outline
  | [] => []
  | item :: rest => item.outline :: itemOutlines rest

def memberOutlines : List (String × Json) → List (String × Outline)
  | [] => []
  | (key, value) :: rest => (key, value.outline) :: memberOutlines rest

end

end Json

namespace Outline

/-- A text as a quoted word. -/
def quoted (s : String) : Outline := .word (Text.quote s)

/-- A truth value as a word. -/
def ofBool (b : Bool) : Outline := .word (if b then "true" else "false")

/-- A value that may be missing. -/
def ofOption {α : Type} (f : α → Outline) : Option α → Outline
  | none => .word "None"
  | some a => .tuple "Some" [f a]

end Outline

/-- A location as an outline. -/
def Location.outline (l : Location) : Outline := .tuple "Location" [.quoted l.text]

/-- The fields of a variable. -/
def Binding.outline (b : Binding) : Outline :=
  .record "LocalBinding"
    [("location", b.location.outline), ("name", .quoted b.name),
      ("luau_type", .ofOption Json.outline b.declaredType)]

/-- A token at a location. -/
def Atom.outline (l : Location) : Atom → Outline
  | .breakStat => .tuple "Break" [.record "Leaf" [("location", l.outline)]]
  | .continueStat => .tuple "Continue" [.record "Leaf" [("location", l.outline)]]
  | .varargs => .tuple "Varargs" [.record "Leaf" [("location", l.outline)]]
  | .nil => .tuple "Nil" [.record "Leaf" [("location", l.outline)]]
  | .bool b =>
    .tuple "Bool" [.record "ConstantBool" [("location", l.outline), ("value", .ofBool b)]]
  | .number x =>
    .tuple "Number"
      [.record "ConstantNumber" [("location", l.outline), ("value", .word x.debugText)]]
  | .text s =>
    .tuple "Str" [.record "ConstantString" [("location", l.outline), ("value", .quoted s)]]
  | .global name =>
    .tuple "Global" [.record "ExprGlobal" [("location", l.outline), ("global", .quoted name)]]
  | .binding name declaredType => .tuple "Binding" [(Binding.mk l name declaredType).outline]
  | .localRef b =>
    .tuple "LocalRef" [.record "ExprLocal" [("location", l.outline), ("local", b.outline)]]

namespace Node

mutual

/-- A node as an outline. -/
def outline : Node → Outline
  | .atom l a => a.outline l
  | .block l hasEnd body =>
    .tuple "Block"
      [.record "StatBlock"
        [("location", l.outline), ("has_end", .ofBool hasEnd), ("body", .list "" (outlines body))]]
  | .localDecl l targets values =>
    .tuple "Local"
      [.record "StatLocal"
        [("location", l.outline), ("vars", .list "" (outlines targets)),
          ("values", valuesOutline values)]]
  | .assign l targets values =>
    .tuple "Assign"
      [.record "StatAssign"
        [("location", l.outline), ("vars", .list "" (outlines targets)),
          ("values", valuesOutline values)]]
  | .ret l values =>
    .tuple "Return"
      [.record "StatReturn" [("location", l.outline), ("list", .list "" (outlines values))]]
  | .exprStat l e =>
    .tuple "ExprStat" [.record "StatExpr" [("location", l.outline), ("expr", e.outline)]]
  | .indexName l base name nameLocation op =>
    .tuple "IndexName"
      [.record "ExprIndexName"
        [("location", l.outline), ("expr", base.outline), ("index", .quoted name),
          ("index_location", .ofOption Location.outline nameLocation),
          ("op", .ofOption .quoted op)]]
  | .group l e =>
    .tuple "Group" [.record "ExprGroup" [("location", l.outline), ("expr", e.outline)]]
  | .call l callee args =>
    .tuple "Call"
      [.record "ExprCall"
        [("location", l.outline), ("func", callee.outline), ("args", .list "" (outlines args))]]
  | .unary l op e =>
    .tuple "Unary"
      [.record "ExprUnary" [("location", l.outline), ("op", .quoted op), ("expr", e.outline)]]
  | .binary l op left right =>
    .tuple "Binary"
      [.record "ExprBinary"
        [("location", l.outline), ("op", .quoted op), ("left", left.outline),
          ("right", right.outline)]]
  | .unmodelled tag l data =>
    .tuple "Other"
      [.record "OtherNode"
        [("kind", .quoted tag.text), ("location", l.outline), ("data", data.outline)]]

/-- The outlines of the nodes of a list. -/
def outlines : List Node → List Outline
  | [] => []
  | n :: rest => n.outline :: outlines rest

/-- The values of an assignment, if it has any. -/
def valuesOutline : Option (List Node) → Outline
  | none => .word "None"
  | some values => .tuple "Some" [.list "" (outlines values)]

end

/-- The node on one line. -/
def describe : Node → String
  | .unmodelled _ _ data => data.compress
  | n => n.outline.compact

end Node
end LuauLayout
