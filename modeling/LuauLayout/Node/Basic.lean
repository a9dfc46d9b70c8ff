/-
  LuauLayout.Node.Basic

  Syntax nodes with their locations.

  A node that stands for a single token is an `Atom`; the others hold nodes. A
  node under a tag without a form is `unmodelled`: it keeps its tag, its
  location and the JSON value it was read from.

    * `Node.form?`    — the form of a node, unless it is unmodelled.
    * `Node.kind`     — its tag.
    * `Node.location` — where it stands.
-/

import LuauLayout.Json.Basic
import LuauLayout.Node.Form
import LuauLayout.Span

namespace LuauLayout

/-- The declaration of a local variable. -/
structure Binding where
  location : Location
  name : String
  /-- The type annotation, as it came. -/
  declaredType : Option Json

/-- A node that is one token; the location is kept beside it. -/
inductive Atom where
  | breakStat
  | continueStat
  | varargs
  | nil
  | bool (value : Bool)
  | number (value : Double)
  | text (value : String)
  | global (name : String)
  | binding (name : String) (declaredType : Option Json)
  | localRef (binding : Binding)

/-- A syntax node. -/
inductive Node where
  | atom (location : Location) (atom : Atom)
  /-- A list of statements; `hasEnd` when it owns the `end` that closes it. -/
  | block (location : Location) (hasEnd : Bool) (body : List Node)
  /-- The declaration of variables, with or without a list of values. -/
  | localDecl (location : Location) (targets : List Node) (values : Option (List Node))
  | assign (location : Location) (targets : List Node) (values : Option (List Node))
  | ret (location : Location) (values : List Node)
  | exprStat (location : Location) (expr : Node)
  /-- A member by its name. `op` is the `.` or `:` before the name, as far as it is known. -/
  | indexName (location : Location) (base : Node) (name : String)
      (nameLocation : Option Location) (op : Option String)
  | group (location : Location) (inner : Node)
  | call (location : Location) (callee : Node) (args : List Node)
  | unary (location : Location) (op : String) (operand : Node)
  | binary (location : Location) (op : String) (left right : Node)
  | unmodelled (tag : ForeignTag) (location : Location) (data : Json)

instance : Inhabited Node := ⟨.atom ⟨""⟩ .nil⟩

namespace Atom

/-- The form of a token. -/
def form : Atom → Form
  | .breakStat => .breakStat
  | .continueStat => .continueStat
  | .varargs => .varargs
  | .nil => .nil
  | .bool _ => .bool
  | .number _ => .number
  | .text _ => .text
  | .global _ => .global
  | .binding _ _ => .binding
  | .localRef _ => .localRef

/-- The token itself, as it stands in the source. A string is put between quotes and not
    escaped. -/
def source : Atom → String
  | .breakStat => "break"
  | .continueStat => "continue"
  | .varargs => "..."
  | .nil => "nil"
  | .bool true => "true"
  | .bool false => "false"
  | .number x => x.sourceText
  | .text s => "\"" ++ s ++ "\""
  | .global name => name
  | .binding name _ => name
  | .localRef b => b.name

end Atom

namespace Node

/-- The form of a node, unless it is unmodelled. -/
def form? : Node → Option Form
  | .atom _ a => some a.form
  | .block .. => some .block
  | .localDecl .. => some .localDecl
  | .assign .. => some .assign
  | .ret .. => some .ret
  | .exprStat .. => some .exprStat
  | .indexName .. => some .indexName
  | .group .. => some .group
  | .call .. => some .call
  | .unary .. => some .unary
  | .binary .. => some .binary
  | .unmodelled .. => none

/-- The tag of a node. -/
def kind : Node → String
  | .atom _ a => a.form.tag
  | .block .. => Form.block.tag
  | .localDecl .. => Form.localDecl.tag
  | .assign .. => Form.assign.tag
  | .ret .. => Form.ret.tag
  | .exprStat .. => Form.exprStat.tag
  | .indexName .. => Form.indexName.tag
  | .group .. => Form.group.tag
  | .call .. => Form.call.tag
  | .unary .. => Form.unary.tag
  | .binary .. => Form.binary.tag
  | .unmodelled tag .. => tag.text

/-- Where a node stands. -/
def location : Node → Location
  | .atom l _ => l
  | .block l .. => l
  | .localDecl l .. => l
  | .assign l .. => l
  | .ret l .. => l
  | .exprStat l .. => l
  | .indexName l .. => l
  | .group l .. => l
  | .call l .. => l
  | .unary l .. => l
  | .binary l .. => l
  | .unmodelled _ l _ => l

/-- Tag and location. -/
def display (n : Node) : String := n.kind ++ " @ " ++ n.location.text

/-- The tag of a modelled node is that of its form. -/
theorem kind_of_form? {n : Node} {f : Form} (h : n.form? = some f) : n.kind = f.tag := by
  cases n <;> simp_all [form?, kind]

end Node
end LuauLayout
