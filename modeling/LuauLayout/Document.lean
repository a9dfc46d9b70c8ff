/-
  LuauLayout.Document

  The document that a dump is: one block of statements.

  A dump holds its root under the key `root`, beside other members; a bare block
  is taken as it is.
-/

import LuauLayout.Failure
import LuauLayout.Json.Reader

namespace LuauLayout

/-- The statements of a block, with its location. -/
structure Block where
  location : Location
  hasEnd : Bool
  body : List Node
  deriving Inhabited

namespace Node

/-- The block that a node is, if it is one. -/
def asBlock? : Node → Option Block
  | .block l hasEnd body => some ⟨l, hasEnd, body⟩
  | _ => none

end Node

namespace Block

/-- The node that a block is. -/
def toNode (b : Block) : Node := .block b.location b.hasEnd b.body

theorem asBlock?_toNode (b : Block) : b.toNode.asBlock? = some b := rfl

/-- The root block of a dump. -/
def ofJson (v : Json) : Except Failure Block := do
  let n ← (Node.ofJson ((v.get? "root").getD v)).mapError Failure.ofNode
  match n.asBlock? with
  | some b => return b
  | none => throw (.badRoot n.kind)

/-- The root block of the dump that a text is. -/
def ofText (text : String) : Except Failure Block :=
  match Json.parse? text with
  | none => .error .badText
  | some v => ofJson v

end Block
end LuauLayout
