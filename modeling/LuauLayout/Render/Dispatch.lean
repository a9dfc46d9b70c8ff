/-
  LuauLayout.Render.Dispatch

  Laying out nodes: every token at its own coordinates.

  A node is handed to the renderer registered for its tag. Tokens go where their
  locations say; punctuation for which a dump has no location is appended behind
  whatever was written last. A node without a renderer is reported and halts the
  sequence it stands in, unless it is a type annotation, which is passed over.

    * `renderWith`     — one node under a given renderer.
    * `dispatch`       — one node under the renderer registered for it.
    * `dispatchList`   — nodes in order, with a separator between them.
    * `walk`           — statements in order; a block among them goes to the
      renderer registered for `DoBlock`.
    * `dispatchAssignment` — targets and values, with ` = ` between them.

  The recursion follows the nodes. A renderer from outside gets the node alone;
  see `LuauLayout.Render.Extension` for those that hand nodes back.
-/

import LuauLayout.Document
import LuauLayout.Render.Operator
import LuauLayout.Render.Registry

namespace LuauLayout

/-- What became of a node. -/
inductive Dispatch where
  | rendered
  /-- A type annotation was passed over. -/
  | ignored
  /-- There is no renderer; the node has been reported and its sequence has to stop. -/
  | unsupported
  deriving DecidableEq, Repr, Inhabited

namespace Render

/-- The failure of a renderer that was handed a node of another form. -/
def mismatch (form : Form) (n : Node) : Render Unit := fail (.kindMismatch form.tag n.kind)

/-- Hands a node on, given what each renderer would do with it. -/
def handOn (reg : Registry Renderer) (n : Node) (run : Renderer → Render Unit) :
    Render Dispatch :=
  match reg.get? n.kind with
  | some r => do
    run r
    return .rendered
  | none =>
    if isTypeTag n.kind then return .ignored
    else do
      report n
      return .unsupported

/-- The renderer of one form alone: it does `own` for a node of that form, and the other
    renderers of this library refuse the node. -/
@[macro_inline]
def only (r : Renderer) (form : Form) (n : Node) (own : Render Unit) : Render Unit :=
  match r with
  | .custom run => run n
  | .doBlock => mismatch .block n
  | .native f => if f = form then own else mismatch f n

/-- Goes on unless a sequence has halted. -/
@[macro_inline]
def unlessHalted (d : Dispatch) (k : Render Unit) : Render Unit :=
  if d = .unsupported then pure () else k

mutual

/-- One node under a given renderer. -/
def renderWith (reg : Registry Renderer) (r : Renderer) : Node → Render Unit
  | .atom l a => only r a.form (.atom l a) (writeAtStart l a.source)
  | .block l hasEnd body =>
    match r with
    | .custom run => run (.block l hasEnd body)
    | .doBlock => do
      let span ← ofExcept l.span
      write "do" span.start
      -- a body that halts does not keep `end` from being written
      let _ ← walkNodes reg body
      if hasEnd then write "end" span.stop
    | .native .block => do
      let _ ← walkNodes reg body
    | .native f => mismatch f (.block l hasEnd body)
  | .localDecl l targets values => only r .localDecl (.localDecl l targets values) do
    writeAtStart l "local"
    -- targets that halt do not keep the values from being laid out
    let t ← listNodes reg "," false targets
    let _ ← assignValues reg t values
  | .assign l targets values => only r .assign (.assign l targets values) do
    let t ← listNodes reg "," false targets
    let _ ← assignValues reg t values
  | .ret l values => only r .ret (.ret l values) do
    writeAtStart l "return"
    let _ ← listNodes reg "," false values
  | .exprStat l e => only r .exprStat (.exprStat l e) do
    let _ ← handOn reg e fun r => renderWith reg r e
  | .indexName l base name nameLocation op =>
    only r .indexName (.indexName l base name nameLocation op) do
      let d ← handOn reg base fun r => renderWith reg r base
      unlessHalted d do
        -- a dump has no place for the operator, and may have none for the name
        append (op.getD ".")
        match nameLocation with
        | some nl => writeAtStart nl name
        | none => append name
  | .group l e => only r .group (.group l e) do
    let span ← ofExcept l.span
    write "(" span.start
    let d ← handOn reg e fun r => renderWith reg r e
    unlessHalted d (write ")" span.last)
  | .call l callee args => only r .call (.call l callee args) do
    let span ← ofExcept l.span
    let d ← handOn reg callee fun r => renderWith reg r callee
    unlessHalted d do
      -- a dump has a place for `)`, the last of the call, but none for `(`
      append "("
      let d ← listNodes reg "," false args
      unlessHalted d (write ")" span.last)
  | .unary l op e => only r .unary (.unary l op e) do
    writeAtStart l (Operator.unarySymbol op)
    -- nothing stands behind the operand that its halt could cut off
    let _ ← handOn reg e fun r => renderWith reg r e
  | .binary l op left right => only r .binary (.binary l op left right) do
    let d ← handOn reg left fun r => renderWith reg r left
    unlessHalted d do
      append (" " ++ Operator.binarySymbol op ++ " ")
      let _ ← handOn reg right fun r => renderWith reg r right
  | .unmodelled tag l data =>
    match r with
    | .custom run => run (.unmodelled tag l data)
    | .doBlock => mismatch .block (.unmodelled tag l data)
    | .native f => mismatch f (.unmodelled tag l data)

/-- The nodes of a list; `started` when one before them has been rendered. -/
def listNodes (reg : Registry Renderer) (separator : String) (started : Bool) :
    List Node → Render Dispatch
  | [] => return .rendered
  | n :: rest =>
    match reg.get? n.kind with
    | some r => do
      -- a separator waits for the second of the nodes that it stands between
      if started then append separator
      renderWith reg r n
      listNodes reg separator true rest
    | none =>
      if isTypeTag n.kind then listNodes reg separator started rest
      else do
        report n
        return .unsupported

/-- The statements of a block. -/
def walkNodes (reg : Registry Renderer) : List Node → Render Dispatch
  | [] => return .rendered
  | n :: rest => do
    let d ←
      -- a block among statements goes by the tag for `do` and `end`, not by its own
      match n with
      | .block l hasEnd body =>
        match reg.get? Renderer.doBlockTag with
        | some r => do
          renderWith reg r (.block l hasEnd body)
          pure Dispatch.rendered
        | none => do
          report (.block l hasEnd body)
          pure Dispatch.unsupported
      | n => handOn reg n fun r => renderWith reg r n
    if d = .unsupported then return .unsupported
    walkNodes reg rest

/-- The values of an assignment, behind its targets, and what became of the whole. -/
def assignValues (reg : Registry Renderer) (targets : Dispatch) :
    Option (List Node) → Render Dispatch
  | none => return targets
  | some values => do
    -- the first value alone decides on ` = `, and before it is laid out
    match values with
    | [] => pure ()
    | first :: _ => if reg.has first.kind then append " = "
    let d ← listNodes reg "," false values
    return if targets = .unsupported then .unsupported else d

end

/-! ## Entry points -/

/-- One node, under the renderer registered for it. -/
def dispatch (reg : Registry Renderer) (n : Node) : Render Dispatch :=
  handOn reg n fun r => renderWith reg r n

/-- Nodes in order, up to the first unsupported one. The separator is appended between rendered
    nodes; annotations that are passed over get none. -/
def dispatchList (reg : Registry Renderer) (separator : String) (nodes : List Node) :
    Render Dispatch :=
  listNodes reg separator false nodes

/-- Targets, then ` = ` and the values if there are any. An unsupported node halts only the list
    it stands in. -/
def dispatchAssignment (reg : Registry Renderer) (targets : List Node)
    (values : Option (List Node)) : Render Dispatch := do
  let t ← dispatchList reg "," targets
  assignValues reg t values

/-- The statements of a block, up to the first unsupported one. -/
def walk (reg : Registry Renderer) (b : Block) : Render Dispatch := walkNodes reg b.body

/-- A block with the words around it: `do` at its start, and `end` at its end if it owns one. -/
def doBlock (reg : Registry Renderer) (b : Block) : Render Unit :=
  renderWith reg .doBlock b.toNode

end Render
end LuauLayout
