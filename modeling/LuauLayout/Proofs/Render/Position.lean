/-
  LuauLayout.Proofs.Render.Position

  Laying out a node where it stands.

  Statements, list elements and single operands reach their renderers by
  different routes. `dispatchAt` is the one route they share, and below every
  renderer is written in terms of it. What is proved of a registry by induction
  along the nodes starts from these equations, not from the recursion itself.

    * `dispatchAt`             — one node at its position.
    * `appendIf`               — punctuation that is not always due.
    * `walkNodes_cons`         — statements.
    * `listNodes_cons_of_has`, `listNodes_cons_of_not_has` — list elements.
    * `assignValues_some`      — the values of an assignment.
    * `renderWith_call`, ...   — the renderers of the forms.
-/

import LuauLayout.Proofs.Render.Standard

namespace LuauLayout
namespace Render

/-- What a registry makes of a node at a position. -/
def dispatchAt (reg : Registry Renderer) (p : Position) (n : Node) : Render Dispatch :=
  match reg.get? (n.tagAt p) with
  | some r => do
    renderWith reg r n
    return .rendered
  | none =>
    if isTypeTag n.kind then return .ignored
    else do
      report n
      return .unsupported

variable {reg : Registry Renderer} {p : Position} {n : Node}

theorem dispatchAt_of_some {r : Renderer} (h : reg.get? (n.tagAt p) = some r) :
    dispatchAt reg p n = (do renderWith reg r n; return .rendered) := by
  rw [dispatchAt, h]

theorem dispatchAt_of_ignored (h : reg.get? (n.tagAt p) = none) (ht : isTypeTag n.kind = true) :
    dispatchAt reg p n = pure .ignored := by
  rw [dispatchAt, h]
  exact if_pos ht

theorem dispatchAt_of_unsupported (h : reg.get? (n.tagAt p) = none)
    (ht : isTypeTag n.kind = false) :
    dispatchAt reg p n = (do report n; return .unsupported) := by
  rw [dispatchAt, h]
  exact if_neg (by simp [ht])

theorem dispatch_eq_dispatchAt (reg : Registry Renderer) (n : Node) :
    dispatch reg n = dispatchAt reg .operand n := by
  rw [dispatchAt, n.tagAt_operand]
  rfl

theorem handOn_eq_dispatchAt (reg : Registry Renderer) (n : Node) :
    (handOn reg n fun r => renderWith reg r n) = dispatchAt reg .operand n :=
  dispatch_eq_dispatchAt reg n

/-! ## Sequences -/

/-- Appends a text or does nothing. -/
def appendIf (due : Bool) (text : String) : Render Unit :=
  if due then append text else pure ()

/-- A statement at a time, up to the first that is unsupported. -/
theorem walkNodes_cons (reg : Registry Renderer) (n : Node) (rest : List Node) :
    walkNodes reg (n :: rest) = (do
      let d ← dispatchAt reg .statement n
      if d = .unsupported then return .unsupported
      walkNodes reg rest) := by
  cases n with
  | block l hasEnd body =>
    rw [walkNodes]
    cases h : reg.get? Renderer.doBlockTag with
    | some r => rw [dispatchAt_of_some (n := .block l hasEnd body) h, bind_assoc]
    | none =>
      -- a block is no annotation, so the test for one makes no difference
      rw [dispatchAt_of_unsupported (n := .block l hasEnd body) h (isTypeTag_tag .block),
        bind_assoc]
  | _ =>
    rw [walkNodes, handOn_eq_dispatchAt]
    · rfl
    · simp

/-- An element with a renderer: a separator unless it is the first, the element, and the rest. -/
theorem listNodes_cons_of_has (sep : String) (started : Bool) (rest : List Node)
    (h : reg.has n.kind = true) :
    listNodes reg sep started (n :: rest) = (do
      appendIf started sep
      let _ ← dispatchAt reg .operand n
      listNodes reg sep true rest) := by
  rw [listNodes, dispatchAt, n.tagAt_operand]
  cases hg : reg.get? n.kind with
  | some r => cases started <;> simp [appendIf]
  | none => simp [Registry.has, hg] at h

/-- An element without a renderer gets no separator. -/
theorem listNodes_cons_of_not_has (sep : String) (started : Bool) (rest : List Node)
    (h : reg.has n.kind = false) :
    listNodes reg sep started (n :: rest) = (do
      let d ← dispatchAt reg .operand n
      if d = .unsupported then return .unsupported
      listNodes reg sep started rest) := by
  rw [listNodes, dispatchAt, n.tagAt_operand]
  cases hg : reg.get? n.kind with
  | some r => simp [Registry.has, hg] at h
  | none =>
    cases ht : isTypeTag n.kind with
    | true => simp
    | false => simp

/-- The values stand behind ` = ` if the first of them has a renderer. -/
theorem assignValues_some (reg : Registry Renderer) (t : Dispatch) (values : List Node) :
    assignValues reg t (some values) = (do
      appendIf (values.head?.any fun first => reg.has first.kind) " = "
      let d ← listNodes reg "," false values
      return if t = .unsupported then .unsupported else d) := by
  cases values with
  | nil => rfl
  | cons first rest =>
    rw [assignValues]
    cases h : reg.has first.kind <;> simp [appendIf, h]

/-! ## The renderers of the forms -/

theorem renderWith_atom (l : Location) (a : Atom) :
    renderWith reg (.native a.form) (.atom l a) = writeAtStart l a.source := if_pos rfl

theorem renderWith_doBlock (l : Location) (hasEnd : Bool) (body : List Node) :
    renderWith reg .doBlock (.block l hasEnd body) = (do
      let span ← ofExcept l.span
      write "do" span.start
      let _ ← walkNodes reg body
      if hasEnd then write "end" span.stop) := rfl

theorem renderWith_block (l : Location) (hasEnd : Bool) (body : List Node) :
    renderWith reg (.native .block) (.block l hasEnd body) = (do
      let _ ← walkNodes reg body) := rfl

theorem renderWith_localDecl (l : Location) (targets : List Node) (values : Option (List Node)) :
    renderWith reg (.native .localDecl) (.localDecl l targets values) = (do
      writeAtStart l "local"
      let t ← listNodes reg "," false targets
      let _ ← assignValues reg t values) := rfl

theorem renderWith_assign (l : Location) (targets : List Node) (values : Option (List Node)) :
    renderWith reg (.native .assign) (.assign l targets values) = (do
      let t ← listNodes reg "," false targets
      let _ ← assignValues reg t values) := rfl

theorem renderWith_ret (l : Location) (values : List Node) :
    renderWith reg (.native .ret) (.ret l values) = (do
      writeAtStart l "return"
      let _ ← listNodes reg "," false values) := rfl

theorem renderWith_exprStat (l : Location) (e : Node) :
    renderWith reg (.native .exprStat) (.exprStat l e) = (do
      let _ ← dispatchAt reg .operand e) := rfl

theorem renderWith_indexName (l : Location) (base : Node) (name : String)
    (nl : Option Location) (op : Option String) :
    renderWith reg (.native .indexName) (.indexName l base name nl op) = (do
      let d ← dispatchAt reg .operand base
      unlessHalted d do
        append (op.getD ".")
        match nl with
        | some nl => writeAtStart nl name
        | none => append name) := rfl

theorem renderWith_group (l : Location) (e : Node) :
    renderWith reg (.native .group) (.group l e) = (do
      let span ← ofExcept l.span
      write "(" span.start
      let d ← dispatchAt reg .operand e
      unlessHalted d (write ")" span.last)) := rfl

theorem renderWith_call (l : Location) (callee : Node) (args : List Node) :
    renderWith reg (.native .call) (.call l callee args) = (do
      let span ← ofExcept l.span
      let d ← dispatchAt reg .operand callee
      unlessHalted d do
        append "("
        let d ← listNodes reg "," false args
        unlessHalted d (write ")" span.last)) := rfl

theorem renderWith_unary (l : Location) (op : String) (e : Node) :
    renderWith reg (.native .unary) (.unary l op e) = (do
      writeAtStart l (Operator.unarySymbol op)
      let _ ← dispatchAt reg .operand e) := rfl

theorem renderWith_binary (l : Location) (op : String) (left right : Node) :
    renderWith reg (.native .binary) (.binary l op left right) = (do
      let d ← dispatchAt reg .operand left
      unlessHalted d do
        append (" " ++ Operator.binarySymbol op ++ " ")
        let _ ← dispatchAt reg .operand right) := rfl

/-- A block's renderer refuses an unmodelled node. -/
theorem renderWith_unmodelled (tag : ForeignTag) (l : Location) (data : Json) :
    renderWith reg .doBlock (.unmodelled tag l data)
      = fail (.kindMismatch Form.block.tag tag.text) := rfl

end Render
end LuauLayout
