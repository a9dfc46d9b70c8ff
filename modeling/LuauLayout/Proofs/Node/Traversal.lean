/-
  LuauLayout.Proofs.Node.Traversal

  The nodes of a tree in the order in which they are laid out.

  A node is laid out before the nodes below it, targets before values, a callee
  before its arguments, the left operand before the right. What a block becomes
  depends on where it stands, so a node is listed together with its position.

    * `Node.occurrences`  — a node and all nodes below it, in this order.
    * `Block.occurrences` — all nodes of a document.
    * `Node.induct`       — induction along the nodes, with one hypothesis for
      every list of children.
-/

import LuauLayout.Document

namespace LuauLayout

/-- Where a node stands: directly in a list of statements, or anywhere else. -/
inductive Position where
  | statement
  | operand
  deriving DecidableEq, Repr

/-- A node at a position. -/
structure Occurrence where
  position : Position
  node : Node

namespace Node

mutual

/-- A node at a position, and all nodes below it. -/
def occurrences (p : Position) : Node → List Occurrence
  | .atom l a => [⟨p, .atom l a⟩]
  | .block l hasEnd body => ⟨p, .block l hasEnd body⟩ :: occurrencesIn .statement body
  | .localDecl l targets values =>
    ⟨p, .localDecl l targets values⟩ ::
      (occurrencesIn .operand targets ++ occurrencesInValues values)
  | .assign l targets values =>
    ⟨p, .assign l targets values⟩ ::
      (occurrencesIn .operand targets ++ occurrencesInValues values)
  | .ret l values => ⟨p, .ret l values⟩ :: occurrencesIn .operand values
  | .exprStat l e => ⟨p, .exprStat l e⟩ :: e.occurrences .operand
  | .indexName l base name nl op =>
    ⟨p, .indexName l base name nl op⟩ :: base.occurrences .operand
  | .group l e => ⟨p, .group l e⟩ :: e.occurrences .operand
  | .call l callee args =>
    ⟨p, .call l callee args⟩ :: (callee.occurrences .operand ++ occurrencesIn .operand args)
  | .unary l op e => ⟨p, .unary l op e⟩ :: e.occurrences .operand
  | .binary l op left right =>
    ⟨p, .binary l op left right⟩ :: (left.occurrences .operand ++ right.occurrences .operand)
  | .unmodelled tag l data => [⟨p, .unmodelled tag l data⟩]

/-- The nodes of a list, each followed by those below it. -/
def occurrencesIn (p : Position) : List Node → List Occurrence
  | [] => []
  | n :: rest => n.occurrences p ++ occurrencesIn p rest

/-- The values of an assignment, if it has any. -/
def occurrencesInValues : Option (List Node) → List Occurrence
  | none => []
  | some values => occurrencesIn .operand values

end

/-- Every node stands first among its own occurrences. -/
theorem head?_occurrences (p : Position) (n : Node) : (n.occurrences p).head? = some ⟨p, n⟩ := by
  cases n <;> rw [occurrences] <;> rfl

/-- Induction along the nodes. -/
@[elab_as_elim]
theorem induct {motive : Node → Prop}
    (atom : ∀ l a, motive (.atom l a))
    (block : ∀ l hasEnd body, (∀ n ∈ body, motive n) → motive (.block l hasEnd body))
    (localDecl : ∀ l targets values, (∀ n ∈ targets, motive n) →
      (∀ vs ∈ values, ∀ n ∈ vs, motive n) → motive (.localDecl l targets values))
    (assign : ∀ l targets values, (∀ n ∈ targets, motive n) →
      (∀ vs ∈ values, ∀ n ∈ vs, motive n) → motive (.assign l targets values))
    (ret : ∀ l values, (∀ n ∈ values, motive n) → motive (.ret l values))
    (exprStat : ∀ l e, motive e → motive (.exprStat l e))
    (indexName : ∀ l base name nl op, motive base → motive (.indexName l base name nl op))
    (group : ∀ l e, motive e → motive (.group l e))
    (call : ∀ l callee args, motive callee → (∀ n ∈ args, motive n) →
      motive (.call l callee args))
    (unary : ∀ l op e, motive e → motive (.unary l op e))
    (binary : ∀ l op left right, motive left → motive right → motive (.binary l op left right))
    (unmodelled : ∀ tag l data, motive (.unmodelled tag l data)) :
    ∀ n, motive n := by
  apply @Node.rec motive (fun ns => ∀ n ∈ ns, motive n)
    (fun values => ∀ vs ∈ values, ∀ n ∈ vs, motive n)
    atom block localDecl assign ret exprStat indexName group call unary binary unmodelled
  -- what the three kinds of lists of children hold
  · exact fun n hn => absurd hn List.not_mem_nil
  · exact fun n rest hn hrest => List.forall_mem_cons.mpr ⟨hn, hrest⟩
  · intro vs hvs
    cases hvs
  · intro vs h ws hws
    rw [Option.mem_some_iff] at hws
    exact hws ▸ h

end Node

/-- The nodes of a document in the order in which they are laid out. Its root is not one of them. -/
def Block.occurrences (b : Block) : List Occurrence := Node.occurrencesIn .statement b.body

end LuauLayout
