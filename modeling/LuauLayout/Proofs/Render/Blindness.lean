/-
  LuauLayout.Proofs.Render.Blindness

  Rendering does not look at the text it makes.

  A walk under renderers of this library, on whatever text it is begun, makes
  the same edits in the same order, reports the same nodes and comes to the same
  end. So a walk may be cut in two anywhere before it halts: the second half,
  begun by itself on the text that the first has left, does what it would have
  done.

    * `editsOf`          — the edits among some actions.
    * `performAll_editsOf` — plain actions do no more to a text than their edits.
    * `walkNodes_append` — the walk over statements and then over more of them.
    * `walk_isBlind`     — both for the walk over a block.
-/

import LuauLayout.Proofs.Buffer.LastWrite
import LuauLayout.Proofs.Render.BuiltIn
import LuauLayout.Proofs.Render.Live

namespace LuauLayout

/-- The edit that an action makes, if it makes one. Text spliced in moves rows and is none. -/
def Action.edit? : Action → Option Edit
  | .write text place .overwrite => some (.write ⟨text, place⟩)
  | .write _ _ .insert => none
  | .append text => some (.append text)
  | .report _ => none

/-- The edits among actions, in order. -/
def editsOf (actions : List Action) : List Edit := actions.filterMap Action.edit?

/-- Plain actions leave the text that their edits leave. -/
theorem Buffer.performAll_editsOf {actions : List Action} (h : ∀ a ∈ actions, a.IsPlain)
    (b : Buffer) : b.performAll actions = b.editAll (editsOf actions) := by
  induction actions generalizing b with
  | nil => rfl
  | cons a rest ih =>
    obtain ⟨ha, hrest⟩ := List.forall_mem_cons.mp h
    cases a with
    | write text place mode =>
      obtain ⟨rfl, -⟩ := ha
      exact ih hrest _
    | append text => exact ih hrest _
    | report u => exact ih hrest _

namespace Render

variable {reg : Registry Renderer}

/-- The statements of two lists: the second are walked over unless the first have halted. -/
theorem walkNodes_append (reg : Registry Renderer) (xs ys : List Node) :
    walkNodes reg (xs ++ ys) = (do
      let d ← walkNodes reg xs
      if d = .unsupported then return .unsupported
      walkNodes reg ys) := by
  induction xs with
  | nil => rfl
  | cons x xs ih =>
    rw [List.cons_append, walkNodes_cons, walkNodes_cons, bind_assoc]
    congr 1
    funext d
    -- a halt at the first statement ends both sides before the second list
    by_cases hd : d = .unsupported
    · rw [if_pos hd, if_pos hd, pure_bind, if_pos rfl]
    · rw [if_neg hd, if_neg hd, ih]

/-- Statements behind others that did not halt are walked over as if they stood alone. -/
theorem run_walkNodes_append {xs : List Node} {d : Dispatch}
    (h : (walkNodes reg xs).result = .ok d) (hd : d ≠ .unsupported) (ys : List Node)
    (cx : Context) :
    cx.run (walkNodes reg (xs ++ ys)) = (cx.run (walkNodes reg xs)).1.run (walkNodes reg ys) := by
  rw [walkNodes_append, Context.run_bind_of_ok h, if_neg hd]

end Render

/-- A context holds its reports in front of those that a run adds; the text of the run and its end
    do not depend on them. -/
theorem Context.run_eq_ofBuffer {α : Type} (cx : Context) (m : Render α) :
    cx.run m = (⟨((ofBuffer cx.buffer).run m).1.buffer,
      cx.unsupported ++ ((ofBuffer cx.buffer).run m).1.unsupported⟩,
      ((ofBuffer cx.buffer).run m).2) := rfl

namespace Render

/-- Rendering is blind to the text it works on. Laying out a block as one goes is carrying out the
    collected walk. Under renderers of this library, whatever their tags, the walk makes the same
    edits in any context, adds the same reports and ends in the same way. And if it has come to the
    end of the body, statements behind the body are laid out as they are in a walk of their own
    that is begun on the text left. -/
theorem walk_isBlind {reg : Registry Renderer} (hreg : reg.IsBuiltIn) (b : Block) :
    (∀ cx : Context, Live.walk reg b cx = (cx.run (walk reg b)).swap) ∧
      (∃ edits reported result, ∀ cx : Context, cx.run (walk reg b) =
        (⟨cx.buffer.editAll edits, cx.unsupported ++ reported⟩, result)) ∧
      ∀ (start : Buffer) (d : Dispatch) (more : List Node),
        let first := (Context.ofBuffer start).run (walk reg b)
        let second := (Context.ofBuffer first.1.buffer).run (walk reg { b with body := more })
        first.2 = .ok d → d ≠ .unsupported →
          (Context.ofBuffer start).run (walk reg { b with body := b.body ++ more }) =
            (⟨second.1.buffer, first.1.unsupported ++ second.1.unsupported⟩, second.2) := by
  refine ⟨?_, ?_, ?_⟩
  · intro cx
    rw [Live.walk_eq_perform]
    rfl
  · refine ⟨editsOf (walk reg b).actions, reports (walk reg b).actions, (walk reg b).result,
      fun cx => ?_⟩
    rw [Context.run, Context.performAll, Buffer.performAll_editsOf (plain_walk hreg b)]
  · intro start d more first second hfirst hd
    have hsplit := run_walkNodes_append hfirst hd more (Context.ofBuffer start)
    exact hsplit.trans (Context.run_eq_ofBuffer first.1 _)

/-- Under a registry that has the renderer of blocks among statements for blocks anywhere and none
    for groups. A block with a node that nobody lays out stands as an expression, behind a line
    that was there before; it is laid out from `do` to `end`. The statements behind it follow, a
    group among them that is reported and whose location is not read, up to the first that is
    unsupported itself. -/
theorem walk_isBlind_block_operand :
    let reg := (Registry.standard.register "AstStatBlock" .doBlock).remove "AstExprGroup"
    let function : Node := .unmodelled ⟨"AstExprFunction", by decide +kernel⟩ ⟨""⟩ .null
    let group : Node := .group ⟨"?"⟩ function
    let b : Block := ⟨⟨""⟩, false, [.exprStat ⟨""⟩ (.block ⟨"1,0 - 2,3"⟩ true [function])]⟩
    let more : List Node :=
      [.exprStat ⟨""⟩ group, .atom ⟨"3,0 - 3,5"⟩ .breakStat, function, .atom ⟨""⟩ .breakStat]
    let start : Buffer := ⟨#[#[some '-', some '-']]⟩
    let whole := (Context.ofBuffer start).run (walk reg { b with body := b.body ++ more })
    reg.IsBuiltIn ∧ whole.1.buffer.render = "--\ndo\n   end\nbreak" ∧
      whole.1.unsupported = [.ofNode function, .ofNode group, .ofNode function] ∧
      whole.2.toOption = some .unsupported := by
  intro reg function group b more start whole
  have hblock : (Registry.standard.register "AstStatBlock" .doBlock).IsBuiltIn :=
    Registry.isBuiltIn_standard.register _ trivial
  have hreg : reg.IsBuiltIn := hblock.remove _
  have hfirst : ((Context.ofBuffer start).run (walk reg b)).2 = .ok .rendered :=
    eq_ok_of_toOption (by decide +kernel)
  have hwhole := (walk_isBlind hreg b).2.2 start .rendered more hfirst (by decide)
  refine ⟨hreg, ?_⟩
  rw [show whole = _ from hwhole]
  decide +kernel

end Render
end LuauLayout
