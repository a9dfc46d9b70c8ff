/-
  LuauLayout.Render.Reconstruction

  The source text of a document, and what is missing from it.

  A `Context` is a text under construction together with the nodes reported so
  far; carrying out a rendering changes both, also when the rendering fails. The
  reconstruction of a document carries out the walk over its statements in a
  fresh context.

    * `Context.run`  — carries out a rendering.
    * `Outcome`      — complete, or the nodes that could not be laid out.
    * `reconstruct`  — the reports made, and the text or the failure.
    * `Options`      — whether an incomplete text is acceptable.
-/

import LuauLayout.Render.Dispatch

namespace LuauLayout

/-- Whether all of a document was laid out. -/
inductive Outcome where
  | complete
  /-- These nodes were reported, in this order. -/
  | incomplete (unsupported : List Unsupported)
  deriving DecidableEq, Repr, Inhabited

namespace Outcome

/-- The outcome of a run with these reports. -/
def ofReports : List Unsupported → Outcome
  | [] => .complete
  | u :: rest => .incomplete (u :: rest)

/-- The nodes that could not be laid out. -/
def unsupported : Outcome → List Unsupported
  | .complete => []
  | .incomplete us => us

def isComplete : Outcome → Bool
  | .complete => true
  | .incomplete _ => false

theorem unsupported_ofReports (us : List Unsupported) : (ofReports us).unsupported = us := by
  cases us <;> rfl

theorem isComplete_ofReports (us : List Unsupported) : (ofReports us).isComplete = us.isEmpty := by
  cases us <;> rfl

end Outcome

/-- A text and the outcome it was laid out with. -/
structure Reconstruction where
  text : String
  outcome : Outcome
  deriving DecidableEq, Repr, Inhabited

/-- What the caller of a reconstruction insists on. -/
structure Options where
  /-- Only a complete text will do. -/
  strict : Bool
  deriving DecidableEq, Repr, Inhabited

/-- Whether an outcome is acceptable. -/
def Options.accepts (o : Options) (outcome : Outcome) : Bool := !o.strict || outcome.isComplete

/-- A text under construction, and the nodes reported so far. -/
structure Context where
  buffer : Buffer
  unsupported : List Unsupported
  deriving DecidableEq, Inhabited

namespace Context

/-- Goes on with a text that is there already. -/
def ofBuffer (b : Buffer) : Context := ⟨b, []⟩

/-- Starts with an empty text. -/
def empty : Context := ofBuffer .empty

/-- The context after actions. -/
def performAll (cx : Context) (actions : List Action) : Context :=
  ⟨cx.buffer.performAll actions, cx.unsupported ++ reports actions⟩

/-- Carries out a rendering. -/
def run {α : Type} (cx : Context) (m : Render α) : Context × Except Failure α :=
  (cx.performAll m.actions, m.result)

/-- The text as it stands, with the outcome so far. -/
def finish (cx : Context) : Reconstruction := ⟨cx.buffer.render, .ofReports cx.unsupported⟩

theorem performAll_append (cx : Context) (xs ys : List Action) :
    cx.performAll (xs ++ ys) = (cx.performAll xs).performAll ys := by
  simp [performAll, Buffer.performAll_append, reports_append]

/-- A rendering that goes on after another is carried out in the context the first has left. -/
theorem run_bind_of_ok {α β : Type} {m : Render α} {a : α} (h : m.result = .ok a)
    (f : α → Render β) (cx : Context) : cx.run (m >>= f) = (cx.run m).1.run (f a) := by
  simp [run, Render.bind_of_ok h, performAll_append]

end Context

/-- The reports that laying out a document makes, and its text or the failure. -/
def reconstruct (reg : Registry Renderer) (b : Block) :
    List Unsupported × Except Failure Reconstruction :=
  let (cx, result) := Context.empty.run (Render.walk reg b)
  (cx.unsupported, result.map fun _ => cx.finish)

end LuauLayout
