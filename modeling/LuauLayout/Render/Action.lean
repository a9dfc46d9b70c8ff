/-
  LuauLayout.Render.Action

  What rendering does: a list of actions, in order.

  Rendering never looks at the text it has written. So what it does is a plain
  list of actions, made from the nodes alone, and whoever holds a buffer carries
  them out afterwards. A rendering that fails has still done all that came
  before the failure.

    * `Action`        — a positional write, an append, or a report.
    * `Render α`      — actions, and then a value or a failure. A monad: the
      second rendering's actions follow the first's.
    * `Buffer.perform`— the effect of an action on a buffer.
-/

import LuauLayout.Buffer
import LuauLayout.Failure

namespace LuauLayout

/-- One step of a rendering. -/
inductive Action where
  | write (text : String) (place : Coordinate) (mode : WriteMode)
  | append (text : String)
  | report (node : Unsupported)
  deriving DecidableEq, Repr

/-- What was done, and how it ended. -/
structure Render (α : Type) where
  actions : List Action
  result : Except Failure α

namespace Render

/-- Does nothing and ends with a value. -/
protected def pure {α : Type} (a : α) : Render α := ⟨[], .ok a⟩

/-- Does the first and, unless it failed, the second with its value. -/
protected def bind {α β : Type} (m : Render α) (f : α → Render β) : Render β :=
  match m.result with
  | .error e => ⟨m.actions, .error e⟩
  | .ok a => ⟨m.actions ++ (f a).actions, (f a).result⟩

instance : Monad Render where
  pure := Render.pure
  bind := Render.bind

/-- Does one action. -/
def act (a : Action) : Render Unit := ⟨[a], .ok ()⟩

/-- Writes in either mode. -/
def writeIn (mode : WriteMode) (text : String) (place : Coordinate) : Render Unit :=
  act (.write text place mode)

/-- Writes in place of what stands there. -/
def write (text : String) (place : Coordinate) : Render Unit := writeIn .overwrite text place

/-- Writes behind the last cell of the text. -/
def append (text : String) : Render Unit := act (.append text)

/-- Reports a node. -/
def report (n : Node) : Render Unit := act (.report (.ofNode n))

/-- Ends with what has been computed. -/
def ofExcept {α : Type} (r : Except Failure α) : Render α := ⟨[], r⟩

/-- Ends with a failure. -/
def fail {α : Type} (e : Failure) : Render α := ⟨[], .error e⟩

/-- Writes at the start of the span that a location names. -/
def writeAtStart (l : Location) (text : String) : Render Unit := do
  let place ← ofExcept l.start
  write text place

/-! ## Laws -/

theorem ext {α : Type} {m n : Render α} (ha : m.actions = n.actions) (hr : m.result = n.result) :
    m = n := by
  cases m
  cases n
  simp_all

theorem pure_bind {α β : Type} (a : α) (f : α → Render β) : (pure a >>= f) = f a := rfl

theorem bind_of_ok {α β : Type} {m : Render α} {a : α} (h : m.result = .ok a)
    (f : α → Render β) : (m >>= f) = ⟨m.actions ++ (f a).actions, (f a).result⟩ := by
  simp [bind, Render.bind, h]

theorem bind_of_error {α β : Type} {m : Render α} {e : Failure} (h : m.result = .error e)
    (f : α → Render β) : (m >>= f) = ⟨m.actions, .error e⟩ := by
  simp [bind, Render.bind, h]

theorem bind_pure {α : Type} (m : Render α) : (m >>= pure) = m := by
  cases h : m.result with
  | error e => exact ext (by rw [bind_of_error h]) (by rw [bind_of_error h, h])
  | ok a => exact ext (by rw [bind_of_ok h]; simp [pure, Render.pure]) (by rw [bind_of_ok h, h]; rfl)

theorem bind_assoc {α β γ : Type} (m : Render α) (f : α → Render β) (g : β → Render γ) :
    (m >>= f) >>= g = m >>= fun a => f a >>= g := by
  cases hm : m.result with
  | error e =>
    rw [bind_of_error hm, bind_of_error hm]
    rfl
  | ok a =>
    rw [bind_of_ok hm, bind_of_ok hm]
    cases hf : (f a).result with
    | error e =>
      rw [bind_of_error hf]
      rfl
    | ok b =>
      rw [bind_of_ok hf]
      simp [bind, Render.bind]

instance : LawfulMonad Render :=
  LawfulMonad.mk' Render (fun m => bind_pure m) (fun a f => pure_bind a f)
    (fun m f g => bind_assoc m f g)

end Render

namespace Buffer

/-- The effect of an action; a report leaves the text alone. -/
def perform (b : Buffer) : Action → Buffer
  | .write text place mode => b.writeAt text place mode
  | .append text => b.append text
  | .report _ => b

/-- The effect of actions, in order. -/
def performAll (b : Buffer) (actions : List Action) : Buffer := actions.foldl perform b

theorem performAll_append (b : Buffer) (xs ys : List Action) :
    b.performAll (xs ++ ys) = (b.performAll xs).performAll ys := List.foldl_append

end Buffer

/-- The nodes that actions report, in order. -/
def reports (actions : List Action) : List Unsupported :=
  actions.filterMap fun
    | .report u => some u
    | _ => none

theorem reports_append (xs ys : List Action) : reports (xs ++ ys) = reports xs ++ reports ys :=
  List.filterMap_append

end LuauLayout
