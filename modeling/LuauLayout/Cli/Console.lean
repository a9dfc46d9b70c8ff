/-
  LuauLayout.Cli.Console

  What a command does to the world around it: it reads and writes files, and
  prints on two streams.

  A `Console` is the list of its steps, where a step that is answered goes on
  with the answer. It can be carried out by the system, or on a `Session`: a store
  of files and what has been printed so far.

    * `read`, `write`, `print`, `complain` — the steps.
    * `Console.runOn` — carries out the steps on a session.
-/

import LuauLayout.Cli.Store

namespace LuauLayout
namespace Cli

/-- Steps, and then a value. -/
inductive Console (α : Type) where
  | done (a : α)
  | read (path : String) (next : Except FileFault String → Console α)
  | write (path text : String) (next : Except FileFault Unit → Console α)
  | print (text : String) (next : Console α)
  | complain (text : String) (next : Console α)

namespace Console

variable {α β γ : Type}

/-- The steps of the first, and then those of the second with its value. -/
protected def bind (m : Console α) (f : α → Console β) : Console β :=
  match m with
  | .done a => f a
  | .read path next => .read path fun answer => (next answer).bind f
  | .write path text next => .write path text fun answer => (next answer).bind f
  | .print text next => .print text (next.bind f)
  | .complain text next => .complain text (next.bind f)

instance : Monad Console where
  pure := .done
  bind := Console.bind

/-- The text of a file. -/
def readFile (path : String) : Console (Except FileFault String) := .read path .done

/-- Makes or replaces a file. -/
def writeFile (path text : String) : Console (Except FileFault Unit) := .write path text .done

/-- Prints on the output stream. -/
def out (text : String) : Console Unit := .print text (.done ())

/-- Prints on the error stream. -/
def err (text : String) : Console Unit := .complain text (.done ())

end Console

/-- The files, and what has been printed on either stream. -/
structure Session where
  store : Store
  output : String
  errors : String
  deriving DecidableEq, Repr, Inhabited

namespace Session

/-- The start of a session with these files. -/
def ofStore (s : Store) : Session := ⟨s, "", ""⟩

end Session

namespace Console

variable {α β γ : Type}

/-- Carries out the steps on a session. -/
def runOn (s : Session) : Console α → Session × α
  | .done a => (s, a)
  | .read path next => (next (s.store.read path)).runOn s
  | .write path text next =>
    match s.store.write path text with
    | .ok store => (next (.ok ())).runOn ⟨store, s.output, s.errors⟩
    | .error fault => (next (.error fault)).runOn s
  | .print text next => next.runOn ⟨s.store, s.output ++ text, s.errors⟩
  | .complain text next => next.runOn ⟨s.store, s.output, s.errors ++ text⟩

/-! ## Laws -/

theorem bind_pure (m : Console α) : (m >>= pure) = m := by
  induction m with
  | done a => rfl
  | read path next ih => exact congrArg (Console.read path) (funext ih)
  | write path text next ih => exact congrArg (Console.write path text) (funext ih)
  | print text next ih => exact congrArg (Console.print text) ih
  | complain text next ih => exact congrArg (Console.complain text) ih

theorem bind_assoc (m : Console α) (f : α → Console β) (g : β → Console γ) :
    (m >>= f) >>= g = m >>= fun a => f a >>= g := by
  induction m with
  | done a => rfl
  | read path next ih => exact congrArg (Console.read path) (funext ih)
  | write path text next ih => exact congrArg (Console.write path text) (funext ih)
  | print text next ih => exact congrArg (Console.print text) ih
  | complain text next ih => exact congrArg (Console.complain text) ih

instance : LawfulMonad Console :=
  LawfulMonad.mk' Console (fun m => bind_pure m) (fun _ _ => rfl) (fun m f g => bind_assoc m f g)

/-- Steps after others are carried out in the session that the first have left. -/
theorem runOn_bind (m : Console α) (f : α → Console β) (s : Session) :
    (m >>= f).runOn s = (f (m.runOn s).2).runOn (m.runOn s).1 := by
  induction m generalizing s with
  | done a => rfl
  | read path next ih => exact ih (s.store.read path) s
  | write path text next ih =>
    change (Console.write path text fun answer => (next answer).bind f).runOn s = _
    simp only [runOn]
    split
    · exact ih _ _
    · exact ih _ _
  | print text next ih => exact ih _
  | complain text next ih => exact ih _

end Console
end Cli
end LuauLayout
