/-
  LuauLayout.Proofs.Cli.Session

  What the commands do to a session.

  A program is run on a session up to its first failure. Its steps read the
  store, and change the session in three ways only: a file is written, a text is
  put behind what is on the output stream, or one behind what is on the error
  stream. So what a command does is said in one equation, over three functions
  of the store it finds:

    * `Store.document`, `Store.reconstruction`, `Store.warnings` — the document
      in a file, its text, and the warnings on the way.
    * `Program.runOn`                     — the steps of a program on a session.
    * `runOn_renderFile`, `runOn_diffFile` — laying out into a file, and
      comparing with one.
    * `Command.runOn_run`                 — a command with its failure reported.
-/

import LuauLayout.Cli.Command

namespace LuauLayout
namespace Cli

/-! ## What a store holds -/

namespace Store

/-- The document in a file. -/
def document (s : Store) (file : String) : Except Failure Block :=
  ((s.read file).mapError (.file file)).bind Block.ofText

/-- The reconstruction of the document in a file. -/
def reconstruction (s : Store) (file : String) : Except Failure Reconstruction :=
  (s.document file).bind fun block => (reconstruct .standard block).2

/-- The warnings on the nodes that are not laid out. -/
def warnings (s : Store) (colours : Bool) (file : String) : String :=
  match s.document file with
  | .ok block => String.join ((reconstruct .standard block).1.map (Unsupported.warning colours))
  | .error _ => ""

/-! Of the store only the text of the file matters. -/

section Congruence

variable {s t : Store} {file : String} (h : s.read file = t.read file)

include h

theorem document_congr : s.document file = t.document file := by
  rw [document, document, h]

theorem reconstruction_congr : s.reconstruction file = t.reconstruction file := by
  rw [reconstruction, reconstruction, document_congr h]

theorem warnings_congr (colours : Bool) : s.warnings colours file = t.warnings colours file := by
  rw [warnings, warnings, document_congr h]

end Congruence

end Store

/-! ## Streams -/

namespace Session

/-- The session after a text on the output stream. -/
def print (s : Session) (text : String) : Session := ⟨s.store, s.output ++ text, s.errors⟩

/-- The session after a text on the error stream. -/
def complain (s : Session) (text : String) : Session := ⟨s.store, s.output, s.errors ++ text⟩

/-- The session with other files. -/
def withStore (s : Session) (store : Store) : Session := ⟨store, s.output, s.errors⟩

@[simp] theorem store_complain (s : Session) (text : String) : (s.complain text).store = s.store :=
  rfl

@[simp] theorem store_withStore (s : Session) (store : Store) : (s.withStore store).store = store :=
  rfl

@[simp] theorem complain_empty (s : Session) : s.complain "" = s := by
  rw [complain, String.append_empty]

theorem complain_append (s : Session) (first second : String) :
    s.complain (first ++ second) = (s.complain first).complain second := by
  simp only [complain, String.append_assoc]

end Session

/-! ## Steps -/

namespace Program

variable {α β : Type}

/-- Carries out the steps on a session, up to the first failure. -/
def runOn (s : Session) (p : Program α) : Session × Except Failure α := Console.runOn s p.run

/-- The second program is run on what the first has left, if that has not failed. -/
theorem runOn_bind (p : Program α) (f : α → Program β) (s : Session) :
    (p >>= f).runOn s =
      match p.runOn s with
      | (left, .ok a) => (f a).runOn left
      | (left, .error e) => (left, .error e) := by
  -- underneath, the second program stands behind a match on the result of the first
  show Console.runOn s (p.run >>= _) = _
  rw [Console.runOn_bind, runOn]
  cases Console.runOn s p.run with
  | mk left result =>
    cases result with
    | ok a => rfl
    | error e => rfl

@[simp] theorem runOn_pure (s : Session) (a : α) : (pure a : Program α).runOn s = (s, .ok a) := rfl

@[simp] theorem runOn_ofExcept (s : Session) (r : Except Failure α) :
    (ofExcept r).runOn s = (s, r) := rfl

@[simp] theorem runOn_out (s : Session) (text : String) :
    (out text).runOn s = (s.print text, .ok ()) := rfl

@[simp] theorem runOn_err (s : Session) (text : String) :
    (err text).runOn s = (s.complain text, .ok ()) := rfl

@[simp] theorem runOn_read (s : Session) (path : String) :
    (read path).runOn s = (s, (s.store.read path).mapError (.file path)) := rfl

theorem runOn_write (s : Session) (path text : String) :
    (write path text).runOn s =
      match s.store.write path text with
      | .ok store => (s.withStore store, .ok ())
      | .error fault => (s, .error (.file path fault)) := by
  show Console.runOn s (.write path text _) = _
  rw [Console.runOn]
  cases s.store.write path text with
  | ok store => rfl
  | error fault => rfl

@[simp] theorem runOn_load (s : Session) (file : String) :
    (load file).runOn s = (s, s.store.document file) := by
  rw [load, runOn_bind, runOn_read, Store.document]
  cases s.store.read file with
  | error fault => rfl
  | ok text => rfl

/-- Texts on the error stream, one after the other. -/
theorem runOn_forIn_err {ε : Type} (text : ε → String) (es : List ε) (s : Session) :
    (forIn es PUnit.unit fun e _ => do
      err (text e)
      return ForInStep.yield PUnit.unit : Program PUnit).runOn s =
      (s.complain (String.join (es.map text)), .ok PUnit.unit) := by
  induction es generalizing s with
  | nil => simp
  | cons e rest ih =>
    rw [List.forIn_cons, runOn_bind, runOn_bind, runOn_err, List.map_cons, String.join_cons,
      Session.complain_append]
    exact ih (s.complain (text e))

/-- A reconstruction changes nothing but what is on the error stream. -/
theorem runOn_rebuild (colours : Bool) (file : String) (s : Session) :
    (rebuild colours file).runOn s =
      (s.complain (s.store.warnings colours file), s.store.reconstruction file) := by
  rw [rebuild, runOn_bind, runOn_load, Store.warnings, Store.reconstruction]
  cases s.store.document file with
  | error e => simp [Except.bind]
  | ok block =>
    -- the steps that are left are the loop over the reports, and then the result
    show Program.runOn s (forIn _ _ _ >>= _) = _
    rw [runOn_bind, runOn_forIn_err]
    exact runOn_ofExcept _ _

end Program

/-! ## Commands -/

/-- Laying out into a file: the file is written even if the text is then refused, and is not
    touched if there is no text. -/
theorem runOn_renderFile (colours : Bool) (file path : String) (options : Options) (s : Session) :
    (renderFile colours file (some path) options).runOn s =
      let left := s.complain (s.store.warnings colours file)
      match s.store.reconstruction file with
      | .error e => (left, .error e)
      | .ok r =>
        match s.store.write path (r.text ++ "\n") with
        | .error fault => (left, .error (.file path fault))
        | .ok store =>
          if options.accepts r.outcome then (left.withStore store, .ok exitOk)
          else ((left.withStore store).complain ("reconstruction is partial: "
            ++ r.outcome.unsupported.length.repr ++ " unsupported node(s)\n"), .ok exitRefused) := by
  rw [renderFile, Program.runOn_bind, Program.runOn_rebuild]
  cases s.store.reconstruction file with
  | error e => rfl
  | ok r =>
    dsimp only
    rw [Program.runOn_bind, Program.runOn_write, Session.store_complain]
    cases s.store.write path (r.text ++ "\n") with
    | error fault => rfl
    | ok store =>
      cases options.accepts r.outcome with
      | false =>
        -- the file is in the store already when the refusal is told
        show Program.runOn _ (Program.err _ >>= _) = _
        rw [Program.runOn_bind, Program.runOn_err]
        rfl
      | true => rfl

/-- Comparing with a file: the text of the file counts without the line ends at its end, the
    reconstruction with them. -/
theorem runOn_diffFile (colours : Bool) (file source : String) (s : Session) :
    (diffFile colours file source).runOn s =
      let left := s.complain (s.store.warnings colours file)
      match s.store.reconstruction file with
      | .error e => (left, .error e)
      | .ok r =>
        match s.store.read source with
        | .error fault => (left, .error (.file source fault))
        | .ok text =>
          if LineDiff.distance (Text.trimLineEnd text) r.text = 0 then
            (left.print ("reconstruction matches " ++ source ++ "\n"), .ok exitOk)
          else (left.print (LineDiff.print colours
            (LineDiff.groups (Text.trimLineEnd text) r.text)), .ok exitFailure) := by
  rw [diffFile, Program.runOn_bind, Program.runOn_rebuild]
  cases s.store.reconstruction file with
  | error e => rfl
  | ok r =>
    dsimp only
    rw [Program.runOn_bind, Program.runOn_read, Session.store_complain]
    cases s.store.read source with
    | error fault => rfl
    | ok text =>
      dsimp only [Except.mapError]
      split
      · rw [Program.runOn_bind, Program.runOn_out]
        rfl
      · rw [Program.runOn_bind, Program.runOn_out]
        rfl

/-- A command ends with the exit code of its steps, or with the report on their failure. -/
theorem Command.runOn_run (colours : Bool) (c : Command) (s : Session) :
    (c.run colours).runOn s =
      match (c.program colours).runOn s with
      | (left, .ok code) => (left, code)
      | (left, .error f) => (left.complain f.report, exitFailure) := by
  rw [Command.run, Console.runOn_bind, Program.runOn]
  cases Console.runOn s (c.program colours).run with
  | mk left result =>
    cases result with
    | ok code => rfl
    | error f => rfl

end Cli
end LuauLayout
