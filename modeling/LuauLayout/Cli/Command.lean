/-
  LuauLayout.Cli.Command

  The commands.

  A command ends with an exit code, or with a failure that is reported on the
  error stream. Every node that is not laid out is warned about before anything
  is printed.

    * `Command.program` — the steps of a command.
    * `Command.run`     — the same, with its failure reported.
    * `run`             — a whole command line.
-/

import LuauLayout.Cli.Arguments
import LuauLayout.Cli.Console
import LuauLayout.Cli.Report
import LuauLayout.LineDiff
import LuauLayout.Render.Reconstruction

namespace LuauLayout
namespace Cli

/-- The exit code of a command that has done its work. -/
def exitOk : Nat := 0

/-- The exit code of a failure, and of texts that differ. -/
def exitFailure : Nat := 1

/-- The exit code of a usage error, and of a text that is not complete enough. -/
def exitRefused : Nat := 2

/-- Steps that may end with a failure. -/
abbrev Program := ExceptT Failure Console

namespace Program

/-- The text of a file. -/
def read (path : String) : Program String :=
  ExceptT.mk do return (← Console.readFile path).mapError (.file path)

/-- Makes or replaces a file. -/
def write (path text : String) : Program Unit :=
  ExceptT.mk do return (← Console.writeFile path text).mapError (.file path)

/-- Prints on the output stream. -/
def out (text : String) : Program Unit := ExceptT.lift (Console.out text)

/-- Prints on the error stream. -/
def err (text : String) : Program Unit := ExceptT.lift (Console.err text)

/-- Goes on with what has been computed. -/
def ofExcept {α : Type} (r : Except Failure α) : Program α := ExceptT.mk (pure r)

/-- The document in a file. -/
def load (file : String) : Program Block := do
  let text ← read file
  ofExcept (Block.ofText text)

/-- The reconstruction of the document in a file, with the warnings on it. -/
def rebuild (colours : Bool) (file : String) : Program Reconstruction := do
  let block ← load file
  let (reports, result) := reconstruct .standard block
  for u in reports do
    err (u.warning colours)
  ofExcept result

end Program

/-! ## Commands -/

/-- Lays out a document. -/
def renderFile (colours : Bool) (file : String) (output : Option String) (options : Options) :
    Program Nat := do
  let r ← Program.rebuild colours file
  match output with
  | some path => Program.write path (r.text ++ "\n")
  | none => Program.out (r.text ++ "\n")
  -- the text is there by now, acceptable or not
  if options.accepts r.outcome then return exitOk
  else do
    Program.err <| "reconstruction is partial: " ++ r.outcome.unsupported.length.repr
      ++ " unsupported node(s)\n"
    return exitRefused

/-- Compares a laid-out document with a source text, whose line ends at the very end do not
    count. -/
def diffFile (colours : Bool) (file source : String) : Program Nat := do
  let r ← Program.rebuild colours file
  -- warnings on the document come first, whether there is a source or not
  let text ← Program.read source
  let expected := Text.trimLineEnd text
  if LineDiff.distance expected r.text = 0 then do
    Program.out ("reconstruction matches " ++ source ++ "\n")
    return exitOk
  else do
    Program.out (LineDiff.print colours (LineDiff.groups expected r.text))
    return exitFailure

/-- The statements of a document, each with its number, name, and outline. -/
def statements (number : Nat) : List Node → String
  | [] => ""
  | n :: rest =>
    "\nStatement " ++ number.repr ++ ": " ++ n.display ++ "\n" ++ n.outline.pretty ++ "\n"
      ++ statements (number + 1) rest

/-- Shows the statements of a document. -/
def showFile (file : String) : Program Nat := do
  let block ← Program.load file
  Program.out (if block.body.isEmpty then "(empty)\n" else statements 1 block.body)
  return exitOk

/-- Lists the tags that have a renderer. -/
def listRegistry (reg : Registry Renderer) : Program Nat := do
  Program.out (String.join (reg.list.map fun kind => "  " ++ kind ++ "\n"))
  return exitOk

namespace Command

/-- The steps of a command. -/
def program (colours : Bool) : Command → Program Nat
  | .render file output strict => renderFile colours file output ⟨strict⟩
  | .diff file source => diffFile colours file source
  | .ast file => showFile file
  | .listKinds => listRegistry .standard

/-- The steps of a command, with its failure reported, and the exit code. -/
def run (colours : Bool) (c : Command) : Console Nat := do
  match ← (c.program colours).run with
  | .ok code => return code
  | .error f => do
    Console.err f.report
    return exitFailure

end Command

/-! ## The command line -/

/-- The version of the program. -/
def versionText : String := "luau-reconstruct 0.1.0\n"

/-- How the program is used. -/
def usageText : String :=
  "Rebuild Luau source text from a position-annotated JSON AST.\n\n" ++
  "Usage: luau-reconstruct [-v] <COMMAND>\n\n" ++
  "Commands:\n" ++
  "  render [-o OUTPUT] [--strict] FILE   Reconstruct source text from an AST dump\n" ++
  "  diff FILE SOURCE                     Reconstruct and diff the result\n" ++
  "  ast FILE                             Show the decoded node tree\n" ++
  "  list-kinds                           List node kinds with a registered renderer\n"

/-- The steps of a command line, and the exit code. -/
def run (colours : Bool) (words : List String) : Console Nat :=
  match Request.ofWords? words with
  | some (.perform c) => c.run colours
  | some .version => do
    Console.out versionText
    return exitOk
  | some .help => do
    Console.out usageText
    return exitOk
  | none => do
    Console.err usageText
    return exitRefused

end Cli
end LuauLayout
