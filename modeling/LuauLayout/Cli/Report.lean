/-
  LuauLayout.Cli.Report

  What is written to the error stream: the reports on failures, and the
  warnings on nodes that were not laid out.

    * `Failure.report`     — code, headline, the failure underneath, and hint.
    * `Unsupported.warning`— the headline and, on the next line, the node itself.
    * `coloursWanted`      — whether the environment asks for a coloured terminal.
-/

import LuauLayout.Failure
import LuauLayout.Text.Fill

namespace LuauLayout

/-- The width of a report, in columns. -/
def reportWidth : Nat := 78

/-- The report on a failure, with an empty line at its end. -/
def Failure.report (f : Failure) : String :=
  let cause :=
    match f.cause? with
    | some cause => Text.fill "  ╰─▶ " "      " reportWidth cause ++ "\n"
    | none => ""
  let help :=
    match f.help? with
    | some help => Text.fill "  help: " "        " (reportWidth - 2) help ++ "\n"
    | none => ""
  f.code ++ "\n\n" ++ Text.fill "  × " "  │ " reportWidth f.message ++ "\n" ++ cause ++ help ++ "\n"

/-- The warning on a node that was not laid out. -/
def Unsupported.warning (colours : Bool) (u : Unsupported) : String :=
  (if colours then "\x1b[0m\x1b[1m\x1b[33mwarning\x1b[0m" else "warning")
    ++ ": " ++ u.message ++ "\n  " ++ u.detail ++ "\n"

namespace Cli

/-- Whether an environment asks for colours: it names a terminal that is not a plain one, and has
    no objection. -/
def coloursWanted (environment : String → Option String) : Bool :=
  match environment "TERM" with
  | none => false
  | some terminal => terminal != "dumb" && (environment "NO_COLOR").isNone

end Cli
end LuauLayout
