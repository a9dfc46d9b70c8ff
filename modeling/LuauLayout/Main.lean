/-
  LuauLayout.Main

  The program: carries out the steps of a command line on the system.
-/

import LuauLayout.Cli.Command

namespace LuauLayout

/-- The number of a system's answer, which some calls give with a negative sign. -/
def answerNumber (code : UInt32) : UInt32 := if code < 0x80000000 then code else 0 - code

/-- What went wrong with a file, from the system's answer. -/
def FileFault.ofAnswer : IO.Error → FileFault
  | .noFileOrDirectory _ _ _ => .notFound
  | .inappropriateType _ code _ => if answerNumber code = 21 then .isDirectory else .notDirectory
  | e@(.invalidArgument _ code _) =>
    if answerNumber code = 36 then .nameTooLong else .other e.toString
  | e => .other e.toString

namespace Cli

/-- Carries out steps on the system. -/
def Console.perform {α : Type} : Console α → IO α
  | .done a => return a
  | .read path next => do
    let answer ←
      try
        let bytes ← IO.FS.readBinFile path
        pure <| match String.fromUTF8? bytes with
          | some text => .ok text
          | none => .error .notText
      catch e => pure (.error (FileFault.ofAnswer e))
    (next answer).perform
  | .write path text next => do
    let answer ←
      try
        IO.FS.writeFile path text
        pure (.ok ())
      catch e => pure (.error (FileFault.ofAnswer e))
    (next answer).perform
  | .print text next => do
    IO.print text
    next.perform
  | .complain text next => do
    IO.eprint text
    next.perform

end Cli
end LuauLayout

open LuauLayout.Cli in
/-- Carries out a command line, and exits with its code. -/
def main (words : List String) : IO UInt32 := do
  let terminal ← IO.getEnv "TERM"
  let objection ← IO.getEnv "NO_COLOR"
  let colours := coloursWanted fun name =>
    if name = "TERM" then terminal else if name = "NO_COLOR" then objection else none
  return (← (run colours words).perform).toUInt32
