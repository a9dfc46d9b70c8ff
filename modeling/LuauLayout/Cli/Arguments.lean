/-
  LuauLayout.Cli.Arguments

  What the words of a command line ask for.

  Words are taken one by one, from left to right, and the first that settles the
  matter does so: a word that cannot stand where it stands is a usage error, and
  a request for the version or the help text is granted even if what follows
  makes no sense. Flags may be joined in one word (`-vv`, `-vo out`). The word
  `--` makes all words behind it names of files.

    * `Item.ofWord`       — an option, or a plain word.
    * `Invocation.take`   — one more word for a command.
    * `Request.ofWords?`  — the request; `none` is a usage error.
-/

import LuauLayout.Text.Blank

namespace LuauLayout
namespace Cli

/-- A command with everything it needs. -/
inductive Command where
  /-- Lays out a document, into a file or on the output stream. -/
  | render (file : String) (output : Option String) (strict : Bool)
  /-- Compares a laid-out document with a source text. -/
  | diff (file source : String)
  /-- Shows the statements of a document. -/
  | ast (file : String)
  /-- Lists the tags that have a renderer. -/
  | listKinds
  deriving DecidableEq, Repr, Inhabited

/-- What a command line asks for. -/
inductive Request where
  | perform (c : Command)
  | version
  | help
  deriving DecidableEq, Repr, Inhabited

/-! ## Words -/

/-- A word by its form. -/
inductive Item where
  /-- The word `--`. -/
  | endOfOptions
  /-- A name behind two dashes, and what stands behind an equals sign. -/
  | long (name : String) (value : Option String)
  /-- Letters behind one dash. -/
  | short (letters : List Char)
  | plain (text : String)
  deriving DecidableEq, Repr

/-- The form of a word. A single dash is a plain word. -/
def Item.ofWord (word : String) : Item :=
  match word.toList with
  | ['-', '-'] => .endOfOptions
  | '-' :: '-' :: cs =>
    match Text.cut? '=' cs with
    | some (name, value) => .long (String.ofList name) (some (String.ofList value))
    | none => .long (String.ofList cs) none
  | ['-'] => .plain word
  | '-' :: cs => .short cs
  | _ => .plain word

/-- The names of the commands. -/
inductive CommandName where
  | render
  | diff
  | ast
  | listKinds
  deriving DecidableEq, Repr, Inhabited

namespace CommandName

/-- The command of a name. -/
def ofWord? (word : String) : Option CommandName :=
  match word with
  | "render" => some .render
  | "diff" => some .diff
  | "ast" => some .ast
  | "list-kinds" => some .listKinds
  | _ => none

/-- How many files a command needs. -/
def fileCount : CommandName → Nat
  | .render => 1
  | .diff => 2
  | .ast => 1
  | .listKinds => 0

end CommandName

/-! ## The words of one command -/

/-- What a command has been given so far. -/
structure Invocation where
  name : CommandName
  files : List String
  output : Option String
  strict : Bool
  /-- The next word is the name of the output file. -/
  awaiting : Bool
  /-- Every further word is the name of a file. -/
  filesOnly : Bool
  deriving DecidableEq, Repr, Inhabited

/-- What a word leads to. -/
inductive Progress where
  | onward (i : Invocation)
  | help
  | usageError
  deriving DecidableEq, Repr

namespace Invocation

/-- A command that has been given nothing yet. -/
def ofName (name : CommandName) : Invocation := ⟨name, [], none, false, false, false⟩

/-- One more file; its name must not be empty. -/
def addFile (i : Invocation) (file : String) : Progress :=
  if file = "" ∨ i.name.fileCount ≤ i.files.length then .usageError
  else .onward { i with files := i.files ++ [file] }

/-- The output file, which may be given once and must have a name. -/
def setOutput (i : Invocation) (file : String) : Progress :=
  if i.name ≠ .render ∨ i.output.isSome ∨ file = "" then .usageError
  else .onward { i with output := some file, awaiting := false }

/-- The next word shall be the output file. -/
def awaitOutput (i : Invocation) : Progress :=
  if i.name ≠ .render ∨ i.output.isSome then .usageError
  else .onward { i with awaiting := true }

/-- Asks for strictness, which may be done once. -/
def setStrict (i : Invocation) : Progress :=
  if i.name ≠ .render ∨ i.strict then .usageError else .onward { i with strict := true }

/-- Letters behind one dash. The name of the output file may follow its letter at once, with or
    without an equals sign. -/
def takeLetters (i : Invocation) : List Char → Progress
  | [] => .onward i
  | 'v' :: rest => i.takeLetters rest
  | 'h' :: _ => .help
  | ['o'] => i.awaitOutput
  | 'o' :: '=' :: file => i.setOutput (String.ofList file)
  | 'o' :: file => i.setOutput (String.ofList file)
  | _ => .usageError

/-- One more word. -/
def take (i : Invocation) (word : String) : Progress :=
  if i.filesOnly then i.addFile word
  else
    match Item.ofWord word with
    | .plain text => if i.awaiting then i.setOutput text else i.addFile text
    | item =>
      -- no option can be the name of a file
      if i.awaiting then .usageError
      else
        match item with
        | .endOfOptions => .onward { i with filesOnly := true }
        | .long "verbose" none => .onward i
        | .long "help" none => .help
        | .long "strict" none => i.setStrict
        | .long "output" none => i.awaitOutput
        | .long "output" (some file) => i.setOutput file
        | .short letters => i.takeLetters letters
        | _ => .usageError

/-- The command, once all words have been taken. -/
def command? (i : Invocation) : Option Command :=
  if i.awaiting then none
  else
    match i.name, i.files with
    | .render, [file] => some (.render file i.output i.strict)
    | .diff, [file, source] => some (.diff file source)
    | .ast, [file] => some (.ast file)
    | .listKinds, [] => some .listKinds
    | _, _ => none

/-- The request of an invocation and the words that follow. -/
def request? (i : Invocation) : List String → Option Request
  | [] => i.command?.map .perform
  | word :: rest =>
    match i.take word with
    | .onward next => next.request? rest
    | .help => some .help
    | .usageError => none

end Invocation

/-! ## The words before a command -/

namespace Request

/-- Letters behind one dash, before a command: `none` if they settle nothing. -/
def takeLetters : List Char → Option (Option Request)
  | [] => none
  | 'v' :: rest => takeLetters rest
  | 'V' :: _ => some (some .version)
  | 'h' :: _ => some (some .help)
  | _ => some none

/-- The commands about which help may be asked. -/
def isHelpTopic (word : String) : Bool := word == "help" || (CommandName.ofWord? word).isSome

/-- The request of a command line. -/
def ofWords? : List String → Option Request
  | [] => none
  | word :: rest =>
    match Item.ofWord word with
    | .long "verbose" none => ofWords? rest
    | .long "version" none => some .version
    | .long "help" none => some .help
    | .short letters =>
      match takeLetters letters with
      | some settled => settled
      | none => ofWords? rest
    | .plain name =>
      if name = "help" then
        match rest with
        | [] => some .help
        | [topic] => if isHelpTopic topic then some .help else none
        | _ => none
      else (CommandName.ofWord? name).bind fun n => (Invocation.ofName n).request? rest
    | _ => none

end Request
end Cli
end LuauLayout
