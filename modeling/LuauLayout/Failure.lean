/-
  LuauLayout.Failure

  What stops a run, and what is merely reported.

  A `Failure` ends a rendering or a loading outright. An `Unsupported` node is
  reported and halts the sequence that holds it; the rest of the text is still
  laid out. Both are causes; their wording is in the functions below:

    * `message` — the headline.
    * `code`    — a stable name of the kind of failure.
    * `help?`   — a hint, where there is one.
    * `cause?`  — the failure underneath, where there is one.
-/

import LuauLayout.Node.Decode
import LuauLayout.Node.Outline

namespace LuauLayout

/-- Why a file could not be read or written. -/
inductive FileFault where
  | notFound
  | isDirectory
  /-- A file stands where the path needs a directory. -/
  | notDirectory
  /-- A name in the path, or the path itself, is longer than the system allows. -/
  | nameTooLong
  | notText
  /-- Any other answer of the system, in its words. -/
  | other (message : String)
  deriving DecidableEq, Repr

/-- What stops a run. -/
inductive Failure where
  /-- A location had to be read and names no span. -/
  | malformedSpan (location : Location) (fault : SpanFault)
  /-- A renderer was registered under a tag that is not its own. -/
  | kindMismatch (expected found : String)
  /-- A value is no node because it has no tag. -/
  | untagged
  /-- The root of a document is no block. -/
  | badRoot (found : String)
  /-- A document is no JSON text. -/
  | badText
  /-- The members of a node do not fit its form. -/
  | badData (fault : DataFault)
  /-- A file could not be read or written. -/
  | file (path : String) (fault : FileFault)

/-! ## Wording -/

namespace Json

/-- A value inside a message about its type. -/
def found : Json → String
  | .null => "null"
  | .bool true => "boolean `true`"
  | .bool false => "boolean `false`"
  | .number (.integer i) => "integer `" ++ String.ofList (JsonNumber.integerChars i) ++ "`"
  | .number (.double x) =>
    "floating point `" ++ String.ofList (JsonNumber.double x).chars ++ "`"
  | .text s => "string " ++ Text.quote s
  | .list _ => "sequence"
  | .object _ => "map"

end Json

/-- An expectation inside a message. -/
def Wanted.message : Wanted → String
  | .text => "a string"
  | .bool => "a boolean"
  | .number => "f64"
  | .list => "a sequence"
  | .binding => "struct LocalBinding"

/-- The headline for a value without a tag. -/
def untaggedMessage : String := "invalid AST node: node is missing its `type` tag"

/-- The headline for data that does not decode. -/
def undecodableMessage : String := "could not decode AST JSON"

namespace DataFault

/-- What does not fit, in words. -/
def message : DataFault → String
  | .missingField name => "missing field `" ++ name ++ "`"
  | .invalidType v wanted => "invalid type: " ++ v.found ++ ", expected " ++ wanted.message
  | .tooShort n => "invalid length " ++ n.repr ++ ", expected struct LocalBinding with 3 elements"
  | .tooLong n => "invalid length " ++ n.repr ++ ", expected fewer elements in array"
  | .untaggedChild => untaggedMessage
  | .undecodableChild => undecodableMessage

end DataFault

/-- The words of the system for a fault. -/
def FileFault.message : FileFault → String
  | .notFound => "No such file or directory (os error 2)"
  | .isDirectory => "Is a directory (os error 21)"
  | .notDirectory => "Not a directory (os error 20)"
  | .nameTooLong => "File name too long (os error 36)"
  | .notText => "stream did not contain valid UTF-8"
  | .other message => message

namespace Failure

/-- The failure of a value that is no node. -/
def ofNode : NodeFault → Failure
  | .untagged => .untagged
  | .data fault => .badData fault

/-- The headline. -/
def message : Failure → String
  | .malformedSpan l fault => "malformed span `" ++ l.text ++ "`: " ++ fault.message
  | .kindMismatch expected found =>
    "renderer for `" ++ expected ++ "` was handed a `" ++ found ++ "` node"
  | .untagged => untaggedMessage
  | .badRoot found => "AST document root must be an `AstStatBlock`, found `" ++ found ++ "`"
  | .badText => undecodableMessage
  | .badData _ => undecodableMessage
  | .file path _ => "could not read `" ++ path ++ "`"

/-- The name of the kind of failure. -/
def code : Failure → String
  | .malformedSpan _ _ => "luau_reconstruct::malformed_span"
  | .kindMismatch _ _ => "luau_reconstruct::kind_mismatch"
  | .untagged => "luau_reconstruct::invalid_node"
  | .badRoot _ => "luau_reconstruct::bad_root"
  | .badText => "luau_reconstruct::json"
  | .badData _ => "luau_reconstruct::json"
  | .file _ _ => "luau_reconstruct::io"

/-- A hint. -/
def help? : Failure → Option String
  | .malformedSpan _ _ => some "expected `row,col - row,col`"
  | .kindMismatch _ _ => some "a custom renderer was registered under the wrong kind tag"
  | .badRoot _ => some "pass the JSON produced by `luau --ast`, or a bare block node"
  | _ => none

/-- The failure underneath. -/
def cause? : Failure → Option String
  | .badText => some "syntax"
  | .badData fault => some fault.message
  | .file _ fault => some fault.message
  | _ => none

end Failure

/-! ## Locations that have to be read -/

namespace Location

/-- The span that a location names, or the failure that carries the location. -/
def span (l : Location) : Except Failure Span := l.read.mapError (.malformedSpan l)

/-- The start of the span. The end has to be well formed too. -/
def start (l : Location) : Except Failure Coordinate := l.span.map Span.start

end Location

/-- A result that has a value is that value. Failures cannot be compared, but values often can. -/
theorem eq_ok_of_toOption {ε α : Type} {r : Except ε α} {a : α} (h : r.toOption = some a) :
    r = .ok a := by
  cases r with
  | error e => cases h
  | ok b => exact congrArg Except.ok (Option.some.inj h)

/-! ## Reports -/

/-- A node for which nothing is registered. -/
structure Unsupported where
  kind : String
  location : String
  /-- The node itself, as `Node.describe` gives it. -/
  detail : String
  deriving DecidableEq, Repr, Inhabited

namespace Unsupported

/-- The report on a node. -/
def ofNode (n : Node) : Unsupported := ⟨n.kind, n.location.text, n.describe⟩

/-- The headline of the report. -/
def message (u : Unsupported) : String :=
  "Unknown node type: " ++ u.kind ++ " at " ++ u.location

/-- The name of this kind of report. -/
def code : String := "luau_reconstruct::unsupported_node"

/-- The hint. -/
def help (u : Unsupported) : String :=
  "register a renderer for `" ++ u.kind ++ "` to reconstruct this node"

end Unsupported
end LuauLayout
