import LuauLayout.SortedMap
import LuauLayout.Text.Blank
import LuauLayout.Text.Quoted
import LuauLayout.Text.Split
import LuauLayout.Text.Lines
import LuauLayout.Text.Word
import LuauLayout.Text.Fill
import LuauLayout.Outline
import LuauLayout.Number.Digits
import LuauLayout.Number.Double
import LuauLayout.Json.Reader
import LuauLayout.Buffer
import LuauLayout.Node.Decode
import LuauLayout.Node.Outline
import LuauLayout.Document
import LuauLayout.Render.Registry
import LuauLayout.Render.Operator
import LuauLayout.Render.Dispatch
import LuauLayout.Render.Extension
import LuauLayout.Render.Reconstruction
import LuauLayout.LineDiff
import LuauLayout.Cli.Arguments
import LuauLayout.Cli.Store
import LuauLayout.Cli.Console
import LuauLayout.Cli.Report
import LuauLayout.Cli.Command
import LuauLayout.Main
import LuauLayout.Proofs.Node.Traversal
import LuauLayout.Proofs.Render.Standard
import LuauLayout.Proofs.Render.Completeness
import LuauLayout.Proofs.Node.Reading
import LuauLayout.Proofs.Render.Failing
import LuauLayout.Proofs.Buffer.Lines
import LuauLayout.Proofs.Node.Layout
import LuauLayout.Proofs.Render.RoundTrip
import LuauLayout.Proofs.Buffer.Placement
import LuauLayout.Proofs.Buffer.LastWrite
import LuauLayout.Proofs.Buffer.Recovery
import LuauLayout.Proofs.Buffer.InOrder
import LuauLayout.Proofs.Render.Blindness
import LuauLayout.Proofs.Render.Unread
import LuauLayout.Proofs.Render.Stripped
import LuauLayout.Proofs.Render.Halt
import LuauLayout.Proofs.Render.Lookup
import LuauLayout.Proofs.Buffer.Splice
import LuauLayout.Proofs.Buffer.Shape
import LuauLayout.Proofs.Buffer.Checked
import LuauLayout.Proofs.Render.Growth
import LuauLayout.Proofs.Cli.Session
import LuauLayout.Proofs.LineDiff.Distance
import LuauLayout.Proofs.Cli.Comparison
import LuauLayout.Proofs.Buffer.Disjoint
import LuauLayout.Proofs.Render.Separated
import LuauLayout.Proofs.Render.Assignment
import LuauLayout.Proofs.Node.Spelling
import LuauLayout.Proofs.Json.Shape
import LuauLayout.Proofs.Node.Schema
import LuauLayout.Proofs.Node.Decoding
import LuauLayout.Proofs.Json.Integers
import LuauLayout.Proofs.Json.Reading
import LuauLayout.Proofs.Json.RoundTrip
import LuauLayout.Proofs.Node.Dump
import LuauLayout.Proofs.Number.Rounding
import LuauLayout.Proofs.Number.Shortest
import LuauLayout.Proofs.Number.SourceText
import LuauLayout.Proofs.Json.Accuracy
import LuauLayout.Proofs.Render.Constant
import LuauLayout.Proofs.Text.ByteOrder
import LuauLayout.Proofs.Render.Changes
import LuauLayout.Proofs.Node.OutOfRange
import LuauLayout.Proofs.LineDiff.Printed
