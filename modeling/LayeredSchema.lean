import LayeredSchema.Assembly.Basic
import LayeredSchema.Assembly.Commands
import LayeredSchema.Assembly.Shape
import LayeredSchema.AttributeType
import LayeredSchema.Bundle
import LayeredSchema.Canonical
import LayeredSchema.Canonical.Item
import LayeredSchema.CaptureBase
import LayeredSchema.Cardinality
import LayeredSchema.Condition.Basic
import LayeredSchema.Condition.Token
import LayeredSchema.Engine.Basic
import LayeredSchema.Engine.TextOperation
import LayeredSchema.Format.Calendar
import LayeredSchema.Format.DatePattern
import LayeredSchema.Format.Iso8601
import LayeredSchema.Format.TextEncoding
import LayeredSchema.Format.TimeFormat
import LayeredSchema.Identifier.Blake3
import LayeredSchema.Identifier.Hex
import LayeredSchema.Identifier.Said
import LayeredSchema.Json.Basic
import LayeredSchema.Json.Decoding
import LayeredSchema.Json.Literal
import LayeredSchema.Json.Outline
import LayeredSchema.Json.Printer
import LayeredSchema.Json.Reader
import LayeredSchema.Number.Basic
import LayeredSchema.Number.Double
import LayeredSchema.Number.Shortest
import LayeredSchema.Ocafile.Basic
import LayeredSchema.Ocafile.Block
import LayeredSchema.Ocafile.Cursor
import LayeredSchema.Ocafile.Error
import LayeredSchema.Ocafile.LogicalLine
import LayeredSchema.Ocafile.Parser
import LayeredSchema.Ocafile.Printer
import LayeredSchema.Overlay.Basic
import LayeredSchema.Overlay.Body
import LayeredSchema.Overlay.Kind
import LayeredSchema.Pattern.Atom
import LayeredSchema.Pattern.Basic
import LayeredSchema.Pattern.Bracket
import LayeredSchema.Pattern.CharSet
import LayeredSchema.Pattern.Flags
import LayeredSchema.Pattern.Layout
import LayeredSchema.Pattern.Machine
import LayeredSchema.Pattern.Property
import LayeredSchema.Pattern.Reader
import LayeredSchema.Pattern.Regex
import LayeredSchema.Pattern.Utf8
import LayeredSchema.Proofs.Assembly.Commands
import LayeredSchema.Proofs.Assembly.Content
import LayeredSchema.Proofs.Assembly.Decoding
import LayeredSchema.Proofs.Assembly.Kept
import LayeredSchema.Proofs.Assembly.Keys
import LayeredSchema.Proofs.Assembly.Meaning
import LayeredSchema.Proofs.Assembly.Overlays
import LayeredSchema.Proofs.Assembly.Reordered
import LayeredSchema.Proofs.Assembly.Rewritten
import LayeredSchema.Proofs.Assembly.Written
import LayeredSchema.Proofs.AttributeType
import LayeredSchema.Proofs.AttributeType.Grammar
import LayeredSchema.Proofs.Bundle
import LayeredSchema.Proofs.Canonical.Deterministic
import LayeredSchema.Proofs.Canonical.Encoding
import LayeredSchema.Proofs.Canonical.Head
import LayeredSchema.Proofs.Canonical.Item
import LayeredSchema.Proofs.Canonical.Length
import LayeredSchema.Proofs.Canonical.Reader
import LayeredSchema.Proofs.Canonical.Shortest
import LayeredSchema.Proofs.CaptureBase
import LayeredSchema.Proofs.Cardinality
import LayeredSchema.Proofs.Condition.Composition
import LayeredSchema.Proofs.Condition.Offsets
import LayeredSchema.Proofs.Condition.Slicing
import LayeredSchema.Proofs.Condition.Spans
import LayeredSchema.Proofs.Condition.Token
import LayeredSchema.Proofs.Contents
import LayeredSchema.Proofs.Engine.ContentAddress
import LayeredSchema.Proofs.Engine.Integrity
import LayeredSchema.Proofs.Engine.JsonRoundTrip
import LayeredSchema.Proofs.Engine.TextRoundTrip
import LayeredSchema.Proofs.Format.DatePattern
import LayeredSchema.Proofs.Format.Positional
import LayeredSchema.Proofs.Format.Shape
import LayeredSchema.Proofs.Format.ShapeSize
import LayeredSchema.Proofs.Format.TimeFormat
import LayeredSchema.Proofs.Identifier.Reading
import LayeredSchema.Proofs.Identifier.Said
import LayeredSchema.Proofs.Json.Decoding
import LayeredSchema.Proofs.Json.Held
import LayeredSchema.Proofs.Json.Normal
import LayeredSchema.Proofs.Ocafile.Agreement
import LayeredSchema.Proofs.Ocafile.Block
import LayeredSchema.Proofs.Ocafile.Builder
import LayeredSchema.Proofs.Ocafile.Cursor
import LayeredSchema.Proofs.Ocafile.CutAttribute
import LayeredSchema.Proofs.Ocafile.CutKey
import LayeredSchema.Proofs.Ocafile.Indentation
import LayeredSchema.Proofs.Ocafile.Joining
import LayeredSchema.Proofs.Ocafile.Layout
import LayeredSchema.Proofs.Ocafile.LogicalLine
import LayeredSchema.Proofs.Ocafile.Parser
import LayeredSchema.Proofs.Ocafile.Positions
import LayeredSchema.Proofs.Ocafile.Reading
import LayeredSchema.Proofs.Ocafile.Slicing
import LayeredSchema.Proofs.Ocafile.Slicing.Cursor
import LayeredSchema.Proofs.Ocafile.Slicing.Line
import LayeredSchema.Proofs.Ocafile.Slicing.Value
import LayeredSchema.Proofs.Ocafile.Tree
import LayeredSchema.Proofs.Outcome
import LayeredSchema.Proofs.Overlay.Completion
import LayeredSchema.Proofs.Overlay.Payload
import LayeredSchema.Proofs.Overlay.Reserved
import LayeredSchema.Proofs.Overlay.Wire
import LayeredSchema.Proofs.Pattern.Anchored
import LayeredSchema.Proofs.Pattern.BracketLocality
import LayeredSchema.Proofs.Pattern.Growth
import LayeredSchema.Proofs.Pattern.Locality
import LayeredSchema.Proofs.Pattern.Matching
import LayeredSchema.Proofs.Pattern.ReadingLocality
import LayeredSchema.Proofs.Pattern.Runs
import LayeredSchema.Proofs.Registry.Loading
import LayeredSchema.Proofs.Registry.Names
import LayeredSchema.Proofs.Registry.Runs
import LayeredSchema.Proofs.Registry.TagLookup
import LayeredSchema.Proofs.Registry.Tags
import LayeredSchema.Proofs.Table
import LayeredSchema.Proofs.Text.Blank
import LayeredSchema.Proofs.Text.Bytes
import LayeredSchema.Proofs.Validation.Commuting
import LayeredSchema.Proofs.Validation.Conformance
import LayeredSchema.Proofs.Validation.Enforcement
import LayeredSchema.Proofs.Validation.Findings
import LayeredSchema.Proofs.Validation.Integrity
import LayeredSchema.Proofs.Validation.Language
import LayeredSchema.Proofs.Validation.Locality
import LayeredSchema.Proofs.Validation.Order
import LayeredSchema.Proofs.Validation.Rules
import LayeredSchema.Registry.Basic
import LayeredSchema.Registry.Directory
import LayeredSchema.Table
import LayeredSchema.Text.Ascii
import LayeredSchema.Text.Blank
import LayeredSchema.Text.Quoted
import LayeredSchema.Unicode.Additions
import LayeredSchema.Unicode.Age
import LayeredSchema.Unicode.Break
import LayeredSchema.Unicode.Category
import LayeredSchema.Unicode.Folding
import LayeredSchema.Unicode.Script
import LayeredSchema.Unicode.Sets
import LayeredSchema.Unicode.Table
import LayeredSchema.Validation.Data
import LayeredSchema.Validation.Report
import LayeredSchema.Validation.Rules
import LayeredSchema.Validation.Semantic
