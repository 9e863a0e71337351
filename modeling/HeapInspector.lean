import HeapInspector.Architecture
import HeapInspector.Binary64
import HeapInspector.CommandLine.Arguments
import HeapInspector.CommandLine.Grammar
import HeapInspector.CommandLine.Run
import HeapInspector.Decimal.Shortest
import HeapInspector.Decoder.Array
import HeapInspector.Decoder.ByLayout
import HeapInspector.Decoder.Extent
import HeapInspector.Decoder.PackedText
import HeapInspector.Decoder.RawBytes
import HeapInspector.Decoder.Scalar
import HeapInspector.Decoder.Slots
import HeapInspector.Decoder.Symbol
import HeapInspector.Decoder.TypeDescriptor
import HeapInspector.Description
import HeapInspector.Description.Dump
import HeapInspector.Failure
import HeapInspector.Field
import HeapInspector.FileFault
import HeapInspector.Host.Process
import HeapInspector.Image
import HeapInspector.Image.Builder
import HeapInspector.Inquiry
import HeapInspector.Json
import HeapInspector.Main
import HeapInspector.Memory
import HeapInspector.Object
import HeapInspector.Object.Header
import HeapInspector.Output
import HeapInspector.Proofs.Conduct.Decoders
import HeapInspector.Proofs.Conduct.Inquiry
import HeapInspector.Proofs.Conduct.Introspection
import HeapInspector.Proofs.Conduct.Reads
import HeapInspector.Proofs.Dialogue.Decoders
import HeapInspector.Proofs.Dialogue.Inquiry
import HeapInspector.Proofs.Dialogue.Introspection
import HeapInspector.Proofs.Dialogue.Reads
import HeapInspector.Proofs.Image.Names
import HeapInspector.Proofs.Image.Parts
import HeapInspector.Proofs.Image.Placement
import HeapInspector.Proofs.Image.Ranges
import HeapInspector.Proofs.Image.Segments
import HeapInspector.Proofs.Payloads.Characters
import HeapInspector.Proofs.Payloads.Reading
import HeapInspector.Proofs.Payloads.Slots
import HeapInspector.Proofs.Payloads.Texts
import HeapInspector.Proofs.Registrations
import HeapInspector.Proofs.Rendering.Colours
import HeapInspector.Proofs.Rendering.Outline
import HeapInspector.Proofs.Rendering.Reports
import HeapInspector.Proofs.Rendering.Returns
import HeapInspector.Proofs.Rendering.Snapshot
import HeapInspector.Proofs.Repl.Commands
import HeapInspector.Proofs.Repl.Completion
import HeapInspector.Proofs.Repl.Mistakes
import HeapInspector.Proofs.Repl.Sessions
import HeapInspector.Proofs.Results.Blame
import HeapInspector.Proofs.Results.FieldNames
import HeapInspector.Proofs.Results.Inquiry
import HeapInspector.Proofs.Results.Process
import HeapInspector.Proofs.Results.Reads
import HeapInspector.Proofs.Results.Rejections
import HeapInspector.Proofs.Results.Still
import HeapInspector.Proofs.Results.Storage
import HeapInspector.Proofs.Results.Texts
import HeapInspector.Proofs.Results.Values
import HeapInspector.Proofs.RoundTrip.Arrays
import HeapInspector.Proofs.RoundTrip.BuiltIn
import HeapInspector.Proofs.RoundTrip.ByLayout
import HeapInspector.Proofs.RoundTrip.Descriptors
import HeapInspector.Proofs.RoundTrip.Integers
import HeapInspector.Proofs.RoundTrip.Objects
import HeapInspector.Proofs.RoundTrip.Placements
import HeapInspector.Proofs.SmallIntegers
import HeapInspector.Proofs.Tagged
import HeapInspector.Proofs.Text.Blank
import HeapInspector.Proofs.Text.Flat
import HeapInspector.Proofs.Text.Lowercase
import HeapInspector.Proofs.Text.Order
import HeapInspector.Proofs.Text.Quotations
import HeapInspector.Proofs.TypeKeys
import HeapInspector.Proofs.TypeTable.Edits
import HeapInspector.Proofs.TypeTable.Insertions
import HeapInspector.Proofs.TypeTable.Members
import HeapInspector.Proofs.TypeTable.WordText
import HeapInspector.Proofs.Utf8
import HeapInspector.Proofs.Words
import HeapInspector.Registry
import HeapInspector.Rendering
import HeapInspector.Repl.Backspace
import HeapInspector.Repl.Command
import HeapInspector.Repl.Editing
import HeapInspector.Repl.History
import HeapInspector.Repl.Session
import HeapInspector.Report
import HeapInspector.Snapshot
import HeapInspector.Tagged
import HeapInspector.Text.Blank
import HeapInspector.Text.Cluster
import HeapInspector.Text.Cluster.Table
import HeapInspector.Text.CodeRanges
import HeapInspector.Text.Escaped
import HeapInspector.Text.Lines
import HeapInspector.Text.Literal
import HeapInspector.Text.Literal.Table
import HeapInspector.Text.Lowercase
import HeapInspector.Text.Lowercase.Table
import HeapInspector.Text.Numeral
import HeapInspector.Text.Quoted
import HeapInspector.Text.Style
import HeapInspector.Text.Utf8
import HeapInspector.TypeKey
import HeapInspector.TypeTable
import HeapInspector.TypeTable.Entry
import HeapInspector.TypeTable.Reader
import HeapInspector.TypeTable.WordText
