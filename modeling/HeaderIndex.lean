import HeaderIndex.CommandLine
import HeaderIndex.Comment.Markup
import HeaderIndex.Comment.Nearest
import HeaderIndex.Comment.Tag
import HeaderIndex.Config
import HeaderIndex.Dump
import HeaderIndex.Expression
import HeaderIndex.Expression.Evaluation
import HeaderIndex.Expression.Parser
import HeaderIndex.Frontend.Kind
import HeaderIndex.Frontend.Message
import HeaderIndex.Frontend.ParsedUnit
import HeaderIndex.Frontend.Recording
import HeaderIndex.Index.Basic
import HeaderIndex.Index.Entity
import HeaderIndex.Index.Text
import HeaderIndex.Json
import HeaderIndex.Json.Printer
import HeaderIndex.Json.Reader
import HeaderIndex.Main
import HeaderIndex.Name
import HeaderIndex.Name.Format
import HeaderIndex.Name.Method
import HeaderIndex.Number
import HeaderIndex.Number.Digits
import HeaderIndex.Number.Literal
import HeaderIndex.Number.Numeral
import HeaderIndex.Number.Shortest
import HeaderIndex.Number.Text
import HeaderIndex.Pattern.Glob
import HeaderIndex.Pattern.Header
import HeaderIndex.Pattern.Regex
import HeaderIndex.Pattern.Regex.Case
import HeaderIndex.Pattern.Regex.Parser
import HeaderIndex.Proofs.CommandLine.Contained
import HeaderIndex.Proofs.Comment.Clean
import HeaderIndex.Proofs.Comment.Decoration
import HeaderIndex.Proofs.Comment.Nearest
import HeaderIndex.Proofs.Comment.Split
import HeaderIndex.Proofs.Dump.Parts
import HeaderIndex.Proofs.Dump.References
import HeaderIndex.Proofs.Dump.RoundTrip
import HeaderIndex.Proofs.Dump.Shape
import HeaderIndex.Proofs.Dump.Standard
import HeaderIndex.Proofs.Dump.Total
import HeaderIndex.Proofs.Expression.Bits
import HeaderIndex.Proofs.Expression.Evaluation
import HeaderIndex.Proofs.Expression.Grammar
import HeaderIndex.Proofs.Expression.Integers
import HeaderIndex.Proofs.Expression.Parser
import HeaderIndex.Proofs.Expression.Written
import HeaderIndex.Proofs.Fallible
import HeaderIndex.Proofs.Index.Closed
import HeaderIndex.Proofs.Index.Growth
import HeaderIndex.Proofs.Index.Masked
import HeaderIndex.Proofs.Index.Whole
import HeaderIndex.Proofs.Json.Accepted
import HeaderIndex.Proofs.Json.Numeral
import HeaderIndex.Proofs.Json.Parts
import HeaderIndex.Proofs.Json.Printable
import HeaderIndex.Proofs.Json.RoundTrip
import HeaderIndex.Proofs.Json.Standard
import HeaderIndex.Proofs.Json.Text
import HeaderIndex.Proofs.Name.Cut
import HeaderIndex.Proofs.Name.Method
import HeaderIndex.Proofs.Name.Reserved
import HeaderIndex.Proofs.Name.RoundTrip
import HeaderIndex.Proofs.Name.Shorten
import HeaderIndex.Proofs.Name.Whole
import HeaderIndex.Proofs.Number.Dumped
import HeaderIndex.Proofs.Number.Integer
import HeaderIndex.Proofs.Number.Quoted
import HeaderIndex.Proofs.Number.Shortest
import HeaderIndex.Proofs.Number.Sign
import HeaderIndex.Proofs.Reader.Behind
import HeaderIndex.Proofs.Reader.Below
import HeaderIndex.Proofs.Reader.Brackets
import HeaderIndex.Proofs.Reader.Closure
import HeaderIndex.Proofs.Reader.Declared
import HeaderIndex.Proofs.Reader.Definitions
import HeaderIndex.Proofs.Reader.Described
import HeaderIndex.Proofs.Reader.Ensures
import HeaderIndex.Proofs.Reader.Enumerators
import HeaderIndex.Proofs.Reader.FieldComments
import HeaderIndex.Proofs.Reader.Fields
import HeaderIndex.Proofs.Reader.First
import HeaderIndex.Proofs.Reader.Forest
import HeaderIndex.Proofs.Reader.Gap
import HeaderIndex.Proofs.Reader.Identity
import HeaderIndex.Proofs.Reader.Inside
import HeaderIndex.Proofs.Reader.Integers
import HeaderIndex.Proofs.Reader.Keeps
import HeaderIndex.Proofs.Reader.Listed
import HeaderIndex.Proofs.Reader.Masked
import HeaderIndex.Proofs.Reader.Methods
import HeaderIndex.Proofs.Reader.Naming
import HeaderIndex.Proofs.Reader.Order
import HeaderIndex.Proofs.Reader.Origin
import HeaderIndex.Proofs.Reader.Parameters
import HeaderIndex.Proofs.Reader.Progress
import HeaderIndex.Proofs.Reader.Quoted
import HeaderIndex.Proofs.Reader.Run
import HeaderIndex.Proofs.Reader.Signatures
import HeaderIndex.Proofs.Reader.Sorts
import HeaderIndex.Proofs.Reader.Step
import HeaderIndex.Proofs.Reader.Top
import HeaderIndex.Proofs.Reader.Visible
import HeaderIndex.Proofs.Reader.Whole
import HeaderIndex.Proofs.Resolve.Arrays
import HeaderIndex.Proofs.Resolve.Chain
import HeaderIndex.Proofs.Resolve.Decay
import HeaderIndex.Proofs.Resolve.Framed
import HeaderIndex.Proofs.Resolve.Masked
import HeaderIndex.Proofs.Resolve.Placeholder
import HeaderIndex.Proofs.Resolve.Pointee
import HeaderIndex.Proofs.Session.Calls
import HeaderIndex.Proofs.Toolchain.Includes
import HeaderIndex.Reader.Action
import HeaderIndex.Reader.Aggregate
import HeaderIndex.Reader.Callable
import HeaderIndex.Reader.Enumeration
import HeaderIndex.Reader.Run
import HeaderIndex.ReservedWords
import HeaderIndex.Resolve
import HeaderIndex.Session
import HeaderIndex.Session.Headers
import HeaderIndex.Text.Case
import HeaderIndex.Text.CaseTable
import HeaderIndex.Text.Digit
import HeaderIndex.Text.IdentifierTable
import HeaderIndex.Text.Occurrence
import HeaderIndex.Text.PrintableTable
import HeaderIndex.Text.Quoted
import HeaderIndex.Text.Ranges
import HeaderIndex.Text.Space
import HeaderIndex.Text.WordTable
import HeaderIndex.Toolchain.Includes
import HeaderIndex.Toolchain.Library
import HeaderIndex.Toolchain.System
