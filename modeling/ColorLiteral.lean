import ColorLiteral.Binary64.Basic
import ColorLiteral.Binary64.DecimalText
import ColorLiteral.Binary64.HexText
import ColorLiteral.Binary64.Shortest
import ColorLiteral.Color.Exact
import ColorLiteral.Color.Hex
import ColorLiteral.Color.Names
import ColorLiteral.Color.Rgba
import ColorLiteral.Color.Space
import ColorLiteral.Color.Variant
import ColorLiteral.CommandLine.Options
import ColorLiteral.CommandLine.Run
import ColorLiteral.CommandLine.Word
import ColorLiteral.Config.Error
import ColorLiteral.Config.Host
import ColorLiteral.Config.Loader
import ColorLiteral.Config.Request
import ColorLiteral.Config.ValueText
import ColorLiteral.Diagnostic.Basic
import ColorLiteral.Diagnostic.Render
import ColorLiteral.Encoding
import ColorLiteral.Encoding.Chinese
import ColorLiteral.Encoding.CodePage
import ColorLiteral.Encoding.Escape
import ColorLiteral.Encoding.Iso2022
import ColorLiteral.Encoding.Japanese
import ColorLiteral.Encoding.Korean
import ColorLiteral.Encoding.Name
import ColorLiteral.Encoding.Punycode
import ColorLiteral.Encoding.Table
import ColorLiteral.Encoding.Table.Big5
import ColorLiteral.Encoding.Table.CodePage
import ColorLiteral.Encoding.Table.Gb
import ColorLiteral.Encoding.Table.Jis
import ColorLiteral.Encoding.Table.Ks
import ColorLiteral.Encoding.Unicode
import ColorLiteral.Encoding.Unit
import ColorLiteral.Encoding.Utf7
import ColorLiteral.Environment
import ColorLiteral.Expansion.Basic
import ColorLiteral.Expr
import ColorLiteral.FileTree
import ColorLiteral.Invocation
import ColorLiteral.Journal.Event
import ColorLiteral.Journal.Resolving
import ColorLiteral.Journal.Topics
import ColorLiteral.Json.Automaton
import ColorLiteral.Json.Basic
import ColorLiteral.Json.Printer
import ColorLiteral.Json.Relaxed
import ColorLiteral.Json.Strict
import ColorLiteral.Literal
import ColorLiteral.Main
import ColorLiteral.Outcome
import ColorLiteral.ParseError
import ColorLiteral.Path
import ColorLiteral.Resolution
import ColorLiteral.Session.Action
import ColorLiteral.Session.Basic
import ColorLiteral.Session.Emission
import ColorLiteral.Session.Expansion
import ColorLiteral.Span
import ColorLiteral.Suggestion
import ColorLiteral.Surface.Packaged
import ColorLiteral.Surface.Table
import ColorLiteral.Template
import ColorLiteral.Text.Basic
import ColorLiteral.Text.Blank
import ColorLiteral.Text.Case
import ColorLiteral.Text.CaseTable
import ColorLiteral.Text.Digit
import ColorLiteral.Text.Letter
import ColorLiteral.Text.Quoted
import ColorLiteral.Token.Basic
import ColorLiteral.Token.Interpolation
import ColorLiteral.Token.Lexer
import ColorLiteral.Token.StringLiteral
import ColorLiteral.Proofs.Text.Cut
import ColorLiteral.Proofs.Text.Hiding
import ColorLiteral.Proofs.Text.LastLine
import ColorLiteral.Proofs.Text.Line
import ColorLiteral.Proofs.Text.LineAt
import ColorLiteral.Proofs.Text.Order
import ColorLiteral.Proofs.Text.Trim
import ColorLiteral.Proofs.Token.Layout
import ColorLiteral.Proofs.Token.Coverage
import ColorLiteral.Proofs.Token.Mark
import ColorLiteral.Proofs.Token.Stop
import ColorLiteral.Proofs.Token.Defect
import ColorLiteral.Proofs.Token.Reach
import ColorLiteral.Proofs.Token.Relaid
import ColorLiteral.Proofs.Token.Written
import ColorLiteral.Proofs.Token.BlockContent
import ColorLiteral.Proofs.Token.LineContent
import ColorLiteral.Proofs.Token.Closing
import ColorLiteral.Proofs.Invocation.Grammar
import ColorLiteral.Proofs.Invocation.Parsing
import ColorLiteral.Proofs.Invocation.Spans
import ColorLiteral.Proofs.Invocation.Alike
import ColorLiteral.Proofs.Invocation.Written
import ColorLiteral.Proofs.Invocation.Wording
import ColorLiteral.Proofs.Binary64.Rounding
import ColorLiteral.Proofs.Color.Hexadecimal
import ColorLiteral.Proofs.Color.Bytes
import ColorLiteral.Proofs.Literal.Decimal
import ColorLiteral.Proofs.Literal.Reading
import ColorLiteral.Proofs.Literal.Channel
import ColorLiteral.Proofs.Resolution.Spelling
import ColorLiteral.Proofs.Resolution.Blame
import ColorLiteral.Proofs.Resolution.Alike
import ColorLiteral.Proofs.Template.Plain
import ColorLiteral.Proofs.Surface.Packaged
import ColorLiteral.Proofs.Config.Keys
import ColorLiteral.Proofs.Config.Memory
import ColorLiteral.Proofs.Session.Uses
import ColorLiteral.Proofs.Session.Agreement
import ColorLiteral.Proofs.Session.Timely
import ColorLiteral.Proofs.Session.Calls
import ColorLiteral.Proofs.Session.Blocks
import ColorLiteral.Proofs.Session.Remembering
import ColorLiteral.Proofs.Session.Offering
import ColorLiteral.Proofs.Session.Batch
import ColorLiteral.Proofs.Session.Warnings
import ColorLiteral.Proofs.Session.RoundTrip
import ColorLiteral.Proofs.Config.Confinement
import ColorLiteral.Proofs.Session.Confinement
import ColorLiteral.Proofs.Session.Journal
import ColorLiteral.Proofs.Session.Spellings
import ColorLiteral.Proofs.Session.Settings
import ColorLiteral.Proofs.Json.Scanning
import ColorLiteral.Proofs.Json.Printed
import ColorLiteral.Proofs.Json.Numerals
import ColorLiteral.Proofs.Json.DistinctKeys
import ColorLiteral.Proofs.Binary64.Bounded
import ColorLiteral.Proofs.Color.Finite
import ColorLiteral.Proofs.Color.Hue
import ColorLiteral.Proofs.Color.Tint
import ColorLiteral.Proofs.Surface.Lines
import ColorLiteral.Proofs.Surface.Check
import ColorLiteral.Proofs.CommandLine.Documents
import ColorLiteral.Proofs.CommandLine.Streams
import ColorLiteral.Proofs.Diagnostic.Rendering
import ColorLiteral.Proofs.Suggestion.CommonSubsequence
import ColorLiteral.Proofs.Suggestion.FirstBest
import ColorLiteral.Proofs.Color.Gamut
import ColorLiteral.Proofs.Color.Turns
import ColorLiteral.Proofs.Session.Templates
import ColorLiteral.Proofs.Binary64.Order
import ColorLiteral.Proofs.Color.Clamp
import ColorLiteral.Proofs.Binary64.Value
import ColorLiteral.Proofs.Color.HueRange
import ColorLiteral.Proofs.Binary64.Decimal
import ColorLiteral.Proofs.Literal.Notation
import ColorLiteral.Proofs.Token.Numeral
import ColorLiteral.Proofs.Literal.Agreement
import ColorLiteral.Proofs.Literal.AlphaRange
