import EditionGuard.Browser.Release
import EditionGuard.Browser.Support
import EditionGuard.CommandLine.Arguments
import EditionGuard.CommandLine.LogFilter
import EditionGuard.CommandLine.Run
import EditionGuard.Edition
import EditionGuard.Exclusion
import EditionGuard.FileKind
import EditionGuard.FileSystem.Basic
import EditionGuard.FileSystem.Walk
import EditionGuard.Gate.Feature
import EditionGuard.Gate.RegexForm
import EditionGuard.Gate.Requirements
import EditionGuard.Gate.Verdict
import EditionGuard.Gate.Violation
import EditionGuard.Json.Reader
import EditionGuard.Json.Record
import EditionGuard.Json.Value
import EditionGuard.Log
import EditionGuard.Main
import EditionGuard.Markup.Builder.Basic
import EditionGuard.Markup.Builder.Body
import EditionGuard.Markup.Builder.Foreign
import EditionGuard.Markup.Builder.Formatting
import EditionGuard.Markup.Builder.Head
import EditionGuard.Markup.Builder.Table
import EditionGuard.Markup.Document
import EditionGuard.Markup.InlineScript
import EditionGuard.Markup.NamedCharacter
import EditionGuard.Markup.Page
import EditionGuard.Markup.Reader
import EditionGuard.Markup.Reference
import EditionGuard.Markup.Token
import EditionGuard.Markup.Tree
import EditionGuard.Options
import EditionGuard.Path
import EditionGuard.Pattern.Bracket
import EditionGuard.Pattern.CharSet
import EditionGuard.Pattern.Escape
import EditionGuard.Pattern.Flags
import EditionGuard.Pattern.Regex
import EditionGuard.Pattern.Syntax
import EditionGuard.Problem
import EditionGuard.Report.Incompatibility
import EditionGuard.Report.Print
import EditionGuard.Report.Record
import EditionGuard.Script.Character
import EditionGuard.Script.Diagnostic
import EditionGuard.Script.Grammar.Basic
import EditionGuard.Script.Grammar.Class
import EditionGuard.Script.Grammar.Expression
import EditionGuard.Script.Grammar.Function
import EditionGuard.Script.Grammar.Module
import EditionGuard.Script.Grammar.Name
import EditionGuard.Script.Grammar.Pattern
import EditionGuard.Script.Grammar.Program
import EditionGuard.Script.Grammar.Statement
import EditionGuard.Script.Grammar.Target
import EditionGuard.Script.IdentifierTable
import EditionGuard.Script.Keyword
import EditionGuard.Script.Scanner
import EditionGuard.Script.Token
import EditionGuard.Script.Tree
import EditionGuard.Session.Basic
import EditionGuard.Session.Configuration
import EditionGuard.Session.Emitted
import EditionGuard.Session.Finding
import EditionGuard.SourceMap.Base64
import EditionGuard.SourceMap.Basic
import EditionGuard.SourceMap.DebugId
import EditionGuard.SourceMap.Locate
import EditionGuard.SourceMap.Mappings
import EditionGuard.SourceMap.Reader
import EditionGuard.SourceMap.Sections
import EditionGuard.SourceMap.SourceName
import EditionGuard.Target
import EditionGuard.Text.Basic
import EditionGuard.Text.Blank
import EditionGuard.Text.Digit
import EditionGuard.Text.Excerpt
import EditionGuard.Text.Paint
import EditionGuard.Text.Position
import EditionGuard.Text.Quoted
import EditionGuard.Text.Ranges
import EditionGuard.Text.Unicode.CategoryTable
import EditionGuard.Text.Unicode.Folding
import EditionGuard.Text.Unicode.Property
import EditionGuard.Text.Unicode.PropertyTable
import EditionGuard.Text.Unicode.ScriptTable
import EditionGuard.Text.Utf8
import EditionGuard.Word
import EditionGuard.Proofs.Edition
import EditionGuard.Proofs.Except
import EditionGuard.Proofs.Gate.EarliestUnmet
import EditionGuard.Proofs.Gate.Occurrences
import EditionGuard.Proofs.Gate.Ladder
import EditionGuard.Proofs.Session.History
import EditionGuard.Proofs.Session.Ledger
import EditionGuard.Proofs.Session.Exclusions
import EditionGuard.Proofs.Text.Split
import EditionGuard.Proofs.Path.Join
import EditionGuard.Proofs.FileSystem.Walk
import EditionGuard.Proofs.Session.Contribution
import EditionGuard.Proofs.Session.Opening
import EditionGuard.Proofs.Session.Emitted
import EditionGuard.Proofs.SourceMap.Attribution
import EditionGuard.Proofs.Text.Cut
import EditionGuard.Proofs.Text.Position
import EditionGuard.Proofs.Session.Place
import EditionGuard.Proofs.CommandLine.Items
import EditionGuard.Proofs.Report.Print
import EditionGuard.Proofs.CommandLine.Run
import EditionGuard.Proofs.CommandLine.Precedence
import EditionGuard.Proofs.Path.Display
import EditionGuard.Proofs.SourceMap.Range
import EditionGuard.Proofs.Session.WellFormed
import EditionGuard.Proofs.Session.Inline
import EditionGuard.Proofs.Markup.ScriptElement
import EditionGuard.Proofs.Path.Extension
import EditionGuard.Proofs.Session.Page
import EditionGuard.Proofs.Gate.Accepted
import EditionGuard.Proofs.Gate.TopLevelAwait
import EditionGuard.Proofs.Text.Search
import EditionGuard.Proofs.Text.Backslash
import EditionGuard.Proofs.Gate.CodePointEscape
import EditionGuard.Proofs.Gate.RegexGroup
import EditionGuard.Proofs.Gate.ClosingComma
import EditionGuard.Proofs.Path.Components
import EditionGuard.Proofs.Path.Cleaning
import EditionGuard.Proofs.SourceMap.SourcePath
import EditionGuard.Proofs.Gate.ImportAttributes
import EditionGuard.Proofs.Text.Slice
import EditionGuard.Proofs.Gate.OperatorPlace
import EditionGuard.Proofs.Browser.Rounding
import EditionGuard.Proofs.Browser.Support
import EditionGuard.Proofs.Target.Query
import EditionGuard.Proofs.Target.ReleaseOrder
import EditionGuard.Proofs.Least
import EditionGuard.Proofs.Browser.NextRelease
import EditionGuard.Proofs.Target.Comparison
import EditionGuard.Proofs.Text.Trim
import EditionGuard.Proofs.Target.Respelling
import EditionGuard.Proofs.Target.Shared
import EditionGuard.Proofs.SourceMap.Order
import EditionGuard.Proofs.SourceMap.Locality
import EditionGuard.Proofs.Text.Utf16
import EditionGuard.Proofs.SourceMap.ColumnUnit
import EditionGuard.Proofs.Path.Stripping
import EditionGuard.Proofs.SourceMap.Address
import EditionGuard.Proofs.Text.Pointer
import EditionGuard.Proofs.Report.Hidden
import EditionGuard.Proofs.Report.Caret
import EditionGuard.Proofs.Text.Frame
import EditionGuard.Proofs.SourceMap.ContentFrame
import EditionGuard.Proofs.Markup.DocumentOrder
import EditionGuard.Proofs.Text.Unpainted
import EditionGuard.Proofs.Report.Colour
import EditionGuard.Proofs.Text.Utf8
import EditionGuard.Proofs.Report.Sink
import EditionGuard.Proofs.Json.Numeral
import EditionGuard.Proofs.Edition.Spelling
import EditionGuard.Proofs.FileSystem.Order
import EditionGuard.Proofs.Session.Listing
import EditionGuard.Proofs.Text.NumberColumn
import EditionGuard.Proofs.Gate.FunctionDepth
import EditionGuard.Proofs.Path.Written
import EditionGuard.Proofs.Path.Normal
