import RuleBook.CharSet
import RuleBook.CommandLine
import RuleBook.Error
import RuleBook.Instant.Basic
import RuleBook.Instant.Calendar
import RuleBook.Instant.Text
import RuleBook.Json.Basic
import RuleBook.Json.Read
import RuleBook.Json.Record
import RuleBook.Json.Write
import RuleBook.Literal.Basic
import RuleBook.Literal.Equality
import RuleBook.Literal.Json
import RuleBook.Literal.RegexLiteral
import RuleBook.Main
import RuleBook.Matching.Compile
import RuleBook.Matching.Duration
import RuleBook.Matching.Predicate
import RuleBook.Notation.Escape
import RuleBook.Notation.Grammar
import RuleBook.Notation.Layout
import RuleBook.Notation.Parse
import RuleBook.Notation.Reader
import RuleBook.Notation.Scalar
import RuleBook.Notation.Write
import RuleBook.Number.Decimal
import RuleBook.Number.Exact
import RuleBook.Operator
import RuleBook.Pointer
import RuleBook.Proofs.CommandLine.Output
import RuleBook.Proofs.Instant.Calendar
import RuleBook.Proofs.Instant.Text
import RuleBook.Proofs.Literal.Equality
import RuleBook.Proofs.Literal.Equivalence
import RuleBook.Proofs.Literal.Json
import RuleBook.Proofs.Literal.Lookup
import RuleBook.Proofs.Literal.Reordering
import RuleBook.Proofs.Literal.Shape
import RuleBook.Proofs.Literal.UniqueKeys
import RuleBook.Proofs.Matching.Compile
import RuleBook.Proofs.Matching.Fields
import RuleBook.Proofs.Matching.Operators
import RuleBook.Proofs.Matching.Reordering
import RuleBook.Proofs.Matching.Selection
import RuleBook.Proofs.Matching.Undefined
import RuleBook.Proofs.Matching.Unresolved
import RuleBook.Proofs.Notation.Container
import RuleBook.Proofs.Notation.Cut
import RuleBook.Proofs.Notation.Decoding
import RuleBook.Proofs.Notation.Document
import RuleBook.Proofs.Notation.Escape
import RuleBook.Proofs.Notation.Exact
import RuleBook.Proofs.Notation.Form
import RuleBook.Proofs.Notation.Json
import RuleBook.Proofs.Notation.LaidOut
import RuleBook.Proofs.Notation.Layout
import RuleBook.Proofs.Notation.Marks
import RuleBook.Proofs.Notation.Passage
import RuleBook.Proofs.Notation.Place
import RuleBook.Proofs.Notation.Reader
import RuleBook.Proofs.Notation.Reading
import RuleBook.Proofs.Notation.Regex
import RuleBook.Proofs.Notation.RoundTrip
import RuleBook.Proofs.Notation.Scalar
import RuleBook.Proofs.Notation.Slashes
import RuleBook.Proofs.Notation.Spacing
import RuleBook.Proofs.Notation.Survival
import RuleBook.Proofs.Notation.Value
import RuleBook.Proofs.Number.Bits
import RuleBook.Proofs.Number.Rounding
import RuleBook.Proofs.Number.Style
import RuleBook.Proofs.Number.Text
import RuleBook.Proofs.Reference.Filling
import RuleBook.Proofs.Reference.Substitution
import RuleBook.Proofs.Rule.Fields
import RuleBook.Proofs.Rule.Operators
import RuleBook.Proofs.Rule.Plan
import RuleBook.Proofs.Rule.Reordering
import RuleBook.Proofs.Rule.Text
import RuleBook.Proofs.Rule.Unresolved
import RuleBook.Proofs.RuleSet.Bulk
import RuleBook.Proofs.RuleSet.Deletion
import RuleBook.Proofs.RuleSet.Growth
import RuleBook.Proofs.RuleSet.Text
import RuleBook.Proofs.Text.Blank
import RuleBook.Proofs.Text.Run
import RuleBook.Proofs.Text.Separator
import RuleBook.Reference
import RuleBook.Regex.Automaton
import RuleBook.Regex.Basic
import RuleBook.Regex.Class
import RuleBook.Regex.Expr
import RuleBook.Regex.Flags
import RuleBook.Regex.Form
import RuleBook.Regex.Look
import RuleBook.Regex.Meaning
import RuleBook.Regex.Pattern
import RuleBook.Regex.Tree
import RuleBook.Regex.Utf8
import RuleBook.Rule.Basic
import RuleBook.Rule.Text
import RuleBook.RuleSet.Basic
import RuleBook.RuleSet.Query
import RuleBook.Settings.Basic
import RuleBook.Settings.Json
import RuleBook.Settings.Layers
import RuleBook.Text.Blank
import RuleBook.Text.Hex
import RuleBook.Text.Separator
import RuleBook.Toml.Basic
import RuleBook.Toml.Overlay
import RuleBook.Toml.Read
import RuleBook.Unicode.Age
import RuleBook.Unicode.Break
import RuleBook.Unicode.CaseFolding
import RuleBook.Unicode.GeneralCategory
import RuleBook.Unicode.Listed
import RuleBook.Unicode.Names
import RuleBook.Unicode.Property
import RuleBook.Unicode.Script
import RuleBook.Unicode.Table
import RuleBook.Proofs.Pointer
import RuleBook.Proofs.Matching.Values
import RuleBook.Proofs.Rule.Candidates
import RuleBook.Proofs.Literal.Sameness
import RuleBook.Proofs.Rule.Addressing
import RuleBook.Proofs.Instant.Shift
import RuleBook.Proofs.Matching.Age
import RuleBook.Proofs.Rule.Comparison
import RuleBook.Proofs.Notation.Arithmetic
import RuleBook.Proofs.Notation.Closing
import RuleBook.Proofs.Notation.Expression
import RuleBook.Proofs.Notation.ScalarText
import RuleBook.Proofs.Rule.Name
