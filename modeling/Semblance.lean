import Semblance.Binary64.Exponential
import Semblance.Binary64.Whole
import Semblance.CharSet
import Semblance.Cli.Arguments
import Semblance.Cli.Report
import Semblance.Cli.Run
import Semblance.Closeness
import Semblance.Confidence
import Semblance.Decimal.Fixed
import Semblance.Decimal.Notation
import Semblance.Decimal.Reader
import Semblance.Decimal.Shortest
import Semblance.Entries
import Semblance.Execution
import Semblance.Expr.Builtins
import Semblance.Expr.Eval
import Semblance.Expr.Lexer
import Semblance.Expr.Parser
import Semblance.Expr.Remainder
import Semblance.Expr.Scope
import Semblance.Expr.Token
import Semblance.Expr.Tree
import Semblance.Json.Document
import Semblance.Json.Numeral
import Semblance.Json.Reader
import Semblance.Json.Writer
import Semblance.Knowledge
import Semblance.Limits
import Semblance.Main
import Semblance.Matcher
import Semblance.Matcher.LiteralSet
import Semblance.Pattern
import Semblance.Pattern.Compile
import Semblance.Pattern.Error
import Semblance.RangeSpec
import Semblance.Regex
import Semblance.Regex.ByteSequence
import Semblance.Regex.Classes
import Semblance.Regex.Delimited
import Semblance.Regex.Footprint
import Semblance.Regex.Form
import Semblance.Regex.LiteralTrie
import Semblance.Regex.Meaning
import Semblance.Regex.Reader
import Semblance.Regex.Search
import Semblance.Regex.Tree
import Semblance.Rule
import Semblance.Rule.Document
import Semblance.RuleSet
import Semblance.Schema
import Semblance.Schema.Expression
import Semblance.Score
import Semblance.Text.Bytes
import Semblance.Text.Casing
import Semblance.Text.Classes
import Semblance.Text.Quoted
import Semblance.Unicode.Age
import Semblance.Unicode.Binary
import Semblance.Unicode.Casing
import Semblance.Unicode.Category
import Semblance.Unicode.Later
import Semblance.Unicode.Names
import Semblance.Unicode.Property
import Semblance.Unicode.Script
import Semblance.Unicode.Segmentation
import Semblance.Value
import Semblance.Value.Coercion
import Semblance.Value.Dump
import Semblance.Value.Equality
import Semblance.Value.Number
import Semblance.Proofs.Binary64.Comparison
import Semblance.Proofs.Binary64.Conversion
import Semblance.Proofs.Binary64.Counts
import Semblance.Proofs.Binary64.Decimals
import Semblance.Proofs.Binary64.Difference
import Semblance.Proofs.Binary64.Distance
import Semblance.Proofs.Binary64.Finite
import Semblance.Proofs.Binary64.Integers
import Semblance.Proofs.Binary64.Monotone
import Semblance.Proofs.Binary64.Parts
import Semblance.Proofs.Binary64.Rounding
import Semblance.Proofs.Binary64.Scaling
import Semblance.Proofs.Binary64.Sum
import Semblance.Proofs.CharSet
import Semblance.Proofs.Cli.Reports
import Semblance.Proofs.Cli.Runs
import Semblance.Proofs.Cli.StandardInput
import Semblance.Proofs.Cli.Table
import Semblance.Proofs.Closeness
import Semblance.Proofs.Closeness.Linear
import Semblance.Proofs.Decimal.RoundTrip
import Semblance.Proofs.Decimal.Shortest
import Semblance.Proofs.Entries
import Semblance.Proofs.Execution.Audit
import Semblance.Proofs.Execution.Bounds
import Semblance.Proofs.Execution.Composition
import Semblance.Proofs.Execution.Overflow
import Semblance.Proofs.Execution.Run
import Semblance.Proofs.Execution.Skipped
import Semblance.Proofs.Execution.Symmetry
import Semblance.Proofs.Expr.Access
import Semblance.Proofs.Expr.Blanks
import Semblance.Proofs.Expr.Boundaries
import Semblance.Proofs.Expr.Completeness
import Semblance.Proofs.Expr.Correctness
import Semblance.Proofs.Expr.Coverage
import Semblance.Proofs.Expr.Depth
import Semblance.Proofs.Expr.Extension
import Semblance.Proofs.Expr.Fields
import Semblance.Proofs.Expr.Grammar
import Semblance.Proofs.Expr.Limit
import Semblance.Proofs.Expr.Literals
import Semblance.Proofs.Expr.Nesting
import Semblance.Proofs.Expr.Overlap
import Semblance.Proofs.Expr.Progress
import Semblance.Proofs.Expr.Recursion
import Semblance.Proofs.Expr.References
import Semblance.Proofs.Expr.Scanning
import Semblance.Proofs.Expr.Siblings
import Semblance.Proofs.Expr.Soundness
import Semblance.Proofs.Expr.Steps
import Semblance.Proofs.Matcher.Backtracking
import Semblance.Proofs.Matcher.Equality
import Semblance.Proofs.Matcher.Fit
import Semblance.Proofs.Matcher.Growth
import Semblance.Proofs.Matcher.LiteralClasses
import Semblance.Proofs.Matcher.LiteralSet
import Semblance.Proofs.Matcher.Verdicts
import Semblance.Proofs.Pattern.Arguments
import Semblance.Proofs.Pattern.BrokenLeaf
import Semblance.Proofs.Pattern.Choice
import Semblance.Proofs.Pattern.Errors
import Semblance.Proofs.Pattern.Growth
import Semblance.Proofs.Pattern.Positions
import Semblance.Proofs.Pattern.Registration
import Semblance.Proofs.Pattern.Replacement
import Semblance.Proofs.Pattern.Shapes
import Semblance.Proofs.Pattern.StringSchema
import Semblance.Proofs.Regex.Delimited
import Semblance.Proofs.Rule.ExactMatch
import Semblance.Proofs.Rule.RangeCall
import Semblance.Proofs.Rule.RangeDisplay
import Semblance.Proofs.Rule.RangeText
import Semblance.Proofs.Rule.ScorerText
import Semblance.Proofs.RuleSet.Faults
import Semblance.Proofs.RuleSet.History
import Semblance.Proofs.RuleSet.Loading
import Semblance.Proofs.Score
import Semblance.Proofs.Text.Classes
import Semblance.Proofs.Text.Spans
import Semblance.Proofs.Traversal
import Semblance.Proofs.Value.Classes
import Semblance.Proofs.Value.Coercion
import Semblance.Proofs.Value.Equality
import Semblance.Proofs.Value.Number
import Semblance.Proofs.Value.Positions
import Semblance.Proofs.Value.Wholes
