import ExprLang.Binding
import ExprLang.Checking
import ExprLang.CommandLine.Arguments
import ExprLang.CommandLine.Invocation
import ExprLang.CommandLine.Running
import ExprLang.Compiled.Code
import ExprLang.Compiled.Program
import ExprLang.Context.Basic
import ExprLang.Context.Memory
import ExprLang.Error
import ExprLang.Evaluation
import ExprLang.Expr.Basic
import ExprLang.Failure
import ExprLang.Function.Handle
import ExprLang.Function.Overload
import ExprLang.Grammar.Expression
import ExprLang.Grammar.Numeral
import ExprLang.Grammar.Reading
import ExprLang.Grammar.StringLiteral
import ExprLang.Grammar.Word
import ExprLang.Json.Basic
import ExprLang.Json.Text
import ExprLang.Library.Casts
import ExprLang.Library.Logic
import ExprLang.Library.Math
import ExprLang.Library.Package
import ExprLang.Library.Patterns
import ExprLang.Library.Standard
import ExprLang.Library.Strings
import ExprLang.Main
import ExprLang.Member
import ExprLang.Numeric.Binary.Basic
import ExprLang.Numeric.Binary.Text
import ExprLang.Numeric.Decimal.Arithmetic
import ExprLang.Numeric.Decimal.Basic
import ExprLang.Numeric.Decimal.Binary
import ExprLang.Numeric.Decimal.Division
import ExprLang.Numeric.Decimal.Text
import ExprLang.Numeric.Digits
import ExprLang.Numeric.Integer
import ExprLang.Numeric.Kind
import ExprLang.Numeric.Number
import ExprLang.Numeric.Rounding
import ExprLang.Operator.Apply
import ExprLang.Operator.Basic
import ExprLang.Operator.Typing
import ExprLang.Options.Basic
import ExprLang.Options.Json
import ExprLang.Pattern.Class
import ExprLang.Pattern.Escape
import ExprLang.Pattern.Program
import ExprLang.Pattern.Property
import ExprLang.Pattern.Reading
import ExprLang.Pattern.Replacement
import ExprLang.Pattern.Room
import ExprLang.Pattern.Search
import ExprLang.Pattern.Syntax
import ExprLang.Surface.Grid
import ExprLang.Surface.Sampling
import ExprLang.Surface.Settings
import ExprLang.Text.Age
import ExprLang.Text.Blank
import ExprLang.Text.ByteRanges
import ExprLang.Text.Case
import ExprLang.Text.Case.Runs
import ExprLang.Text.Category
import ExprLang.Text.Category.Basic
import ExprLang.Text.Category.Letter
import ExprLang.Text.Category.Mark
import ExprLang.Text.Category.Number
import ExprLang.Text.Category.Other
import ExprLang.Text.Category.Punctuation
import ExprLang.Text.Category.Recent
import ExprLang.Text.Category.Symbol
import ExprLang.Text.CharSet
import ExprLang.Text.Folding
import ExprLang.Text.Property
import ExprLang.Text.Property.Basic
import ExprLang.Text.Property.Clusters
import ExprLang.Text.Property.GraphemeBreak
import ExprLang.Text.Property.Identifiers
import ExprLang.Text.Property.Ideographs
import ExprLang.Text.Property.Letters
import ExprLang.Text.Property.Pictures
import ExprLang.Text.Property.SentenceBreak
import ExprLang.Text.Property.Signs
import ExprLang.Text.Property.WordBreak
import ExprLang.Text.Quoted
import ExprLang.Text.Script
import ExprLang.Text.Script.Africa
import ExprLang.Text.Script.America
import ExprLang.Text.Script.EastAsia
import ExprLang.Text.Script.Europe
import ExprLang.Text.Script.General
import ExprLang.Text.Script.MiddleEast
import ExprLang.Text.Script.Shared
import ExprLang.Text.Script.SouthAsia
import ExprLang.Text.Script.SoutheastAsia
import ExprLang.Text.Search
import ExprLang.Typing
import ExprLang.Value.Basic
import ExprLang.Value.Embedded
import ExprLang.Value.Error
import ExprLang.Proofs.Tree
import ExprLang.Proofs.Typing.Conversion
import ExprLang.Proofs.Typing.Operands
import ExprLang.Proofs.Typing.Resolution
import ExprLang.Proofs.Typing.Soundness
import ExprLang.Proofs.Compiled.Agreement
import ExprLang.Proofs.Context.History
import ExprLang.Proofs.Context.Renewal
import ExprLang.Proofs.Compiled.Capture
import ExprLang.Proofs.Compiled.Typed
import ExprLang.Proofs.Function.Selection
import ExprLang.Proofs.Function.Merging
import ExprLang.Proofs.Context.Shadowing
import ExprLang.Proofs.Context.Overloads
import ExprLang.Proofs.Operator.Equality
import ExprLang.Proofs.Operator.TextOrder
import ExprLang.Proofs.Grammar.Reading
import ExprLang.Proofs.Grammar.Words
import ExprLang.Proofs.Grammar.Numerals
import ExprLang.Proofs.Grammar.Literals
import ExprLang.Proofs.Grammar.Steps
import ExprLang.Proofs.Grammar.Closure
import ExprLang.Proofs.Grammar.Legible
import ExprLang.Proofs.Grammar.Rendering
import ExprLang.Proofs.Grammar.Reparse
import ExprLang.Proofs.Precedence
import ExprLang.Proofs.Grammar.Chains
import ExprLang.Proofs.Grammar.Names
import ExprLang.Proofs.Context.Names
import ExprLang.Proofs.Related
import ExprLang.Proofs.Context.Ownership
import ExprLang.Proofs.Context.Spellings
import ExprLang.Proofs.Context.Visible
import ExprLang.Proofs.Context.Lineage
import ExprLang.Proofs.Substitution
import ExprLang.Proofs.Recasing
import ExprLang.Proofs.Grammar.Recasing
import ExprLang.Proofs.Grammar.RecasedLiterals
import ExprLang.Proofs.Grammar.Lockstep
import ExprLang.Proofs.Grammar.Stuck
import ExprLang.Proofs.Grammar.Rewording
import ExprLang.Proofs.Grammar.Lowering
import ExprLang.Proofs.Grammar.Layout
import ExprLang.Proofs.Compiled.Signature
import ExprLang.Proofs.Grammar.Folding
import ExprLang.Proofs.Context.Reach
import ExprLang.Proofs.Casting
import ExprLang.Proofs.Context.Registration
import ExprLang.Proofs.Library.Casts
import ExprLang.Proofs.Numeric.Exact
import ExprLang.Proofs.Numeric.Conversion
import ExprLang.Proofs.Numeric.HalfEven
import ExprLang.Proofs.Operator.IntegerArithmetic
import ExprLang.Proofs.Operator.NumberOrder
import ExprLang.Proofs.Library.DecimalCasts
import ExprLang.Proofs.Library.Calls
import ExprLang.Proofs.Numeric.IntegerText
import ExprLang.Proofs.Library.TextCasts
import ExprLang.Proofs.Library.Remainders
import ExprLang.Proofs.Text.Occurrence
import ExprLang.Proofs.Library.SearchWindows
import ExprLang.Proofs.Library.Searches
import ExprLang.Proofs.Typing.Reporting
import ExprLang.Proofs.Library.Pieces
import ExprLang.Proofs.Grammar.Quoting
import ExprLang.Proofs.Grammar.HardFaults
import ExprLang.Proofs.Grammar.NumeralKinds
import ExprLang.Proofs.Grammar.LiteralSources
import ExprLang.Proofs.Grammar.Termination
import ExprLang.Proofs.Context.Parameters
import ExprLang.Proofs.Surface.Picture
import ExprLang.Proofs.Surface.Sampling
import ExprLang.Proofs.Json.Spelling
import ExprLang.Proofs.Options.JsonForm
import ExprLang.Proofs.Grammar.Stopping
import ExprLang.Value.Conversion
import ExprLang.Numeric.Conversion
