import TextGrammar.Alternatives
import TextGrammar.Arithmetic.Chain
import TextGrammar.Arithmetic.Flat
import TextGrammar.Arithmetic.Operator
import TextGrammar.Arithmetic.Tree
import TextGrammar.Blueprint.Basic
import TextGrammar.Blueprint.Build
import TextGrammar.Blueprint.Function
import TextGrammar.Blueprint.Value
import TextGrammar.ConstructionError
import TextGrammar.Cursor
import TextGrammar.Failure
import TextGrammar.Field
import TextGrammar.Grammar.Basic
import TextGrammar.Grammar.Derived
import TextGrammar.Lexical
import TextGrammar.Nesting
import TextGrammar.Outcome
import TextGrammar.Parser.Alternation
import TextGrammar.Parser.Basic
import TextGrammar.Parser.Character
import TextGrammar.Parser.Deferred
import TextGrammar.Parser.Pairing
import TextGrammar.Parser.Recursion
import TextGrammar.Parser.Repetition
import TextGrammar.Parser.Separated
import TextGrammar.Parser.Sequence
import TextGrammar.Proofs.Expression
import TextGrammar.Proofs.Lexemes
import TextGrammar.Proofs.Progress
import TextGrammar.Proofs.Reading
import TextGrammar.Proofs.Recursion
import TextGrammar.Proofs.Separated
import TextGrammar.Proofs.Table.Agreement
import TextGrammar.Proofs.Table.Lenient
import TextGrammar.Proofs.Table.Strict
import TextGrammar.Table
import TextGrammar.Text.CodePoint
import TextGrammar.Text.DefaultIgnorable
import TextGrammar.Text.GraphemeExtend
import TextGrammar.Text.Quoted
import TextGrammar.Text.Unprintable
import TextGrammar.Proofs.Grammar.Tracking
import TextGrammar.Proofs.Grammar.Placement
import TextGrammar.Proofs.SeparatedRuns
import TextGrammar.Proofs.Table.Overflow
import TextGrammar.Proofs.Grammar.Unfolding
import TextGrammar.Proofs.CommittedList
import TextGrammar.Proofs.Failing
import TextGrammar.Proofs.Grammar.Provenance
import TextGrammar.Proofs.LoopBounds
import TextGrammar.Proofs.OperatorChain
import TextGrammar.Proofs.MaximalRepetition
import TextGrammar.Proofs.Factoring
import TextGrammar.Proofs.FlatExpression
import TextGrammar.Proofs.DecimalLiterals
import TextGrammar.Proofs.ExpectedText
import TextGrammar.Proofs.FieldStream
import TextGrammar.Proofs.ExpressionFailure
import TextGrammar.Proofs.Nesting
import TextGrammar.Proofs.Deferral
import TextGrammar.Proofs.Succession
import TextGrammar.Proofs.OrderedChoice
import TextGrammar.Proofs.Keywords
import TextGrammar.Proofs.Table.Columns
import TextGrammar.Proofs.Laws
import TextGrammar.Proofs.LongestRuns
import TextGrammar.Proofs.CursorOffset
import TextGrammar.Proofs.CursorWalk
