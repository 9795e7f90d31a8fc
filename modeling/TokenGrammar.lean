import TokenGrammar.Index
import TokenGrammar.Fault
import TokenGrammar.Decimal.Binary64
import TokenGrammar.Decimal.Shortest
import TokenGrammar.Text.Ranges
import TokenGrammar.Text.Letters
import TokenGrammar.Text.Hidden
import TokenGrammar.Text.LetterCase
import TokenGrammar.Text.Numerals
import TokenGrammar.Text.Character
import TokenGrammar.Text.Quoted
import TokenGrammar.Text.Number
import TokenGrammar.Text.Line
import TokenGrammar.Datum.Basic
import TokenGrammar.Datum.Render
import TokenGrammar.Datum.Order
import TokenGrammar.Datum.Arithmetic
import TokenGrammar.Source
import TokenGrammar.Span
import TokenGrammar.Failure
import TokenGrammar.Results
import TokenGrammar.Run
import TokenGrammar.Pattern.Basic
import TokenGrammar.Pattern.Reader
import TokenGrammar.Pattern.Match
import TokenGrammar.Parser.Basic
import TokenGrammar.Parser.Repeat
import TokenGrammar.Parser.Fold
import TokenGrammar.Parser.Regex
import TokenGrammar.Parser.Entry
import TokenGrammar.Grammar.Basic
import TokenGrammar.Grammar.Leaves
import TokenGrammar.Expr
import TokenGrammar.Rule
import TokenGrammar.Demo
import TokenGrammar.Main
import TokenGrammar.Proofs.Window
import TokenGrammar.Proofs.Correspondence
import TokenGrammar.Proofs.Combinators
import TokenGrammar.Proofs.Parts
import TokenGrammar.Proofs.Containment
import TokenGrammar.Proofs.Translation
import TokenGrammar.Proofs.Iteration
import TokenGrammar.Proofs.Cap
import TokenGrammar.Proofs.Depth
import TokenGrammar.Proofs.Halting
import TokenGrammar.Proofs.BindLaws
import TokenGrammar.Proofs.Success
import TokenGrammar.Proofs.Spelling
import TokenGrammar.Proofs.Words
import TokenGrammar.Proofs.Numerals
import TokenGrammar.Proofs.Totality
import TokenGrammar.Proofs.Reading
import TokenGrammar.Proofs.Digits
import TokenGrammar.Proofs.TextLeaves
import TokenGrammar.Proofs.OutcomeOrder
import TokenGrammar.Proofs.ExactBound
import TokenGrammar.Proofs.Idempotence
import TokenGrammar.Proofs.Taking
import TokenGrammar.Proofs.GuardedRecursion
import TokenGrammar.Proofs.Quotes
import TokenGrammar.Proofs.LiteralTexts
import TokenGrammar.Proofs.BalancedWords
import TokenGrammar.Proofs.Parentheses
import TokenGrammar.Proofs.SequenceChoice
import TokenGrammar.Proofs.Folding
import TokenGrammar.Proofs.Discarding
import TokenGrammar.Proofs.RejectedTokens
import TokenGrammar.Proofs.Stretches
import TokenGrammar.Proofs.LongestWords
import TokenGrammar.Proofs.Conversion
import TokenGrammar.Proofs.DecimalNumbers
import TokenGrammar.Proofs.NaturalNumbers
import TokenGrammar.Proofs.DigitByDigit
import TokenGrammar.Proofs.SpacedLists
import TokenGrammar.Proofs.LiftLaws
import TokenGrammar.Proofs.EntryPoints
import TokenGrammar.Proofs.Lines
import TokenGrammar.Proofs.WindowLists
import TokenGrammar.Proofs.ReplacedOutcomes
