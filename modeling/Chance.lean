import Chance.Binary64.Basic
import Chance.Binary64.Decimal
import Chance.Binary64.Rounding
import Chance.Call
import Chance.Draw
import Chance.Error
import Chance.Event
import Chance.Keystream
import Chance.NonemptyList
import Chance.Notation.Expression
import Chance.Notation.ParseError
import Chance.Notation.Parser
import Chance.Notation.Token
import Chance.Number
import Chance.Outcome
import Chance.Proofs.Binary64.Rounding
import Chance.Proofs.Draw.Parts
import Chance.Proofs.Draw.Uniformity
import Chance.Proofs.Notation.FirstOffence
import Chance.Proofs.Notation.Grammar
import Chance.Proofs.Notation.Joining
import Chance.Proofs.Notation.Lexing
import Chance.Proofs.Notation.Reading
import Chance.Proofs.Notation.RoundTrip
import Chance.Proofs.Roll.Bounds
import Chance.Proofs.Roll.InTurn
import Chance.Proofs.Roll.Reference
import Chance.Proofs.Roll.UnitStream
import Chance.Proofs.Shuffle.Order
import Chance.Proofs.Shuffle.Uniformity
import Chance.Random
import Chance.Roll.Basic
import Chance.Roll.Evaluation
import Chance.Sampler
import Chance.Session
import Chance.Shuffle
import Chance.Text.DefaultIgnorable
import Chance.Text.GraphemeExtend
import Chance.Text.Quoted
import Chance.Text.Unprintable
import Chance.Total
import Chance.Proofs.Random.Endings
import Chance.Proofs.Random.Failure
import Chance.Proofs.Random.InTurn
import Chance.Proofs.Random.Limit
import Chance.Proofs.Random.Accounting
import Chance.Proofs.Roll.Overflow
import Chance.Proofs.Roll.Attained
import Chance.Proofs.Notation.Partition
import Chance.Proofs.Notation.Spacing
import Chance.Proofs.Shuffle.Places
import Chance.Proofs.Draw.Agreement
import Chance.Proofs.Draw.Ranges
import Chance.Proofs.Notation.Completion
import Chance.Proofs.Notation.NormalForm
import Chance.Proofs.Random.Spelling
import Chance.Proofs.Notation.Message
import Chance.Proofs.Random.Coin
import Chance.Proofs.Random.Log
import Chance.Proofs.Roll.Unambiguous
import Chance.Proofs.Notation.WordReading
import Chance.Proofs.Notation.Stepwise
import Chance.Proofs.Notation.Assumptions
