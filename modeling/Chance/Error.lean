import Chance.Binary64.Decimal
import Chance.Notation.ParseError
import Chance.Number

namespace Chance

inductive Error
  | nonPositiveSides (sides : Int)
  | probabilityOutOfRange (probability : Binary64)
  | parse (error : ParseError)
  | tooManyRolls (requested max : Nat)
  | overflow
deriving DecidableEq

def Error.text : Error → List Char
  | .nonPositiveSides sides =>
    "invalid argument: sides must be greater than 0, got ".toList ++ integerText sides
  | .probabilityOutOfRange p =>
    "invalid argument: probability must be between 0 and 1, got ".toList ++ p.text
  | .parse e => e.text
  | .tooManyRolls requested max =>
    "too many dice rolled: ".toList ++ Nat.toDigits 10 requested ++ " requested, at most ".toList ++
      Nat.toDigits 10 max ++ " allowed".toList
  | .overflow => "roll total overflowed".toList

def Error.message (e : Error) : String := String.ofList e.text

end Chance
