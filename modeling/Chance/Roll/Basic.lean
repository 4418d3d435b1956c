import Chance.Notation.Expression

namespace Chance

inductive TermRoll
  | dice (dice : Dice) (faces : List Nat)
  | constant (value : Number)
deriving DecidableEq

structure Roll where
  terms : NonemptyList TermRoll
  total : Int
deriving DecidableEq

namespace TermRoll

def subtotal? : TermRoll → Option Nat
  | .dice _ faces => faces.foldlM Total.add? 0
  | .constant n => some n.val

def text : TermRoll → List Char
  | .dice d faces =>
    d.text ++ " (".toList ++ [',', ' '].intercalate (faces.map (Nat.toDigits 10)) ++ [')']
  | .constant n => n.text

end TermRoll

def Roll.text (r : Roll) : List Char :=
  [' ', '+', ' '].intercalate (r.terms.toList.map TermRoll.text) ++ " = ".toList ++
    integerText r.total

end Chance
