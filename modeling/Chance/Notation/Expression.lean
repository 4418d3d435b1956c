import Chance.NonemptyList
import Chance.Number
import Chance.Total

namespace Chance

structure Dice where
  count : Positive
  sides : Positive
deriving DecidableEq

inductive Term
  | dice (dice : Dice)
  | constant (value : Number)
deriving DecidableEq

structure Expression where
  terms : NonemptyList Term
deriving DecidableEq

namespace Dice

def text (d : Dice) : List Char := d.count.text ++ 'd' :: d.sides.text

end Dice

namespace Term

def diceCount : Term → Nat
  | .dice d => d.count.value
  | .constant _ => 0

def minTotal : Term → Nat
  | .dice d => d.count.value
  | .constant n => n.val

def maxTotal : Term → Nat
  | .dice d => Total.cut (d.count.value * d.sides.value)
  | .constant n => n.val

def text : Term → List Char
  | .dice d => d.text
  | .constant n => n.text

end Term

namespace Expression

def diceCount (e : Expression) : Nat := e.terms.toList.foldr (fun t n => t.diceCount + n) 0

def minTotal (e : Expression) : Nat :=
  e.terms.toList.foldl (fun total t => Total.cut (total + t.minTotal)) 0

def maxTotal (e : Expression) : Nat :=
  e.terms.toList.foldl (fun total t => Total.cut (total + t.maxTotal)) 0

def text (e : Expression) : List Char := ['+'].intercalate (e.terms.toList.map Term.text)

instance : ToString Expression where
  toString e := String.ofList e.text

end Expression

end Chance
