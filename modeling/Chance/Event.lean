import Chance.Notation.Expression
import Chance.Notation.ParseError

namespace Chance

inductive Event
  | parseFailed (text : String) (error : ParseError)
  | limitExceeded (expression : Expression) (requested max : Nat)
  | termRolled (term : Term) (subtotal : Nat)
  | notationRolled (text : String) (total : Int)
deriving DecidableEq

namespace Event

def level : Event → String
  | .parseFailed _ _ | .limitExceeded _ _ _ => "DEBUG"
  | .termRolled _ _ | .notationRolled _ _ => "TRACE"

def message : Event → String
  | .parseFailed _ _ => "failed to parse dice expression"
  | .limitExceeded _ _ _ => "rejected dice expression"
  | .termRolled _ _ => "rolled term"
  | .notationRolled _ _ => "rolled dice expression"

def spanText (s : Span) : List Char :=
  Nat.toDigits 10 s.start ++ ['.', '.'] ++ Nat.toDigits 10 s.stop

def fields : Event → List (String × List Char)
  | .parseFailed text e =>
    [("notation", text.toList), ("span", spanText e.span), ("kind", e.reason.text)]
  | .limitExceeded e requested max =>
    [("expr", e.text), ("requested", Nat.toDigits 10 requested), ("max", Nat.toDigits 10 max)]
  | .termRolled t subtotal => [("term", t.text), ("subtotal", Nat.toDigits 10 subtotal)]
  | .notationRolled text total => [("notation", text.toList), ("total", integerText total)]

end Event

end Chance
