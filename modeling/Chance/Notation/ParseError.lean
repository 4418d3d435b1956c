import Chance.Notation.Token
import Chance.Text.Quoted

namespace Chance

namespace ParseError

inductive Reason
  | unexpectedToken (found : TokenKind) (expected : List TokenKind)
  | unexpectedString (expected : List TokenKind)
  | unexpectedEnd (expected : List TokenKind)
  | zeroDice
  | numberTooLarge
deriving DecidableEq

end ParseError

structure ParseError where
  reason : ParseError.Reason
  span : Span
  slice : List Char
deriving DecidableEq

namespace ParseError

def enumeration : List TokenKind → List Char
  | [] => []
  | [k] => "or ".toList ++ k.text
  | k :: ks => k.text ++ ", ".toList ++ enumeration ks

def alternatives : List TokenKind → List Char
  | [] => []
  | [k] => k.text
  | [k, l] => k.text ++ " or ".toList ++ l.text
  | ks => enumeration ks

def Reason.text : Reason → List Char
  | .unexpectedToken found expected =>
    "unexpected token: found ".toList ++ found.text ++ ", expected ".toList ++ alternatives expected
  | .unexpectedString expected => "expected ".toList ++ alternatives expected
  | .unexpectedEnd expected => "unexpected end of input, expected ".toList ++ alternatives expected
  | .zeroDice => "dice must have at least one die and one side".toList
  | .numberTooLarge => "number is too large".toList

def text (e : ParseError) : List Char :=
  "error at position ".toList ++ Nat.toDigits 10 e.span.start ++ " (".toList ++
    Text.quoted e.slice ++ "): ".toList ++ e.reason.text

end ParseError

end Chance
