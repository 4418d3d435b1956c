import Chance.Notation.Expression
import Chance.Notation.ParseError

namespace Chance

namespace Token

def error (t : Token) (reason : ParseError.Reason) : ParseError := ⟨reason, t.span, t.lexeme⟩

def unexpected (t : Token) (expected : List TokenKind) : ParseError :=
  if t.kind = .unknown then t.error (.unexpectedString expected)
  else t.error (.unexpectedToken t.kind expected)

def number (t : Token) (digits : List Char) : Except ParseError Number :=
  match Number.read? digits with
  | some n => .ok n
  | none => .error (t.error .numberTooLarge)

def countDigits (t : Token) : List Char := t.lexeme.takeWhile (· ≠ 'd')

def sidesDigits (t : Token) : List Char := (t.lexeme.dropWhile (· ≠ 'd')).drop 1

def dice (t : Token) : Except ParseError Dice := do
  let count ← if t.countDigits = [] then .ok Positive.one.toNumber else t.number t.countDigits
  let sides ← t.number t.sidesDigits
  match Positive.ofNumber? count, Positive.ofNumber? sides with
  | some count, some sides => .ok ⟨count, sides⟩
  | _, _ => .error (t.error .zeroDice)

def term (t : Token) : Except ParseError Term :=
  match t.kind with
  | .dice => t.dice.map .dice
  | .integer => (t.number t.lexeme).map .constant
  | _ => .error (t.unexpected [.dice, .integer])

end Token

namespace Expression

def ofTokens (length : Nat) : List Token → Except ParseError Expression
  | [] => .error ⟨.unexpectedEnd [.dice, .integer], ⟨length, length⟩, []⟩
  | [t] => do
    let first ← t.term
    .ok ⟨.singleton first⟩
  | t :: plus :: ts => do
    let first ← t.term
    if plus.kind = .plus then
      let others ← ofTokens length ts
      .ok ⟨.cons first others.terms⟩
    else .error (plus.unexpected [.plus])

def ofText (s : List Char) : Except ParseError Expression :=
  ofTokens (byteLength s) (Token.scan 0 s)

def parse (s : String) : Except ParseError Expression := ofText s.toList

def ofString (s : String) : Except ParseError Expression := parse s

def sameReading (a b : String) : Bool :=
  match parse a, parse b with
  | .ok d, .ok e => d = e
  | .error d, .error e => d = e
  | _, _ => false

end Expression

end Chance
