namespace Chance

inductive TokenKind
  | integer
  | dice
  | plus
  | unknown
deriving DecidableEq

def TokenKind.text : TokenKind → List Char
  | .integer => "<integer>".toList
  | .dice => "<dice>".toList
  | .plus => "'+'".toList
  | .unknown => "<error>".toList

structure Span where
  start : Nat
  stop : Nat
deriving DecidableEq

def byteLength : List Char → Nat
  | [] => 0
  | c :: s => c.utf8Size + byteLength s

structure Token where
  kind : TokenKind
  start : Nat
  lexeme : List Char
deriving DecidableEq

namespace Token

def stop (t : Token) : Nat := t.start + byteLength t.lexeme

def span (t : Token) : Span := ⟨t.start, t.stop⟩

def digits (s : List Char) : List Char := s.takeWhile Char.isDigit

def sidesPart : List Char → List Char
  | 'd' :: s => if digits s = [] then [] else 'd' :: digits s
  | _ => []

def munch (c : Char) (s : List Char) : TokenKind × List Char :=
  let count := digits (c :: s)
  let sides := sidesPart ((c :: s).dropWhile Char.isDigit)
  if sides ≠ [] then (.dice, count ++ sides)
  else if count ≠ [] then (.integer, count)
  else (if c = '+' then .plus else .unknown, [c])

def scan (start : Nat) : List Char → List Token
  | [] => []
  | c :: s =>
    if c.isWhitespace then scan (start + c.utf8Size) s
    else
      let (kind, lexeme) := munch c s
      ⟨kind, start, lexeme⟩ :: scan (start + byteLength lexeme) (s.drop (lexeme.length - 1))
termination_by s => s.length

end Token

end Chance
