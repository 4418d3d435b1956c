import Chance.Text.DefaultIgnorable
import Chance.Text.GraphemeExtend
import Chance.Text.Unprintable

namespace Chance.Text

def isHalfwidthSoundMark (c : Char) : Bool := 0xff9e ≤ c.toNat && c.toNat ≤ 0xff9f

def isAttached (c : Char) : Bool := isGraphemeExtend c && !isHalfwidthSoundMark c

def isLegible (c : Char) : Bool := !(isUnprintable c || isDefaultIgnorable c || isAttached c)

def codePointEscape (c : Char) : List Char :=
  '\\' :: 'u' :: '\x7b' :: Nat.toDigits 16 c.toNat ++ ['\x7d']

def escape (c : Char) : List Char :=
  match c with
  | '\x00' => ['\\', '0']
  | '\t' => ['\\', 't']
  | '\r' => ['\\', 'r']
  | '\n' => ['\\', 'n']
  | '"' => ['\\', '"']
  | '\\' => ['\\', '\\']
  | _ => if isLegible c then [c] else codePointEscape c

def quoted (s : List Char) : List Char := '"' :: s.flatMap escape ++ ['"']

end Chance.Text
