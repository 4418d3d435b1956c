import Chance.Binary64.Basic

/-!
The decimal text of a number: of the decimals that round to it one with the fewest digits, and of
these the nearest. It is written positionally, without an exponent and without trailing zeros.
Numbers are measured here in units of `10 ^ -1074`, of which one step of `2 ^ -1074` has
`5 ^ 1074`, so that everything is a whole number.
-/

namespace Chance.Binary64

def places : Nat := 1074

def unitsPerStep : Nat := Nat.pow 5 places

def unitsPerOne : Nat := Nat.pow 10 places

def gapBelow (n : Nat) : Nat :=
  if n = twoPow n.log2 ∧ 0 < excess n then twoPow (excess n) else 2 * twoPow (excess n)

def gapAbove (n : Nat) : Nat := 2 * twoPow (excess n)

/-- Whether the decimal of `u` units rounds to the number of `n` steps. The midpoints round to the
neighbour whose last binary digit is even. -/
def readsAs (n u : Nat) : Bool :=
  let low := (4 * n - gapBelow n) * unitsPerStep
  let high := (4 * n + gapAbove n) * unitsPerStep
  if n / twoPow (excess n) % 2 = 0 then low ≤ 4 * u && 4 * u ≤ high else low < 4 * u && 4 * u < high

/-- The multiple of the largest power of ten, of those up to `10 ^ k`, that is next to `u` and
passes the test. Of two that pass it is the nearer one, of two equally near the upper one, and it
is `u` itself if no other passes. -/
def roundest (test : Nat → Bool) (u : Nat) : Nat → Nat
  | 0 => u
  | k + 1 =>
    let grid := Nat.pow 10 (k + 1)
    let low := u / grid * grid
    let high := low + grid
    match test low, test high with
    | true, true => if u - low < high - u then low else high
    | true, false => low
    | false, true => high
    | false, false => roundest test u k

def shortest (n : Nat) : Nat :=
  let u := n * unitsPerStep
  if n = 0 then 0 else roundest (readsAs n) u (Nat.toDigits 10 u).length

def dropZeros (s : List Char) : List Char := (s.reverse.dropWhile (· == '0')).reverse

def fractionDigits (u : Nat) : List Char :=
  let ds := Nat.toDigits 10 (u % unitsPerOne)
  dropZeros (List.replicate (places - ds.length) '0' ++ ds)

def positional (u : Nat) : List Char :=
  let whole := Nat.toDigits 10 (u / unitsPerOne)
  match fractionDigits u with
  | [] => whole
  | fraction => whole ++ '.' :: fraction

def text : Binary64 → List Char
  | .nan => "NaN".toList
  | .infinite s => (if s then ['-'] else []) ++ "inf".toList
  | .finite s n _ _ => (if s then ['-'] else []) ++ positional (shortest n)

end Chance.Binary64
