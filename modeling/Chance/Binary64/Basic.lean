import Chance.Binary64.Rounding

/-!
Binary floating point numbers of 64 bits, as exact multiples of the smallest positive one. Of the
arithmetic there is what drawing needs: the product with a whole number, the order, and the
conversion of a floor to an integer. Products are the exact ones rounded to nearest, ties to even.
-/

namespace Chance

def Binary64.overflow : Nat := Binary64.twoPow 2098

def Binary64.stepsPerOne : Nat := Binary64.twoPow 1074

inductive Binary64
  | nan
  | infinite (negative : Bool)
  | finite (negative : Bool) (steps : Nat) (short : Binary64.Short steps)
      (bounded : steps < Binary64.overflow)
deriving DecidableEq

namespace Binary64

def nearest (negative : Bool) (n : Nat) : Binary64 :=
  if h : round53 n < overflow then .finite negative (round53 n) (short_round53 n) h
  else .infinite negative

/-- The multiple `k * 2 ^ -53`. Those with `k < 2 ^ 53` are the units a generator draws. -/
def grid (k : Nat) : Binary64 := nearest false (k * twoPow 1021)

def ofWord (w : UInt64) : Binary64 := grid (w >>> 11).toNat

def zero : Binary64 := grid 0

def half : Binary64 := grid (twoPow 52)

def one : Binary64 := grid (twoPow 53)

def ofBits (b : UInt64) : Binary64 :=
  let negative := decide (twoPow 63 ≤ b.toNat)
  let exponent := b.toNat / twoPow 52 % 2048
  let fraction := b.toNat % twoPow 52
  if exponent = 2047 then
    if fraction = 0 then .infinite negative else .nan
  else if exponent = 0 then nearest negative fraction
  else nearest negative ((twoPow 52 + fraction) * twoPow (exponent - 1))

def signBit (negative : Bool) : Nat := if negative then twoPow 63 else 0

def toBits : Binary64 → UInt64
  | .nan => 0x7ff8000000000000
  | .infinite s => UInt64.ofNat (signBit s + 2047 * twoPow 52)
  | .finite s n _ _ => UInt64.ofNat (signBit s + excess n * twoPow 52 + n / twoPow (excess n))

/-- The product with the whole number `n`, which has to be `Short` itself. -/
def scale : Binary64 → Nat → Binary64
  | .nan, _ => .nan
  | .infinite s, n => if n = 0 then .nan else .infinite s
  | .finite s m _ _, n => nearest s (m * n)

def withSign (negative : Bool) (n : Nat) : Int := if negative then -n else n

def position? : Binary64 → Option Int
  | .nan => none
  | .infinite s => some (withSign s overflow)
  | .finite s n _ _ => some (withSign s n)

def lt (x y : Binary64) : Bool :=
  match x.position?, y.position? with
  | some a, some b => a < b
  | _, _ => false

def le (x y : Binary64) : Bool :=
  match x.position?, y.position? with
  | some a, some b => a ≤ b
  | _, _ => false

/-- The floor, cut to the range from `lo` to `hi`, and zero for a value that is not a number. -/
def floorWithin (lo hi : Int) : Binary64 → Int
  | .nan => 0
  | .infinite s => if s then lo else hi
  | .finite s n _ _ => max lo (min hi (Int.fdiv (withSign s n) stepsPerOne))

end Binary64

end Chance
