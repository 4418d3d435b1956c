import Chance.Binary64.Basic
import Chance.Number

namespace Chance

inductive Draw
  | unit
  | face (sides : Positive)
  | between (a b : Int)
  | index (upper : Nat)
deriving DecidableEq

inductive Drawn
  | unit (value : Binary64)
  | face (value : Nat)
  | integer (value : Int)
  | index (value : Nat)
deriving DecidableEq

namespace Draw

def faceOf (sides : Positive) (u : Binary64) : Nat :=
  min ((u.scale sides.value).floorWithin 0 4294967295).toNat (sides.value - 1) + 1

/-- An integer of the closed range bounded by `a` and `b`, in either order. The sum is formed in
64 bits and the result in 32, which matters only for units outside the range from zero to one. -/
def integerOf (a b : Int) (u : Binary64) : Int :=
  let low := min a b
  let high := max a b
  let width := (high - low + 1).toNat
  let offset := (u.scale width).floorWithin (-9223372036854775808) 9223372036854775807
  (min ((low + offset).bmod 18446744073709551616) high).bmod 4294967296

/-- An index of at most `upper`. The width is computed with 53 significant digits. -/
def indexOf (upper : Nat) (u : Binary64) : Nat :=
  let width := Binary64.round53 (Binary64.round53 upper + 1)
  min ((u.scale width).floorWithin 0 18446744073709551615).toNat upper

def result (u : Binary64) : Draw → Drawn
  | .unit => .unit u
  | .face sides => .face (faceOf sides u)
  | .between a b => .integer (integerOf a b u)
  | .index upper => .index (indexOf upper u)

end Draw

end Chance
