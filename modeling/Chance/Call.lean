import Chance.Random

namespace Chance

inductive Call (α : Type)
  | unit
  | upTo (n : Int)
  | between (a b : Int)
  | die (sides : Int)
  | shuffled (items : List α)
  | shuffle (items : List α)
  | flip (probability : Binary64)
  | fairFlip
  | dieRoll (text : String)
  | rollNotation (text : String)
  | roll (expression : Expression)
  | limitTo (max : Nat)
  | unbounded
  | limit
  | draw (draw : Draw)
  | rewrap

inductive Answer (α : Type)
  | unit (value : Binary64)
  | integer (value : Int)
  | copy (shuffled items : List α)
  | items (items : List α)
  | truth (value : Bool)
  | total (value : Int)
  | roll (value : Roll)
  | limit (value : Option Nat)
  | drawn (value : Drawn)
  | done

namespace Call

variable {σ α : Type}

def run [Sampler σ] (c : Call α) (r : Random σ) : Outcome (Random σ) (Answer α) :=
  match c with
  | .unit => .ofPair (r.unit.map .unit id)
  | .upTo n => .ofPair ((r.upTo n).map .integer id)
  | .between a b => .ofPair ((r.between a b).map .integer id)
  | .die sides => (r.die sides).map .integer
  | .shuffled items => .ofPair ((r.shuffle items).map (.copy · items) id)
  | .shuffle items => .ofPair ((r.shuffle items).map .items id)
  | .flip p => (r.flip p).map .truth
  | .fairFlip => .ofPair (r.fairFlip.map .truth id)
  | .dieRoll text => (r.dieRoll text).map .total
  | .rollNotation text => (r.rollNotation text).map .roll
  | .roll e => (r.roll e).map .roll
  | .limitTo max => .ofPair (.done, r.limitTo max)
  | .unbounded => .ofPair (.done, r.unbounded)
  | .limit => .ofPair (.limit r.maxRolls, r)
  | .draw d => .ofPair ((r.draw d).map .drawn id)
  | .rewrap => .ofPair (.done, r.rewrap)

def range? : Call α → Option (Int × Int)
  | .upTo n => some (min 0 n, max 0 n)
  | .between a b => some (min a b, max a b)
  | .die sides => some (1, sides)
  | .dieRoll text | .rollNotation text =>
    (Expression.parse text).toOption.map fun e => (e.minTotal, e.maxTotal)
  | .roll e => some (e.minTotal, e.maxTotal)
  | _ => none

end Call

end Chance
