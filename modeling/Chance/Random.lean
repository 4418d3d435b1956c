import Chance.Keystream
import Chance.Notation.Parser
import Chance.Roll.Evaluation
import Chance.Shuffle

namespace Chance

structure Random (σ : Type) where
  sampler : σ
  maxRolls : Option Nat

namespace Random

variable {σ α : Type}

def ofSampler (sampler : σ) : Random σ := ⟨sampler, none⟩

def seeded (seed : UInt64) : Random Keystream := ofSampler (.ofSeed seed)

def limitTo (max : Nat) (r : Random σ) : Random σ := { r with maxRolls := some max }

def unbounded (r : Random σ) : Random σ := { r with maxRolls := none }

def rewrap (r : Random σ) : Random σ := ofSampler r.sampler

def withSampler (r : Random σ) (sampler : σ) : Random σ := { r with sampler }

variable [Sampler σ]

def drawWith (f : Binary64 → α) (r : Random σ) : α × Random σ :=
  (Sampler.unit r.sampler).map f r.withSampler

def draw (d : Draw) (r : Random σ) : Drawn × Random σ := r.drawWith (Draw.result · d)

def unit (r : Random σ) : Binary64 × Random σ := r.drawWith id

def between (a b : Int) (r : Random σ) : Int × Random σ := r.drawWith (Draw.integerOf a b)

def upTo (n : Int) (r : Random σ) : Int × Random σ := r.between 0 n

def die (sides : Int) (r : Random σ) : Outcome (Random σ) Int :=
  match Positive.ofInt? sides with
  | some n => .ofPair (r.drawWith fun u => (Draw.faceOf n u : Int))
  | none => .fail (.nonPositiveSides sides) r []

def shuffle (items : List α) (r : Random σ) : List α × Random σ :=
  (Shuffle.run items r.sampler).map id r.withSampler

def flip (p : Binary64) (r : Random σ) : Outcome (Random σ) Bool :=
  if Binary64.zero.le p && p.le .one then .ofPair (r.drawWith (Binary64.lt · p))
  else .fail (.probabilityOutOfRange p) r []

def fairFlip (r : Random σ) : Bool × Random σ := r.drawWith (Binary64.lt · .half)

def roll (e : Expression) (r : Random σ) : Outcome (Random σ) Roll :=
  (e.roll r.maxRolls r.sampler).within r.withSampler

def rollNotation (text : String) (r : Random σ) : Outcome (Random σ) Roll :=
  match Expression.parse text with
  | .ok e => r.roll e
  | .error e => .fail (.parse e) r [.parseFailed text e]

def dieRoll (text : String) (r : Random σ) : Outcome (Random σ) Int :=
  ((r.rollNotation text).map Roll.total).logging (.notationRolled text)

end Random

end Chance
