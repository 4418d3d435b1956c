import Chance.Binary64.Basic
import Chance.NonemptyList

namespace Chance

class Sampler (σ : Type) where
  unit : σ → Binary64 × σ

class WordSource (σ : Type) where
  word : σ → UInt64 × σ

instance {σ : Type} [WordSource σ] : Sampler σ where
  unit s := ((WordSource.word s).map Binary64.ofWord id)

def Sampler.units {σ : Type} [Sampler σ] : Nat → σ → List Binary64 × σ
  | 0, s => ([], s)
  | n + 1, s =>
    let (u, s) := Sampler.unit s
    let (us, s) := units n s
    (u :: us, s)

structure Script (α : Type) where
  values : NonemptyList α
  pending : List α

namespace Script

variable {α : Type}

def ofValues (values : NonemptyList α) : Script α := ⟨values, values.toList⟩

def next (s : Script α) : α × Script α :=
  match s.pending with
  | x :: xs => (x, { s with pending := xs })
  | [] => (s.values.head, { s with pending := s.values.tail })

end Script

instance : Sampler (Script Binary64) where
  unit := Script.next

instance : WordSource (Script UInt64) where
  word := Script.next

structure Counted (σ : Type) where
  source : σ
  draws : Nat

def Counted.start {σ : Type} (source : σ) : Counted σ := ⟨source, 0⟩

instance {σ : Type} [Sampler σ] : Sampler (Counted σ) where
  unit s := (Sampler.unit s.source).map id fun source => ⟨source, s.draws + 1⟩

end Chance
