import Chance.Draw
import Chance.Sampler

namespace Chance.Shuffle

variable {α σ : Type}

/-- The places drawn with some units, one for each place from the last down to the second. -/
def indices : List Binary64 → List Nat
  | [] => []
  | u :: us => Draw.indexOf (us.length + 1) u :: indices us

def rearrange : List Nat → Array α → Array α
  | [], items => items
  | j :: js, items => rearrange js (items.swapIfInBounds (js.length + 1) j)

def permute (us : List Binary64) (items : List α) : List α :=
  (rearrange (indices us) items.toArray).toList

def run [Sampler σ] (items : List α) (s : σ) : List α × σ :=
  (Sampler.units (items.length - 1) s).map (permute · items) id

end Chance.Shuffle
