import Chance.Call

namespace Chance

structure Session (σ : Type) where
  current : Random σ
  saved : List (Random σ)

inductive Command (α : Type)
  | call (call : Call α)
  | save
  | restore

inductive Reply (α : Type)
  | answer (answer : Answer α)
  | saved (count : Nat)
  | nothingSaved

namespace Session

variable {σ α : Type}

def start (r : Random σ) : Session σ := ⟨r, []⟩

def step [Sampler σ] (c : Command α) (s : Session σ) : Outcome (Session σ) (Reply α) :=
  match c with
  | .call c => ((c.run s.current).map .answer).within fun r => { s with current := r }
  | .save => .ofPair (.saved (s.saved.length + 1), { s with saved := s.current :: s.saved })
  | .restore =>
    match s.saved with
    | [] => .ofPair (.nothingSaved, s)
    | r :: rs => .ofPair (.saved rs.length, ⟨r, rs⟩)

def run [Sampler σ] :
    List (Command α) → Session σ → List (Outcome (Session σ) (Reply α)) × Session σ
  | [], s => ([], s)
  | c :: cs, s =>
    let outcome := s.step c
    let (outcomes, s) := run cs outcome.state
    (outcome :: outcomes, s)

end Session

end Chance
