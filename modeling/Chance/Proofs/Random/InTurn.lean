import Chance.Proofs.Random.Endings
import Chance.Session

namespace Chance

variable {σ α : Type} [Sampler σ]

def Call.runInTurn : List (Call α) → Random σ → List (Outcome (Random σ) (Answer α)) × Random σ
  | [], r => ([], r)
  | c :: cs, r =>
    let outcome := c.run r
    let (outcomes, r) := runInTurn cs outcome.state
    (outcome :: outcomes, r)

namespace Call

theorem runInTurn_cons (c : Call α) (cs : List (Call α)) (r : Random σ) :
    runInTurn (c :: cs) r =
      (c.run r :: (runInTurn cs (c.run r).state).1, (runInTurn cs (c.run r).state).2) := rfl

theorem runInTurn_append (cs ds : List (Call α)) (r : Random σ) :
    runInTurn (cs ++ ds) r =
      ((runInTurn cs r).1 ++ (runInTurn ds (runInTurn cs r).2).1,
        (runInTurn ds (runInTurn cs r).2).2) := by
  induction cs generalizing r with
  | nil => rfl
  | cons c cs ih => rw [List.cons_append, runInTurn_cons, ih, runInTurn_cons, List.cons_append]

end Call

theorem Session.run_calls (cs : List (Call α)) (s : Session σ) :
    run (cs.map .call) s =
      ((Call.runInTurn cs s.current).1.map fun o =>
        (o.map Reply.answer).within fun r => { s with current := r },
        { s with current := (Call.runInTurn cs s.current).2 }) := by
  induction cs generalizing s with
  | nil => rfl
  | cons c cs ih =>
    have hstep : s.step (.call c) =
        ((c.run s.current).map .answer).within fun r => { s with current := r } := rfl
    simp only [List.map_cons, run, ih, hstep, Call.runInTurn_cons]
    rfl

end Chance
