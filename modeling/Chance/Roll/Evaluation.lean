import Chance.Draw
import Chance.Outcome
import Chance.Roll.Basic
import Chance.Sampler

namespace Chance

variable {σ : Type} [Sampler σ]

def Dice.faces (d : Dice) (s : σ) : List Nat × σ :=
  (Sampler.units d.count.value s).map (List.map (Draw.faceOf d.sides)) id

def Term.roll (t : Term) (s : σ) : TermRoll × σ :=
  match t with
  | .dice d => (d.faces s).map (TermRoll.dice d) id
  | .constant n => (.constant n, s)

/-- Rolls a term and adds it to the total so far. What was drawn stays drawn if the sum is too
large. -/
def Term.addRoll (total : Nat) (t : Term) (s : σ) : Outcome σ (TermRoll × Nat) :=
  let (roll, s) := t.roll s
  match roll.subtotal? with
  | none => .fail .overflow s []
  | some subtotal =>
    match Total.add? total subtotal with
    | none => .fail .overflow s []
    | some total => ⟨.ok (roll, total), s, [.termRolled t subtotal]⟩

namespace Expression

def rollTerms (total : Nat) (t : Term) : List Term → σ → Outcome σ (NonemptyList TermRoll × Nat)
  | [], s => (t.addRoll total s).map fun (roll, total) => (.singleton roll, total)
  | next :: ts, s =>
    (t.addRoll total s).andThen fun (roll, total) s =>
      (rollTerms total next ts s).map fun (rolls, total) => (.cons roll rolls, total)

def rollAll (e : Expression) (s : σ) : Outcome σ Roll :=
  (rollTerms 0 e.terms.head e.terms.tail s).map fun (rolls, total) => ⟨rolls, total⟩

def roll (e : Expression) (maxRolls : Option Nat) (s : σ) : Outcome σ Roll :=
  match maxRolls with
  | none => e.rollAll s
  | some max =>
    if max < e.diceCount then
      .fail (.tooManyRolls e.diceCount max) s [.limitExceeded e e.diceCount max]
    else e.rollAll s

def rollInTurn (maxRolls : Option Nat) : List Expression → σ → List (Outcome σ Roll) × σ
  | [], s => ([], s)
  | e :: es, s =>
    let outcome := e.roll maxRolls s
    let (outcomes, s) := rollInTurn maxRolls es outcome.state
    (outcome :: outcomes, s)

end Expression

end Chance
