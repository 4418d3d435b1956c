import Chance.Error
import Chance.Event

namespace Chance

structure Outcome (σ α : Type) where
  answer : Except Error α
  state : σ
  events : List Event

namespace Outcome

variable {σ τ α β : Type}

def ofPair (r : α × σ) : Outcome σ α := ⟨.ok r.1, r.2, []⟩

def fail (e : Error) (s : σ) (events : List Event) : Outcome σ α := ⟨.error e, s, events⟩

def map (f : α → β) (o : Outcome σ α) : Outcome σ β := { o with answer := o.answer.map f }

def within (f : σ → τ) (o : Outcome σ α) : Outcome τ α := { o with state := f o.state }

def andThen (o : Outcome σ α) (f : α → σ → Outcome σ β) : Outcome σ β :=
  match o.answer with
  | .ok a =>
    let next := f a o.state
    { next with events := o.events ++ next.events }
  | .error e => ⟨.error e, o.state, o.events⟩

def logging (o : Outcome σ α) (event : α → Event) : Outcome σ α :=
  match o.answer with
  | .ok a => { o with events := o.events ++ [event a] }
  | .error _ => o

end Outcome

end Chance
