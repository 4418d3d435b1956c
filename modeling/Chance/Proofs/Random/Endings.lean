import Chance.Call
import Chance.Proofs.Roll.Bounds

/-!
How a call on a random source can end. It is answered, and then it has taken the units it needs; or
it is refused, and then it has left the source as it was; or a total overflows while its dice are
rolled, and then the units for these dice are gone.
-/

namespace Chance

open Sampler

variable {σ α β γ : Type}

theorem toOption_eq_some {ε : Type} {x : Except ε β} {b : β} :
    x.toOption = some b ↔ x = .ok b := by
  cases x <;> simp [Except.toOption]

theorem toOption_eq_none {ε : Type} {x : Except ε β} : x.toOption = none ↔ ∃ e, x = .error e := by
  cases x <;> simp [Except.toOption]

namespace Outcome

theorem map_answer_eq_error {o : Outcome σ β} {f : β → γ} {e : Error} :
    (o.map f).answer = .error e ↔ o.answer = .error e := by
  cases h : o.answer <;> simp [map, h, Except.map]

end Outcome

inductive Random.Ends [Sampler σ] (n : Nat) (set : Option (Option Nat)) (r : Random σ) :
    Outcome (Random σ) β → Prop
  | answered (a : β) (events : List Event) :
      Ends n set r ⟨.ok a, ⟨after n r.sampler, set.getD r.maxRolls⟩, events⟩
  | refused (e : Error) (events : List Event) (he : e ≠ .overflow) (hset : set = none) :
      Ends n set r (.fail e r events)
  | overflowed (s : σ) (events : List Event) (hset : set = none) :
      Ends n set r ⟨.error .overflow, r.withSampler s, events⟩

inductive Random.Rolls [Sampler σ] (e : Expression) (r : Random σ) : Outcome (Random σ) Roll → Prop
  | rejected {max : Nat} (hmax : r.maxRolls = some max) (hlt : max < e.diceCount) :
      Rolls e r (.fail (.tooManyRolls e.diceCount max) r [.limitExceeded e e.diceCount max])
  | rolled (h : e.Admitted r.maxRolls) (events : List Event) :
      Rolls e r ⟨.ok (e.rollOn (stream r.sampler)), r.withSampler (after e.diceCount r.sampler),
        events⟩
  | overflowed (h : e.Admitted r.maxRolls) (s : σ) (events : List Event) :
      Rolls e r ⟨.error .overflow, r.withSampler s, events⟩

def Random.unitsOf (text : String) : Nat :=
  match Expression.parse text with
  | .ok e => e.diceCount
  | .error _ => 0

theorem Expression.admitted_some {e : Expression} {max : Nat} :
    e.Admitted (some max) ↔ e.diceCount ≤ max := by
  simp [Admitted]

namespace Random

variable [Sampler σ] {n : Nat} {set : Option (Option Nat)} {r : Random σ}
  {o : Outcome (Random σ) β}

theorem Ends.map (h : Ends n set r o) (f : β → γ) : Ends n set r (o.map f) := by
  cases h with
  | answered a events => exact .answered (f a) events
  | refused e events he hset => exact .refused e events he hset
  | overflowed s events hset => exact .overflowed s events hset

theorem Ends.logging (h : Ends n set r o) (event : β → Event) :
    Ends n set r (o.logging event) := by
  cases h with
  | answered a events => exact .answered a (events ++ [event a])
  | refused e events he hset => exact .refused e events he hset
  | overflowed s events hset => exact .overflowed s events hset

theorem ends_drawWith (f : Binary64 → β) (r : Random σ) :
    Ends 1 none r (.ofPair (r.drawWith f)) :=
  .answered _ _

theorem shuffle_eq (items : List α) (r : Random σ) :
    r.shuffle items =
      (Shuffle.permute ((List.range (items.length - 1)).map (stream r.sampler)) items,
        r.withSampler (after (items.length - 1) r.sampler)) := by
  rw [shuffle, Shuffle.run, units_eq]
  rfl

theorem ends_shuffle (items : List α) (r : Random σ) :
    Ends (items.length - 1) none r (.ofPair (r.shuffle items)) := by
  rw [shuffle_eq]
  exact .answered _ _

theorem ends_die (sides : Int) (r : Random σ) : Ends 1 none r (r.die sides) := by
  rw [die]
  split
  · exact ends_drawWith _ r
  · exact .refused _ _ nofun rfl

theorem ends_flip (p : Binary64) (r : Random σ) : Ends 1 none r (r.flip p) := by
  rw [flip]
  split
  · exact ends_drawWith _ r
  · exact .refused _ _ nofun rfl

theorem roll_of_not_admitted {e : Expression} (h : ¬ e.Admitted r.maxRolls) :
    ∃ max, r.maxRolls = some max ∧ r.roll e =
      .fail (.tooManyRolls e.diceCount max) r [.limitExceeded e e.diceCount max] := by
  obtain ⟨max, hmax, hroll⟩ := Expression.roll_of_not_admitted h r.sampler
  refine ⟨max, hmax, ?_⟩
  rw [roll, hroll]
  rfl

theorem roll_of_fits {e : Expression} (h : e.Admitted r.maxRolls)
    (hfit : e.totalOn (stream r.sampler) ≤ Total.limit) :
    r.roll e = ⟨.ok (e.rollOn (stream r.sampler)), r.withSampler (after e.diceCount r.sampler),
      eventsOn e.terms.toList (stream r.sampler)⟩ := by
  rw [roll, Expression.roll_of_admitted h r.sampler hfit]
  rfl

theorem roll_answer_of_exceeds {e : Expression} (h : e.Admitted r.maxRolls)
    (hfit : Total.limit < e.totalOn (stream r.sampler)) :
    (r.roll e).answer = .error .overflow := by
  rw [roll_answer, Expression.roll_eq_rollAll h]
  exact Expression.rollAll_overflows e r.sampler hfit

theorem rolls_roll (e : Expression) (r : Random σ) : r.Rolls e (r.roll e) := by
  by_cases hadmitted : e.Admitted r.maxRolls
  · by_cases hfit : e.totalOn (stream r.sampler) ≤ Total.limit
    · rw [roll_of_fits hadmitted hfit]
      exact .rolled hadmitted _
    · have hanswer := roll_answer_of_exceeds hadmitted (Nat.lt_of_not_le hfit)
      have hroll : r.roll e = ⟨.error .overflow,
          r.withSampler (e.roll r.maxRolls r.sampler).state, (r.roll e).events⟩ := by
        rw [← hanswer]
        rfl
      rw [hroll]
      exact .overflowed hadmitted _ _
  · obtain ⟨max, hmax, hroll⟩ := roll_of_not_admitted hadmitted
    rw [hroll]
    refine .rejected hmax ?_
    rw [hmax, Expression.admitted_some] at hadmitted
    exact Nat.lt_of_not_le hadmitted

theorem ends_roll (e : Expression) (r : Random σ) : Ends e.diceCount none r (r.roll e) := by
  have h := rolls_roll e r
  generalize r.roll e = o at h ⊢
  cases h with
  | rejected hmax hlt => exact .refused _ _ nofun rfl
  | rolled h events => exact .answered _ events
  | overflowed h s events => exact .overflowed s events rfl

theorem rollNotation_of_parse {text : String} {e : Expression}
    (h : Expression.parse text = .ok e) (r : Random σ) : r.rollNotation text = r.roll e := by
  rw [rollNotation, h]

theorem rollNotation_of_parse_error {text : String} {e : ParseError}
    (h : Expression.parse text = .error e) (r : Random σ) :
    r.rollNotation text = .fail (.parse e) r [.parseFailed text e] := by
  rw [rollNotation, h]

theorem ends_rollNotation (text : String) (r : Random σ) :
    Ends (unitsOf text) none r (r.rollNotation text) := by
  cases h : Expression.parse text with
  | ok e =>
    rw [rollNotation_of_parse h, unitsOf, h]
    exact ends_roll e r
  | error e =>
    rw [rollNotation_of_parse_error h]
    exact .refused _ _ nofun rfl

end Random

namespace Call

def notation? : Call α → Option String
  | .rollNotation text | .dieRoll text => some text
  | _ => none

def expression? : Call α → Option Expression
  | .roll e => some e
  | .rollNotation text | .dieRoll text => (Expression.parse text).toOption
  | _ => none

def units : Call α → Nat
  | .unit | .upTo _ | .between _ _ | .die _ | .flip _ | .fairFlip | .draw _ => 1
  | .shuffled items | .shuffle items => items.length - 1
  | .dieRoll text | .rollNotation text => Random.unitsOf text
  | .roll e => e.diceCount
  | .limitTo _ | .unbounded | .limit | .rewrap => 0

def limitSet? : Call α → Option (Option Nat)
  | .limitTo max => some (some max)
  | .unbounded | .rewrap => some none
  | _ => none

theorem units_of_expression {c : Call α} {e : Expression} (h : c.expression? = some e) :
    c.units = e.diceCount := by
  cases c with
  | roll d => exact congrArg Expression.diceCount (Option.some.inj h)
  | dieRoll text | rollNotation text =>
    have hparse : Expression.parse text = .ok e := toOption_eq_some.mp h
    simp only [units, Random.unitsOf, hparse]
  | _ => cases h

variable [Sampler σ]

theorem ends_run (c : Call α) (r : Random σ) : r.Ends c.units c.limitSet? (c.run r) := by
  cases c with
  | unit => exact (Random.ends_drawWith id r).map Answer.unit
  | upTo n => exact (Random.ends_drawWith (Draw.integerOf 0 n) r).map Answer.integer
  | between a b => exact (Random.ends_drawWith (Draw.integerOf a b) r).map Answer.integer
  | die sides => exact (Random.ends_die sides r).map Answer.integer
  | shuffled items => exact (Random.ends_shuffle items r).map (Answer.copy · items)
  | shuffle items => exact (Random.ends_shuffle items r).map Answer.items
  | flip p => exact (Random.ends_flip p r).map Answer.truth
  | fairFlip => exact (Random.ends_drawWith (Binary64.lt · .half) r).map Answer.truth
  | dieRoll text =>
    have htotal := (Random.ends_rollNotation text r).map Roll.total
    exact (htotal.logging (.notationRolled text)).map Answer.total
  | rollNotation text => exact (Random.ends_rollNotation text r).map Answer.roll
  | roll e => exact (Random.ends_roll e r).map Answer.roll
  | limitTo max => exact .answered Answer.done []
  | unbounded => exact .answered Answer.done []
  | limit => exact .answered (Answer.limit r.maxRolls) []
  | draw d => exact (Random.ends_drawWith (Draw.result · d) r).map Answer.drawn
  | rewrap => exact .answered Answer.done []

def answerOf : Call α → Roll → Answer α
  | .dieRoll _, rolled => .total rolled.total
  | _, rolled => .roll rolled

theorem run_of_expression {c : Call α} {e : Expression} (h : c.expression? = some e)
    (r : Random σ) : (c.run r).answer = (r.roll e).answer.map c.answerOf := by
  cases c with
  | roll _ =>
    obtain rfl := Option.some.inj h
    rfl
  | rollNotation text =>
    rw [← Random.rollNotation_of_parse (toOption_eq_some.mp h)]
    rfl
  | dieRoll text =>
    have hrolled := Random.dieRoll_answer text r
    rw [Random.rollNotation_of_parse (toOption_eq_some.mp h)] at hrolled
    simp only [run, Outcome.map, hrolled]
    cases (r.roll e).answer <;> rfl
  | _ => cases h

theorem run_of_unreadable {c : Call α} {text : String} (hc : c.notation? = some text)
    (h : c.expression? = none) (r : Random σ) :
    ∃ e, Expression.parse text = .error e ∧ (c.run r).answer = .error (.parse e) := by
  cases c with
  | rollNotation _ | dieRoll _ =>
    obtain rfl := Option.some.inj hc
    obtain ⟨e, he⟩ := toOption_eq_none.mp h
    have hrolled := Random.rollNotation_of_parse_error he r
    refine ⟨e, he, ?_⟩
    simp only [run, Random.dieRoll, hrolled]
    rfl
  | _ => cases hc

theorem run_eq_error_of_expression {c : Call α} {e : Expression} (h : c.expression? = some e)
    {r : Random σ} {d : Error} : (c.run r).answer = .error d ↔ (r.roll e).answer = .error d := by
  rw [run_of_expression h]
  cases (r.roll e).answer <;> simp [Except.map]

end Call

end Chance
