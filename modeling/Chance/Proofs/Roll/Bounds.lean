import Chance.Proofs.Roll.InTurn
import Chance.Random

namespace Chance

open Sampler

theorem Total.cut_add_cut (a b : Nat) : cut (cut a + cut b) = cut (a + b) := by
  simp only [cut]
  omega

theorem Total.foldl_cut {α : Type} {f g : α → Nat} (h : ∀ x, f x = cut (g x)) (xs : List α)
    (total : Nat) : xs.foldl (fun sum x => cut (sum + f x)) (cut total) =
      cut (total + (xs.map g).sum) := by
  induction xs generalizing total with
  | nil => rfl
  | cons x xs ih =>
    rw [List.foldl_cons, h, cut_add_cut, ih, List.map_cons, List.sum_cons, Nat.add_assoc]

theorem Draw.faceOf_pos (n : Positive) (u : Binary64) : 1 ≤ faceOf n u := Nat.le_add_left 1 _

theorem mem_facesOn {ss : List Positive} {us : Nat → Binary64} {face : Nat}
    (h : face ∈ facesOn ss us) : ∃ n ∈ ss, 1 ≤ face ∧ face ≤ n.value := by
  obtain ⟨k, hk, rfl⟩ := List.mem_mapIdx.mp h
  exact ⟨ss[k], List.getElem_mem hk, Draw.faceOf_pos _ _, Draw.faceOf_le _ _⟩

theorem length_le_sum_facesOn (ss : List Positive) (us : Nat → Binary64) :
    ss.length ≤ (facesOn ss us).sum := by
  induction ss generalizing us with
  | nil => exact Nat.le_refl 0
  | cons n ss ih =>
    have hface := Draw.faceOf_pos n (us 0)
    have hrest := ih fun k => us (k + 1)
    rw [facesOn_cons, List.sum_cons, List.length_cons]
    omega

namespace Term

def lowest (t : Term) : Nat := t.diceCount + t.fixed

def highest (t : Term) : Nat := (t.sides.map Positive.value).sum + t.fixed

theorem minTotal_eq (t : Term) : t.minTotal = Total.cut t.lowest := by
  have hlimit : Total.limit = 9223372036854775807 := rfl
  cases t with
  | dice d =>
    have hsmall := d.count.small
    simp only [minTotal, lowest, diceCount, fixed, Total.cut]
    omega
  | constant n =>
    have hsmall := n.isLt
    simp only [minTotal, lowest, diceCount, fixed, Total.cut]
    omega

theorem maxTotal_eq (t : Term) : t.maxTotal = Total.cut t.highest := by
  have hlimit : Total.limit = 9223372036854775807 := rfl
  cases t with
  | dice d => simp [maxTotal, highest, sides, fixed]
  | constant n =>
    have hsmall := n.isLt
    simp only [maxTotal, highest, sides, fixed, Total.cut, List.map_nil, List.sum_nil]
    omega

end Term

namespace Expression

def lowest (e : Expression) : Nat := e.diceCount + (e.terms.toList.map Term.fixed).sum

theorem lowest_eq (e : Expression) : e.lowest = (e.terms.toList.map Term.lowest).sum := by
  rw [lowest, diceCount_eq, ← List.sum_map_add]
  rfl

theorem highest_eq (e : Expression) : e.highest = (e.terms.toList.map Term.highest).sum := by
  have hsides : (e.sides.map Positive.value).sum =
      (e.terms.toList.map fun t => (t.sides.map Positive.value).sum).sum := by
    rw [sides, List.map_flatMap, List.flatMap_def, List.sum_flatten, List.map_map]
    rfl
  rw [highest, hsides, ← List.sum_map_add]
  rfl

theorem minTotal_eq (e : Expression) : e.minTotal = Total.cut e.lowest := by
  have h := Total.foldl_cut Term.minTotal_eq e.terms.toList 0
  rwa [Nat.zero_add, ← lowest_eq] at h

theorem maxTotal_eq (e : Expression) : e.maxTotal = Total.cut e.highest := by
  have h := Total.foldl_cut Term.maxTotal_eq e.terms.toList 0
  rwa [Nat.zero_add, ← highest_eq] at h

theorem lowest_le_totalOn (e : Expression) (us : Nat → Binary64) : e.lowest ≤ e.totalOn us := by
  have h := length_le_sum_facesOn e.sides us
  rw [length_sides] at h
  exact Nat.add_le_add_right h _

end Expression

inductive TermRoll.Within : Term → TermRoll → Prop
  | dice {d : Dice} {faces : List Nat} (hlength : faces.length = d.count.value)
      (hfaces : ∀ face ∈ faces, 1 ≤ face ∧ face ≤ d.sides.value) : Within (.dice d) (.dice d faces)
  | constant {n : Number} : Within (.constant n) (.constant n)

theorem within_rollOn (t : Term) (us : Nat → Binary64) : TermRoll.Within t (t.rollOn us) := by
  cases t with
  | dice d =>
    apply TermRoll.Within.dice
    · rw [length_facesOn, Term.length_sides]
      rfl
    · intro face hface
      obtain ⟨n, hn, hbounds⟩ := mem_facesOn hface
      rwa [List.eq_of_mem_replicate hn] at hbounds
  | constant n => exact .constant

theorem within_rollsOn (ts : List Term) (us : Nat → Binary64) :
    List.Forall₂ TermRoll.Within ts (rollsOn ts us) := by
  induction ts generalizing us with
  | nil => exact .nil
  | cons t ts ih => exact .cons (within_rollOn t us) (ih _)

namespace Expression

structure Encloses (e : Expression) (r : Roll) : Prop where
  records : List.Forall₂ TermRoll.Within e.terms.toList r.terms.toList
  minTotal_le : e.minTotal ≤ r.total
  le_maxTotal : r.total ≤ e.maxTotal

theorem encloses_rollOn (e : Expression) (us : Nat → Binary64) (h : e.totalOn us ≤ Total.limit) :
    e.Encloses (e.rollOn us) := by
  have htotal : (e.rollOn us).total = e.totalOn us := rfl
  have hlow := lowest_le_totalOn e us
  have hhigh := totalOn_le_highest e us
  constructor
  · exact within_rollsOn e.terms.toList us
  · rw [htotal, minTotal_eq, Total.cut]
    omega
  · rw [htotal, maxTotal_eq, Total.cut]
    omega

variable {σ : Type} [Sampler σ]

theorem rollTerms_overflows (total : Nat) (t : Term) (ts : List Term) (s : σ)
    (h : Total.limit < total + sumOn (t :: ts) (stream s)) :
    (rollTerms total t ts s).answer = .error .overflow := by
  induction ts generalizing total t s with
  | nil => rw [rollTerms_of_exceeds h]; rfl
  | cons next ts ih =>
    by_cases hfirst : total + (t.rollOn (stream s)).sum ≤ Total.limit
    · have hrest : Total.limit < total + (t.rollOn (stream s)).sum +
          sumOn (next :: ts) (stream (after t.diceCount s)) := by
        rw [sumOn_cons] at h
        rw [stream_after]
        omega
      rw [rollTerms_cons hfirst]
      exact congrArg (Except.map _) (ih _ _ _ hrest)
    · rw [rollTerms_of_exceeds (Nat.lt_of_not_le hfirst)]
      rfl

theorem rollAll_overflows (e : Expression) (s : σ) (h : Total.limit < e.totalOn (stream s)) :
    (e.rollAll s).answer = .error .overflow := by
  have hsum : Total.limit < 0 + sumOn (e.terms.head :: e.terms.tail) (stream s) := by
    rw [Nat.zero_add]
    exact Nat.lt_of_lt_of_eq h (sumOn_eq _ _).symm
  simp only [rollAll, Outcome.map, rollTerms_overflows 0 _ _ s hsum]
  rfl

theorem roll_answer_eq_ok {e : Expression} {maxRolls : Option Nat} {s : σ} {r : Roll}
    (h : (e.roll maxRolls s).answer = .ok r) :
    e.totalOn (stream s) ≤ Total.limit ∧ r = e.rollOn (stream s) := by
  by_cases hadmitted : e.Admitted maxRolls
  · rw [roll_eq_rollAll hadmitted] at h
    by_cases hfit : e.totalOn (stream s) ≤ Total.limit
    · rw [rollAll_eq e s hfit] at h
      exact ⟨hfit, (Except.ok.inj h).symm⟩
    · rw [rollAll_overflows e s (Nat.lt_of_not_le hfit)] at h
      cases h
  · obtain ⟨max, -, hroll⟩ := roll_of_not_admitted hadmitted s
    rw [hroll] at h
    cases h

theorem encloses_of_roll {e : Expression} {maxRolls : Option Nat} {s : σ} {r : Roll}
    (h : (e.roll maxRolls s).answer = .ok r) : e.Encloses r := by
  obtain ⟨hfit, rfl⟩ := roll_answer_eq_ok h
  exact encloses_rollOn e _ hfit

end Expression

namespace Random

variable {σ : Type} [Sampler σ]

theorem roll_answer (e : Expression) (r : Random σ) :
    (r.roll e).answer = (e.roll r.maxRolls r.sampler).answer := rfl

theorem encloses_of_rollNotation {text : String} {r : Random σ} {roll : Roll}
    (h : (r.rollNotation text).answer = .ok roll) :
    ∃ e, Expression.parse text = .ok e ∧ e.Encloses roll := by
  unfold rollNotation at h
  split at h
  · rename_i e he
    rw [roll_answer] at h
    exact ⟨e, he, Expression.encloses_of_roll h⟩
  · cases h

def totalEvents (text : String) : Except Error Roll → List Event
  | .ok rolled => [.notationRolled text rolled.total]
  | .error _ => []

theorem dieRoll_eq (text : String) (r : Random σ) :
    r.dieRoll text =
      ⟨(r.rollNotation text).answer.map Roll.total, (r.rollNotation text).state,
        (r.rollNotation text).events ++ totalEvents text (r.rollNotation text).answer⟩ := by
  rw [dieRoll]
  generalize r.rollNotation text = o
  obtain ⟨answer, state, events⟩ := o
  cases answer with
  | ok rolled => rfl
  | error e => simp only [Outcome.logging, Outcome.map, Except.map, totalEvents, List.append_nil]

theorem dieRoll_answer (text : String) (r : Random σ) :
    (r.dieRoll text).answer = (r.rollNotation text).answer.map Roll.total :=
  congrArg Outcome.answer (dieRoll_eq text r)

end Random

theorem rolls_within_bounds {σ : Type} [Sampler σ] :
    (∀ (e : Expression) (maxRolls : Option Nat) (s : σ) (roll : Roll),
      (e.roll maxRolls s).answer = .ok roll → e.Encloses roll) ∧
    (∀ (text : String) (r : Random σ) (roll : Roll), (r.rollNotation text).answer = .ok roll →
      ∃ e, Expression.parse text = .ok e ∧ e.Encloses roll) ∧
    (∀ (text : String) (r : Random σ) (total : Int), (r.dieRoll text).answer = .ok total →
      ∃ e, Expression.parse text = .ok e ∧ e.minTotal ≤ total ∧ total ≤ e.maxTotal) := by
  refine ⟨?_, ?_, ?_⟩
  · intro e maxRolls s roll h
    exact Expression.encloses_of_roll h
  · intro text r roll h
    exact Random.encloses_of_rollNotation h
  · intro text r total h
    rw [Random.dieRoll_answer] at h
    cases hroll : (r.rollNotation text).answer with
    | error error =>
      rw [hroll] at h
      cases h
    | ok roll =>
      rw [hroll] at h
      obtain rfl := Except.ok.inj h
      obtain ⟨e, he, hbounds⟩ := Random.encloses_of_rollNotation hroll
      exact ⟨e, he, hbounds.minTotal_le, hbounds.le_maxTotal⟩

theorem rolls_within_bounds_off_the_unit_interval :
    let s : Script Binary64 := .ofValues ⟨.nan, [.infinite false, .infinite true]⟩
    let dice : Dice := ⟨⟨3, by decide, by decide⟩, ⟨6, by decide, by decide⟩⟩
    let e : Expression := ⟨⟨.dice dice, [.constant 1]⟩⟩
    let roll : Roll := ⟨⟨.dice dice [1, 6, 1], [.constant 1]⟩, 9⟩
    ((e.roll none s).answer = .ok roll ∧ e.Encloses roll) ∧
    (((Random.ofSampler s).rollNotation "3d6+1").answer = .ok roll ∧
      ∃ d, Expression.parse "3d6+1" = .ok d ∧ d.Encloses roll) ∧
    (((Random.ofSampler s).dieRoll "3d6+1").answer = .ok 9 ∧
      ∃ d, Expression.parse "3d6+1" = .ok d ∧ d.minTotal ≤ 9 ∧ 9 ≤ d.maxTotal) := by
  intro s dice e roll
  have hroll : (e.roll none s).answer = .ok roll := by decide +kernel
  have hrolled : ((Random.ofSampler s).rollNotation "3d6+1").answer = .ok roll := by
    decide +kernel
  have htotal : ((Random.ofSampler s).dieRoll "3d6+1").answer = .ok 9 := by decide +kernel
  obtain ⟨bounds, boundsOfNotation, boundsOfTotal⟩ := rolls_within_bounds (σ := Script Binary64)
  refine ⟨⟨hroll, bounds e none s roll hroll⟩, ⟨hrolled, boundsOfNotation _ _ _ hrolled⟩,
    htotal, ?_⟩
  exact_mod_cast boundsOfTotal _ _ _ htotal

end Chance
