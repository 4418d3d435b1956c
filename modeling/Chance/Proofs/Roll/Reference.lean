import Chance.Proofs.Roll.UnitStream
import Chance.Roll.Evaluation
import Mathlib

/-!
What rolling means on a stream of units. The dice of an expression are laid out one after the
other, and each takes the unit in its place. Rolling does just this, unless the sum is too large;
expressions rolled in turn take consecutive segments of the stream.
-/

namespace Chance

open Sampler

def facesOn (sides : List Positive) (us : Nat → Binary64) : List Nat :=
  sides.mapIdx fun k n => Draw.faceOf n (us k)

theorem facesOn_append (ss ts : List Positive) (us : Nat → Binary64) :
    facesOn (ss ++ ts) us = facesOn ss us ++ facesOn ts fun k => us (ss.length + k) := by
  simp only [facesOn, List.mapIdx_append, Nat.add_comm]

theorem facesOn_cons (n : Positive) (ss : List Positive) (us : Nat → Binary64) :
    facesOn (n :: ss) us = Draw.faceOf n (us 0) :: facesOn ss fun k => us (k + 1) :=
  List.mapIdx_cons

theorem length_facesOn (ss : List Positive) (us : Nat → Binary64) :
    (facesOn ss us).length = ss.length :=
  List.length_mapIdx

theorem facesOn_congr {ss : List Positive} {us vs : Nat → Binary64}
    (h : ∀ k < ss.length, us k = vs k) : facesOn ss us = facesOn ss vs := by
  apply List.mapIdx_eq_mapIdx_iff.mpr
  intro k hk
  rw [h k hk]

theorem Draw.faceOf_le (n : Positive) (u : Binary64) : faceOf n u ≤ n.value := by
  have hpos := n.pos
  rw [faceOf]
  omega

theorem sum_facesOn_le (ss : List Positive) (us : Nat → Binary64) :
    (facesOn ss us).sum ≤ (ss.map Positive.value).sum := by
  induction ss generalizing us with
  | nil => exact Nat.le_refl 0
  | cons n ss ih =>
    rw [facesOn_cons, List.sum_cons, List.map_cons, List.sum_cons]
    exact Nat.add_le_add (Draw.faceOf_le n _) (ih _)

namespace Term

def sides : Term → List Positive
  | .dice d => List.replicate d.count.value d.sides
  | .constant _ => []

def fixed : Term → Nat
  | .dice _ => 0
  | .constant n => n.val

def rollOn (t : Term) (us : Nat → Binary64) : TermRoll :=
  match t with
  | .dice d => .dice d (facesOn t.sides us)
  | .constant n => .constant n

theorem length_sides (t : Term) : t.sides.length = t.diceCount := by
  cases t with
  | dice d => exact List.length_replicate
  | constant n => rfl

end Term

theorem Dice.faces_eq {σ : Type} [Sampler σ] (d : Dice) (s : σ) :
    d.faces s =
      (facesOn (List.replicate d.count.value d.sides) (stream s), after d.count.value s) := by
  have hfaces : facesOn (List.replicate d.count.value d.sides) (stream s) =
      (List.range d.count.value).map fun k => Draw.faceOf d.sides (stream s k) := by
    apply List.ext_getElem
    · simp [length_facesOn]
    · intro k _ _
      simp [facesOn]
  rw [faces, units_eq, hfaces]
  simp only [Prod.map, List.map_map, id]
  rfl

theorem Term.roll_eq {σ : Type} [Sampler σ] (t : Term) (s : σ) :
    t.roll s = (t.rollOn (stream s), after t.diceCount s) := by
  cases t with
  | dice d => rw [roll, Dice.faces_eq]; rfl
  | constant n => rfl

namespace TermRoll

def faces : TermRoll → List Nat
  | .dice _ faces => faces
  | .constant _ => []

def sum : TermRoll → Nat
  | .dice _ faces => faces.sum
  | .constant n => n.val

inductive Records : Term → TermRoll → Prop
  | dice {d : Dice} {faces : List Nat} (h : faces.length = d.count.value) :
      Records (.dice d) (.dice d faces)
  | constant {n : Number} : Records (.constant n) (.constant n)

end TermRoll

theorem Total.foldlM_add? (faces : List Nat) {total : Nat} (h : total ≤ limit) :
    faces.foldlM add? total =
      if total + faces.sum ≤ limit then some (total + faces.sum) else none := by
  induction faces generalizing total with
  | nil => simp [h]
  | cons face faces ih =>
    rw [List.foldlM_cons, List.sum_cons, ← Nat.add_assoc]
    by_cases hface : total + face ≤ limit
    · rw [add?, if_pos hface]
      exact ih hface
    · rw [add?, if_neg hface, if_neg (by omega)]
      rfl

theorem TermRoll.subtotal?_eq (r : TermRoll) :
    r.subtotal? = if r.sum ≤ Total.limit then some r.sum else none := by
  cases r with
  | dice d faces =>
    rw [subtotal?, Total.foldlM_add? faces (Nat.zero_le _), Nat.zero_add]
    rfl
  | constant n =>
    have hn : n.val ≤ Total.limit := Nat.le_trans (Nat.le_of_lt n.isLt) (by decide)
    exact (if_pos hn).symm

theorem Term.addRoll_eq {σ : Type} [Sampler σ] (total : Nat) (t : Term) (s : σ) :
    t.addRoll total s =
      let r := t.rollOn (stream s)
      if total + r.sum ≤ Total.limit then
        ⟨.ok (r, total + r.sum), after t.diceCount s, [.termRolled t r.sum]⟩
      else .fail .overflow (after t.diceCount s) [] := by
  simp only [addRoll, roll_eq, TermRoll.subtotal?_eq]
  by_cases hsum : (t.rollOn (stream s)).sum ≤ Total.limit
  · rw [if_pos hsum]
    by_cases htotal : total + (t.rollOn (stream s)).sum ≤ Total.limit
    · simp [Total.add?, htotal]
    · simp [Total.add?, htotal]
  · rw [if_neg hsum, if_neg (by omega)]

def rollsOn : List Term → (Nat → Binary64) → List TermRoll
  | [], _ => []
  | t :: ts, us => t.rollOn us :: rollsOn ts fun k => us (t.diceCount + k)

def eventsOn (ts : List Term) (us : Nat → Binary64) : List Event :=
  (ts.zip (rollsOn ts us)).map fun (t, r) => .termRolled t r.sum

def sumOn (ts : List Term) (us : Nat → Binary64) : Nat := ((rollsOn ts us).map TermRoll.sum).sum

theorem sumOn_cons (t : Term) (ts : List Term) (us : Nat → Binary64) :
    sumOn (t :: ts) us = (t.rollOn us).sum + sumOn ts fun k => us (t.diceCount + k) := rfl

theorem eventsOn_cons (t : Term) (ts : List Term) (us : Nat → Binary64) :
    eventsOn (t :: ts) us =
      .termRolled t (t.rollOn us).sum :: eventsOn ts fun k => us (t.diceCount + k) := rfl

theorem records_rollOn (t : Term) (us : Nat → Binary64) : TermRoll.Records t (t.rollOn us) := by
  cases t with
  | dice d =>
    apply TermRoll.Records.dice
    rw [length_facesOn, Term.length_sides]
    rfl
  | constant n => exact .constant

theorem records_rollsOn (ts : List Term) (us : Nat → Binary64) :
    List.Forall₂ TermRoll.Records ts (rollsOn ts us) := by
  induction ts generalizing us with
  | nil => exact .nil
  | cons t ts ih => exact .cons (records_rollOn t us) (ih _)

theorem faces_rollOn (t : Term) (us : Nat → Binary64) :
    (t.rollOn us).faces = facesOn t.sides us := by
  cases t <;> rfl

theorem faces_rollsOn (ts : List Term) (us : Nat → Binary64) :
    (rollsOn ts us).flatMap TermRoll.faces = facesOn (ts.flatMap Term.sides) us := by
  induction ts generalizing us with
  | nil => rfl
  | cons t ts ih =>
    rw [rollsOn, List.flatMap_cons, List.flatMap_cons, facesOn_append, faces_rollOn, ih,
      Term.length_sides]

theorem sum_rollOn (t : Term) (us : Nat → Binary64) :
    (t.rollOn us).sum = (facesOn t.sides us).sum + t.fixed := by
  cases t with
  | dice d => rfl
  | constant n => simp [Term.rollOn, TermRoll.sum, Term.sides, Term.fixed, facesOn]

theorem sumOn_eq (ts : List Term) (us : Nat → Binary64) :
    sumOn ts us = (facesOn (ts.flatMap Term.sides) us).sum + (ts.map Term.fixed).sum := by
  induction ts generalizing us with
  | nil => rfl
  | cons t ts ih =>
    rw [sumOn_cons, ih, sum_rollOn, List.flatMap_cons, facesOn_append, Term.length_sides,
      List.sum_append, List.map_cons, List.sum_cons]
    omega

theorem subtotals_rollsOn (ts : List Term) (us : Nat → Binary64)
    (h : sumOn ts us ≤ Total.limit) :
    (rollsOn ts us).map TermRoll.subtotal? = ((rollsOn ts us).map TermRoll.sum).map some := by
  induction ts generalizing us with
  | nil => rfl
  | cons t ts ih =>
    rw [sumOn_cons] at h
    have hfirst : (t.rollOn us).sum ≤ Total.limit := by omega
    rw [rollsOn, List.map_cons, List.map_cons, List.map_cons, TermRoll.subtotal?_eq, if_pos hfirst,
      ih _ (by omega)]

namespace Expression

variable {σ : Type} [Sampler σ]

theorem rollTerms_of_exceeds {total : Nat} {t : Term} {s : σ}
    (h : Total.limit < total + (t.rollOn (stream s)).sum) (ts : List Term) :
    rollTerms total t ts s = .fail .overflow (after t.diceCount s) [] := by
  have hadd : t.addRoll total s = .fail .overflow (after t.diceCount s) [] := by
    rw [Term.addRoll_eq]
    exact if_neg (Nat.not_le_of_lt h)
  cases ts with
  | nil => rw [rollTerms, hadd]; rfl
  | cons next ts => rw [rollTerms, hadd]; rfl

theorem rollTerms_nil {total : Nat} {t : Term} {s : σ}
    (h : total + (t.rollOn (stream s)).sum ≤ Total.limit) :
    rollTerms total t [] s =
      ⟨.ok (.singleton (t.rollOn (stream s)), total + (t.rollOn (stream s)).sum),
        after t.diceCount s, [.termRolled t (t.rollOn (stream s)).sum]⟩ := by
  simp only [rollTerms, Term.addRoll_eq, if_pos h]
  rfl

theorem rollTerms_cons {total : Nat} {t : Term} {s : σ}
    (h : total + (t.rollOn (stream s)).sum ≤ Total.limit) (next : Term) (ts : List Term) :
    rollTerms total t (next :: ts) s =
      let sum := (t.rollOn (stream s)).sum
      let rest := rollTerms (total + sum) next ts (after t.diceCount s)
      ⟨rest.answer.map fun (rolls, total) => (.cons (t.rollOn (stream s)) rolls, total),
        rest.state, .termRolled t sum :: rest.events⟩ := by
  rw [rollTerms, Term.addRoll_eq]
  simp only [if_pos h, Outcome.andThen, Outcome.map, List.singleton_append]

theorem rollTerms_eq (total : Nat) (t : Term) (ts : List Term) (s : σ)
    (h : total + sumOn (t :: ts) (stream s) ≤ Total.limit) :
    rollTerms total t ts s =
      ⟨.ok (⟨t.rollOn (stream s), rollsOn ts fun k => stream s (t.diceCount + k)⟩,
        total + sumOn (t :: ts) (stream s)),
        after ((t :: ts).map Term.diceCount).sum s, eventsOn (t :: ts) (stream s)⟩ := by
  induction ts generalizing total t s with
  | nil => exact rollTerms_nil h
  | cons next ts ih =>
    rw [sumOn_cons] at h ⊢
    have hfirst : total + (t.rollOn (stream s)).sum ≤ Total.limit := by omega
    have hrest : total + (t.rollOn (stream s)).sum +
        sumOn (next :: ts) (stream (after t.diceCount s)) ≤ Total.limit := by
      rw [stream_after]
      omega
    simp only [rollTerms_cons hfirst, ih _ _ _ hrest, Except.map, after_after, stream_after]
    simp [NonemptyList.cons, NonemptyList.toList, eventsOn_cons, rollsOn, Nat.add_assoc]

def sides (e : Expression) : List Positive := e.terms.toList.flatMap Term.sides

def totalOn (e : Expression) (us : Nat → Binary64) : Nat :=
  (facesOn e.sides us).sum + (e.terms.toList.map Term.fixed).sum

def highest (e : Expression) : Nat :=
  (e.sides.map Positive.value).sum + (e.terms.toList.map Term.fixed).sum

theorem totalOn_le_highest (e : Expression) (us : Nat → Binary64) : e.totalOn us ≤ e.highest :=
  Nat.add_le_add_right (sum_facesOn_le e.sides us) _

/-- The roll is what the expression gives on the given units: a record for each term, the faces of
all dice from one unit each, and the exact total. -/
structure Gives (e : Expression) (us : Nat → Binary64) (r : Roll) : Prop where
  records : List.Forall₂ TermRoll.Records e.terms.toList r.terms.toList
  faces : r.terms.toList.flatMap TermRoll.faces = facesOn e.sides us
  total : r.total = e.totalOn us
  subtotals : ∃ ns : List Nat,
    r.terms.toList.map TermRoll.subtotal? = ns.map some ∧ r.total = ns.sum

theorem diceCount_eq (e : Expression) : e.diceCount = (e.terms.toList.map Term.diceCount).sum := by
  rw [diceCount, List.sum, List.foldr_map]

theorem length_sides (e : Expression) : e.sides.length = e.diceCount := by
  rw [sides, List.length_flatMap, diceCount_eq]
  congr 1
  exact List.map_congr_left fun t _ => t.length_sides

theorem totalOn_congr {e : Expression} {us vs : Nat → Binary64}
    (h : ∀ k < e.diceCount, us k = vs k) : e.totalOn us = e.totalOn vs := by
  have hfaces : facesOn e.sides us = facesOn e.sides vs :=
    facesOn_congr fun k hk => h k (Nat.lt_of_lt_of_eq hk e.length_sides)
  rw [totalOn, totalOn, hfaces]

def rollOn (e : Expression) (us : Nat → Binary64) : Roll :=
  ⟨⟨e.terms.head.rollOn us, rollsOn e.terms.tail fun k => us (e.terms.head.diceCount + k)⟩,
    e.totalOn us⟩

theorem gives_rollOn (e : Expression) (us : Nat → Binary64) (h : e.totalOn us ≤ Total.limit) :
    e.Gives us (e.rollOn us) := by
  have hterms : (e.rollOn us).terms.toList = rollsOn e.terms.toList us := rfl
  have htotal : e.totalOn us = sumOn e.terms.toList us := (sumOn_eq _ us).symm
  constructor
  · exact hterms ▸ records_rollsOn _ us
  · exact hterms ▸ faces_rollsOn _ us
  · rfl
  · refine ⟨(rollsOn e.terms.toList us).map TermRoll.sum, ?_, ?_⟩
    · exact hterms ▸ subtotals_rollsOn _ us (htotal ▸ h)
    · exact congrArg Int.ofNat htotal

theorem rollAll_eq (e : Expression) (s : σ) (h : e.totalOn (stream s) ≤ Total.limit) :
    e.rollAll s =
      ⟨.ok (e.rollOn (stream s)), after e.diceCount s, eventsOn e.terms.toList (stream s)⟩ := by
  have htotal : e.totalOn (stream s) = sumOn e.terms.toList (stream s) := (sumOn_eq _ _).symm
  have hsum : 0 + sumOn (e.terms.head :: e.terms.tail) (stream s) ≤ Total.limit := by
    rw [Nat.zero_add]
    exact htotal ▸ h
  rw [rollAll, rollTerms_eq 0 _ _ s hsum, rollOn, diceCount_eq, htotal, Nat.zero_add]
  rfl

end Expression

end Chance
