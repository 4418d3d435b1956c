import Chance.Proofs.Draw.Uniformity
import Chance.Proofs.Roll.Bounds

namespace Chance

open Sampler

namespace Term

def highestFaces : Term → Nat
  | .dice d => d.count.value * d.sides.value
  | .constant _ => 0

theorem highest_eq (t : Term) : t.highest = t.highestFaces + t.fixed := by
  cases t with
  | dice d => simp [highest, highestFaces, sides]
  | constant n => simp [highest, highestFaces, sides]

end Term

theorem facesOn_eq_map {us : Nat → Binary64} {f : Positive → Nat}
    (h : ∀ (n : Positive) (k : Nat), Draw.faceOf n (us k) = f n) (ss : List Positive) :
    facesOn ss us = ss.map f := by
  induction ss generalizing us with
  | nil => rfl
  | cons n ss ih =>
    rw [facesOn_cons, h, ih fun n k => h n (k + 1)]
    rfl

namespace Expression

def runningTotal (e : Expression) (us : Nat → Binary64) (i : Nat) : Nat :=
  (facesOn ((e.terms.toList.take i).flatMap Term.sides) us).sum +
    ((e.terms.toList.take i).map Term.fixed).sum

theorem highest_eq_sum (e : Expression) :
    e.highest =
      (e.terms.toList.map Term.highestFaces).sum + (e.terms.toList.map Term.fixed).sum := by
  have hterms : Term.highest = fun t => t.highestFaces + t.fixed := by
    funext t
    exact t.highest_eq
  rw [highest_eq, hterms, List.sum_map_add]

theorem totalOn_eq_highest {us : Nat → Binary64}
    (h : ∀ (n : Positive) (k : Nat), Draw.faceOf n (us k) = n.value) (e : Expression) :
    e.totalOn us = e.highest := by
  rw [totalOn, facesOn_eq_map h]
  rfl

variable {σ : Type} [Sampler σ]

theorem roll_overflows_iff {e : Expression} {maxRolls : Option Nat} (h : e.Admitted maxRolls)
    (s : σ) :
    (e.roll maxRolls s).answer = .error .overflow ↔ Total.limit < e.totalOn (stream s) := by
  by_cases hfit : e.totalOn (stream s) ≤ Total.limit
  · rw [roll_of_admitted h s hfit]
    exact iff_of_false nofun (Nat.not_lt_of_le hfit)
  · have hexceeds := Nat.lt_of_not_le hfit
    rw [roll_eq_rollAll h]
    exact iff_of_true (rollAll_overflows e s hexceeds) hexceeds

theorem admitted_of_overflow {e : Expression} {maxRolls : Option Nat} {s : σ}
    (h : (e.roll maxRolls s).answer = .error .overflow) : e.Admitted maxRolls := by
  by_contra hadmitted
  obtain ⟨max, -, hroll⟩ := roll_of_not_admitted hadmitted s
  rw [hroll] at h
  cases h

structure ExceedsAt (total : Nat) (ts : List Term) (us : Nat → Binary64) (i : Nat) : Prop where
  lt_length : i < ts.length
  within : ∀ j ≤ i, total + sumOn (ts.take j) us ≤ Total.limit
  exceeds : Total.limit < total + sumOn (ts.take (i + 1)) us

theorem exceedsAt_zero {total : Nat} {t : Term} {ts : List Term} {us : Nat → Binary64}
    (hwithin : total ≤ Total.limit) (h : Total.limit < total + (t.rollOn us).sum) :
    ExceedsAt total (t :: ts) us 0 := by
  constructor
  · exact Nat.zero_lt_succ _
  · intro j hj
    obtain rfl := Nat.le_zero.mp hj
    exact hwithin
  · exact h

theorem ExceedsAt.succ {total i : Nat} {t : Term} {ts : List Term} {us : Nat → Binary64}
    (hwithin : total ≤ Total.limit)
    (h : ExceedsAt (total + (t.rollOn us).sum) ts (fun k => us (t.diceCount + k)) i) :
    ExceedsAt total (t :: ts) us (i + 1) := by
  constructor
  · exact Nat.succ_lt_succ h.lt_length
  · intro j hj
    cases j with
    | zero => exact hwithin
    | succ j =>
      have hrest := h.within j (Nat.le_of_succ_le_succ hj)
      rwa [List.take_succ_cons, sumOn_cons, ← Nat.add_assoc]
  · have hrest := h.exceeds
    rwa [List.take_succ_cons, sumOn_cons, ← Nat.add_assoc]

theorem rollTerms_stops (total : Nat) (t : Term) (ts : List Term) (s : σ)
    (hwithin : total ≤ Total.limit) (h : Total.limit < total + sumOn (t :: ts) (stream s)) :
    ∃ i, ExceedsAt total (t :: ts) (stream s) i ∧
      (rollTerms total t ts s).state =
        after (((t :: ts).take (i + 1)).map Term.diceCount).sum s := by
  induction ts generalizing total t s with
  | nil =>
    refine ⟨0, exceedsAt_zero hwithin h, ?_⟩
    rw [rollTerms_of_exceeds h]
    rfl
  | cons next ts ih =>
    by_cases hfirst : total + (t.rollOn (stream s)).sum ≤ Total.limit
    · have hrest : Total.limit < total + (t.rollOn (stream s)).sum +
          sumOn (next :: ts) (stream (after t.diceCount s)) := by
        rw [stream_after, Nat.add_assoc, ← sumOn_cons]
        exact h
      obtain ⟨i, hexceeds, hstate⟩ := ih _ _ _ hfirst hrest
      rw [stream_after] at hexceeds
      refine ⟨i + 1, hexceeds.succ hwithin, ?_⟩
      rw [rollTerms_cons hfirst]
      exact hstate.trans (after_after _ _ s)
    · have hexceeds := Nat.lt_of_not_le hfirst
      refine ⟨0, exceedsAt_zero hwithin hexceeds, ?_⟩
      rw [rollTerms_of_exceeds hexceeds]
      rfl

theorem roll_stops {e : Expression} {maxRolls : Option Nat} {s : σ}
    (h : (e.roll maxRolls s).answer = .error .overflow) :
    ∃ i, ExceedsAt 0 e.terms.toList (stream s) i ∧
      (e.roll maxRolls s).state =
        after ((e.terms.toList.take (i + 1)).map Term.diceCount).sum s := by
  have hadmitted := admitted_of_overflow h
  have hexceeds : Total.limit < 0 + sumOn e.terms.toList (stream s) := by
    rw [Nat.zero_add, sumOn_eq]
    exact (roll_overflows_iff hadmitted s).mp h
  rw [roll_eq_rollAll hadmitted]
  exact rollTerms_stops 0 e.terms.head e.terms.tail s (Nat.zero_le _) hexceeds

theorem ExceedsAt.runningTotal {e : Expression} {us : Nat → Binary64} {i : Nat}
    (h : ExceedsAt 0 e.terms.toList us i) :
    (∀ j ≤ i, e.runningTotal us j ≤ Total.limit) ∧ Total.limit < e.runningTotal us (i + 1) := by
  have hsum (j : Nat) : e.runningTotal us j = 0 + sumOn (e.terms.toList.take j) us := by
    rw [Nat.zero_add, sumOn_eq]
    rfl
  constructor
  · intro j hj
    rw [hsum]
    exact h.within j hj
  · rw [hsum]
    exact h.exceeds

theorem overflow_iff_exceeds :
    (∀ e : Expression,
      e.minTotal =
        min ((e.terms.toList.map Term.diceCount).sum + (e.terms.toList.map Term.fixed).sum)
          9223372036854775807 ∧
      e.maxTotal =
        min ((e.terms.toList.map Term.highestFaces).sum + (e.terms.toList.map Term.fixed).sum)
          9223372036854775807) ∧
    (∀ (e : Expression) (maxRolls : Option Nat) (s : σ),
      (e.Admitted maxRolls →
        ((e.roll maxRolls s).answer = .error .overflow ↔
          9223372036854775807 < e.totalOn (stream s))) ∧
      ((e.terms.toList.map Term.highestFaces).sum + (e.terms.toList.map Term.fixed).sum ≤
          9223372036854775807 →
        (e.roll maxRolls s).answer ≠ .error .overflow) ∧
      ((e.roll maxRolls s).answer = .error .overflow →
        ∃ i < e.terms.toList.length,
          (∀ j ≤ i, e.runningTotal (stream s) j ≤ 9223372036854775807) ∧
          9223372036854775807 < e.runningTotal (stream s) (i + 1) ∧
          (e.roll maxRolls s).state =
            after ((e.terms.toList.take (i + 1)).map Term.diceCount).sum s)) := by
  constructor
  · intro e
    rw [← e.highest_eq_sum, ← e.diceCount_eq]
    exact ⟨e.minTotal_eq, e.maxTotal_eq⟩
  · intro e maxRolls s
    refine ⟨fun h => roll_overflows_iff h s, ?_, ?_⟩
    · intro hfits hoverflow
      rw [← highest_eq_sum] at hfits
      have hexceeds := (roll_overflows_iff (admitted_of_overflow hoverflow) s).mp hoverflow
      exact Nat.not_le_of_lt hexceeds (Nat.le_trans (e.totalOn_le_highest _) hfits)
    · intro hoverflow
      obtain ⟨i, hexceeds, hstate⟩ := roll_stops hoverflow
      obtain ⟨hwithin, hbeyond⟩ := hexceeds.runningTotal
      exact ⟨i, hexceeds.lt_length, hwithin, hbeyond, hstate⟩

theorem admitted_none (e : Expression) : e.Admitted none := nofun

theorem stream_counted_repeating (u : Binary64) (k : Nat) :
    stream (Counted.start (⟨⟨u, []⟩, []⟩ : Script Binary64)) k = u := by
  rw [stream_counted]
  exact stream_repeating u k

theorem overflow_iff_exceeds_at_the_limit :
    let s : Counted (Script Binary64) := .start ⟨⟨.grid (Binary64.twoPow 53 - 1), []⟩, []⟩
    let many : Dice := ⟨⟨2147483648, by decide, by decide⟩, ⟨4294967295, by decide, by decide⟩⟩
    let few : Dice := ⟨⟨2, by decide, by decide⟩, ⟨6, by decide, by decide⟩⟩
    let e : Expression := ⟨⟨.dice many, [.constant 2147483647]⟩⟩
    let beyond : Expression := ⟨⟨.dice many, [.constant 2147483647, .constant 1, .dice few]⟩⟩
    (e.totalOn (stream s) = Total.limit ∧ (e.roll none s).answer ≠ .error .overflow) ∧
    (beyond.roll none s).answer = .error .overflow ∧
    (beyond.roll none s).state.draws = 2147483648 := by
  intro s many few e beyond
  have hfaces (n : Positive) (k : Nat) : Draw.faceOf n (stream s k) = n.value := by
    rw [stream_counted_repeating]
    exact Draw.faceOf_grid_last n
  have htotal : e.totalOn (stream s) = Total.limit := by
    rw [totalOn_eq_highest hfaces, highest_eq_sum]
    decide +kernel
  have hexceeds : Total.limit < beyond.totalOn (stream s) := by
    rw [totalOn_eq_highest hfaces, highest_eq_sum]
    decide +kernel
  obtain ⟨-, rolls⟩ := overflow_iff_exceeds (σ := Counted (Script Binary64))
  obtain ⟨-, fits, -⟩ := rolls e none s
  obtain ⟨exceeds, -, stops⟩ := rolls beyond none s
  have hoverflow := (exceeds beyond.admitted_none).mpr hexceeds
  obtain ⟨i, hi, hwithin, -, hstate⟩ := stops hoverflow
  have hthird : Total.limit < beyond.runningTotal (stream s) 3 := by
    change Total.limit <
      totalOn ⟨⟨.dice many, [.constant 2147483647, .constant 1]⟩⟩ (stream s)
    rw [totalOn_eq_highest hfaces, highest_eq_sum]
    decide +kernel
  have hplace : i < 3 := by
    by_contra hlate
    exact Nat.not_le_of_lt hthird (hwithin 3 (Nat.le_of_not_lt hlate))
  have hcounts : ∀ j < 3,
      ((beyond.terms.toList.take (j + 1)).map Term.diceCount).sum = 2147483648 := by
    decide +kernel
  refine ⟨⟨htotal, fits (by decide +kernel)⟩, hoverflow, ?_⟩
  rw [hstate, hcounts i hplace, after_counted]
  exact Nat.zero_add _

end Expression

end Chance
