import Chance.Proofs.Roll.Reference

namespace Chance.Expression

open Sampler

variable {σ : Type} [Sampler σ] {maxRolls : Option Nat}

def Admitted (maxRolls : Option Nat) (e : Expression) : Prop := ∀ max ∈ maxRolls, e.diceCount ≤ max

instance (maxRolls : Option Nat) (e : Expression) : Decidable (e.Admitted maxRolls) :=
  inferInstanceAs (Decidable (∀ max ∈ maxRolls, e.diceCount ≤ max))

/-- The units that the first `i` of some expressions take: one for each die of the admitted ones. -/
def unitsBefore (maxRolls : Option Nat) (es : List Expression) (i : Nat) : Nat :=
  (((es.take i).filter fun e => e.Admitted maxRolls).map diceCount).sum

theorem unitsBefore_zero (es : List Expression) : unitsBefore maxRolls es 0 = 0 := by
  rw [unitsBefore, List.take_zero]
  rfl

theorem unitsBefore_cons_succ (e : Expression) (es : List Expression) (i : Nat) :
    unitsBefore maxRolls (e :: es) (i + 1) =
      unitsBefore maxRolls [e] 1 + unitsBefore maxRolls es i := by
  by_cases h : e.Admitted maxRolls <;> simp [unitsBefore, h]

theorem unitsBefore_one (e : Expression) :
    unitsBefore maxRolls [e] 1 = if e.Admitted maxRolls then e.diceCount else 0 := by
  by_cases h : e.Admitted maxRolls <;> simp [unitsBefore, h]

theorem roll_of_not_admitted {e : Expression} (h : ¬ e.Admitted maxRolls) (s : σ) :
    ∃ max, maxRolls = some max ∧ e.roll maxRolls s =
      .fail (.tooManyRolls e.diceCount max) s [.limitExceeded e e.diceCount max] := by
  cases maxRolls with
  | none => simp [Admitted] at h
  | some max =>
    have hlt : max < e.diceCount := by simpa [Admitted] using h
    exact ⟨max, rfl, if_pos hlt⟩

theorem roll_eq_rollAll {e : Expression} (h : e.Admitted maxRolls) (s : σ) :
    e.roll maxRolls s = e.rollAll s := by
  cases maxRolls with
  | none => rfl
  | some max =>
    have hle : e.diceCount ≤ max := h max rfl
    exact if_neg (Nat.not_lt.mpr hle)

theorem roll_of_admitted {e : Expression} (h : e.Admitted maxRolls) (s : σ)
    (hfit : e.totalOn (stream s) ≤ Total.limit) :
    e.roll maxRolls s =
      ⟨.ok (e.rollOn (stream s)), after e.diceCount s, eventsOn e.terms.toList (stream s)⟩ := by
  rw [← rollAll_eq e s hfit, roll_eq_rollAll h s]

theorem state_roll {e : Expression} {s : σ}
    (hfit : e.Admitted maxRolls → e.totalOn (stream s) ≤ Total.limit) :
    (e.roll maxRolls s).state = after (unitsBefore maxRolls [e] 1) s := by
  rw [unitsBefore_one]
  by_cases h : e.Admitted maxRolls
  · rw [roll_of_admitted h s (hfit h), if_pos h]
  · obtain ⟨max, -, hroll⟩ := roll_of_not_admitted h s
    rw [hroll, if_neg h]
    rfl

def AllFit (maxRolls : Option Nat) (es : List Expression) (s : σ) : Prop :=
  ∀ i (e : Expression), es[i]? = some e → e.Admitted maxRolls →
    e.totalOn (fun k => stream s (unitsBefore maxRolls es i + k)) ≤ Total.limit

theorem allFit_of_highest {es : List Expression} (h : ∀ e ∈ es, e.highest ≤ Total.limit) (s : σ) :
    AllFit maxRolls es s := by
  intro i e he _
  exact Nat.le_trans (totalOn_le_highest e _) (h e (List.mem_of_getElem? he))

theorem AllFit.head {e : Expression} {es : List Expression} {s : σ}
    (h : AllFit maxRolls (e :: es) s) :
    e.Admitted maxRolls → e.totalOn (stream s) ≤ Total.limit := by
  intro hadmitted
  have hfirst := h 0 e rfl hadmitted
  simpa only [unitsBefore_zero, Nat.zero_add] using hfirst

theorem AllFit.tail {e : Expression} {es : List Expression} {s : σ}
    (h : AllFit maxRolls (e :: es) s) :
    AllFit maxRolls es (after (unitsBefore maxRolls [e] 1) s) := by
  intro i d hd hadmitted
  have hlater := h (i + 1) d hd hadmitted
  rw [unitsBefore_cons_succ] at hlater
  simpa only [stream_after, Nat.add_assoc] using hlater

theorem rollInTurn_eq {es : List Expression} {s : σ} (h : AllFit maxRolls es s) :
    rollInTurn maxRolls es s =
      (es.mapIdx fun i e => e.roll maxRolls (after (unitsBefore maxRolls es i) s),
        after (unitsBefore maxRolls es es.length) s) := by
  induction es generalizing s with
  | nil => rfl
  | cons e es ih =>
    simp only [rollInTurn, state_roll h.head, ih h.tail, after_after, ← unitsBefore_cons_succ,
      List.mapIdx_cons, unitsBefore_zero]
    rfl

theorem rollInTurn_gives (maxRolls : Option Nat) (es : List Expression) (s : σ)
    (h : AllFit maxRolls es s) :
    (rollInTurn maxRolls es s).1.length = es.length ∧
    (rollInTurn maxRolls es s).2 = after (unitsBefore maxRolls es es.length) s ∧
    ∀ i (e : Expression) (o : Outcome σ Roll), es[i]? = some e →
      (rollInTurn maxRolls es s).1[i]? = some o →
      (¬ e.Admitted maxRolls → o.state = after (unitsBefore maxRolls es i) s ∧
        ∃ max, maxRolls = some max ∧ o.answer = .error (.tooManyRolls e.diceCount max)) ∧
      (e.Admitted maxRolls → o.state = after (unitsBefore maxRolls es i + e.diceCount) s ∧
        ∃ r, o.answer = .ok r ∧
          e.Gives (fun k => stream s (unitsBefore maxRolls es i + k)) r) := by
  rw [rollInTurn_eq h]
  refine ⟨List.length_mapIdx, rfl, ?_⟩
  intro i e o he ho
  rw [List.getElem?_mapIdx, he, Option.map_some] at ho
  obtain rfl := Option.some.inj ho
  constructor
  · intro hadmitted
    obtain ⟨max, hmax, hroll⟩ :=
      roll_of_not_admitted hadmitted (after (unitsBefore maxRolls es i) s)
    exact ⟨congrArg Outcome.state hroll, max, hmax, congrArg Outcome.answer hroll⟩
  · intro hadmitted
    have hfit := h i e he hadmitted
    rw [← stream_after] at hfit ⊢
    rw [roll_of_admitted hadmitted _ hfit]
    exact ⟨after_after _ _ s, _, rfl, gives_rollOn e _ hfit⟩

theorem rollInTurn_gives_after_rejection :
    let five : Expression := ⟨.singleton (.dice ⟨⟨5, by decide, by decide⟩, .one⟩)⟩
    let pair : Dice := ⟨⟨2, by decide, by decide⟩, ⟨6, by decide, by decide⟩⟩
    let two : Expression := ⟨⟨.dice pair, [.constant 7]⟩⟩
    let s := Script.ofValues ⟨Binary64.half, [Binary64.zero]⟩
    AllFit (some 3) [five, two] s ∧ (rollInTurn (some 3) [five, two] s).2 = after 2 s ∧
      ∀ o, (rollInTurn (some 3) [five, two] s).1[1]? = some o →
        ∃ r, o.answer = .ok r ∧ r.total = 12 := by
  intro five pair two s
  have hfit : AllFit (some 3) [five, two] s := allFit_of_highest (by decide) s
  obtain ⟨-, hstate, hrolls⟩ := rollInTurn_gives (some 3) [five, two] s hfit
  refine ⟨hfit, hstate, ?_⟩
  intro o ho
  obtain ⟨-, r, hr, hgives⟩ := (hrolls 1 two o rfl ho).2 (by decide)
  have htotal : two.totalOn (fun k => stream s (unitsBefore (some 3) [five, two] 1 + k)) = 12 := by
    decide +kernel
  exact ⟨r, hr, hgives.total.trans (congrArg Int.ofNat htotal)⟩

end Chance.Expression
