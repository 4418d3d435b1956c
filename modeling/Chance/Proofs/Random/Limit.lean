import Chance.Proofs.Random.InTurn

namespace Chance

open Sampler

variable {σ α β : Type}

theorem Term.diceCount_le (t : Term) : t.diceCount ≤ 4294967295 := by
  cases t with
  | dice d => exact Nat.le_of_lt_succ d.count.small
  | constant n => exact Nat.zero_le _

theorem Expression.diceCount_le_of_length {e : Expression}
    (h : e.terms.toList.length ≤ 4294967296) : e.diceCount ≤ 18446744073709551615 := by
  have hsum := List.sum_le_card_nsmul (e.terms.toList.map Term.diceCount) 4294967295 (by
    intro n hn
    obtain ⟨t, -, rfl⟩ := List.mem_map.mp hn
    exact t.diceCount_le)
  rw [List.length_map, smul_eq_mul] at hsum
  rw [diceCount_eq]
  omega

namespace Outcome

def Rejected (o : Outcome σ β) : Prop :=
  ∃ requested max, o.answer = .error (.tooManyRolls requested max)

instance (o : Outcome σ β) : Decidable o.Rejected :=
  match h : o.answer with
  | .error (.tooManyRolls requested max) => isTrue ⟨requested, max, h⟩
  | .error (.nonPositiveSides _) | .error (.probabilityOutOfRange _) | .error (.parse _)
  | .error .overflow | .ok _ => isFalse fun ⟨_, _, he⟩ => nomatch h.symm.trans he

theorem within_map {τ γ : Type} (o : Outcome σ β) (f : β → γ) (g : σ → τ) :
    (o.map f).within g = (o.within g).map f := rfl

theorem within_logging {τ : Type} (o : Outcome σ β) (event : β → Event) (g : σ → τ) :
    (o.logging event).within g = (o.within g).logging event := by
  cases h : o.answer <;> simp only [logging, within, h]

end Outcome

namespace Random

variable [Sampler σ]

theorem within_roll {e : Expression} {r : Random σ} (h : e.Admitted r.maxRolls) :
    (r.roll e).within sampler = (r.rewrap.roll e).within sampler :=
  Expression.roll_eq_rollAll h r.sampler

theorem within_rollNotation {text : String} {r : Random σ}
    (h : ∀ e, Expression.parse text = .ok e → e.Admitted r.maxRolls) :
    (r.rollNotation text).within sampler = (r.rewrap.rollNotation text).within sampler := by
  cases hparse : Expression.parse text with
  | ok e =>
    rw [rollNotation_of_parse hparse, rollNotation_of_parse hparse]
    exact within_roll (h e hparse)
  | error e =>
    rw [rollNotation_of_parse_error hparse, rollNotation_of_parse_error hparse]
    rfl

theorem Ends.maxRolls {n : Nat} {set : Option (Option Nat)} {r : Random σ}
    {o : Outcome (Random σ) β} (h : r.Ends n set o) :
    o.state.maxRolls = set.getD r.maxRolls := by
  cases h with
  | answered a events => rfl
  | refused e events he hset => rw [hset]; rfl
  | overflowed s events hset => rw [hset]; rfl

theorem roll_eq_tooManyRolls {e : Expression} {r : Random σ} {requested max : Nat} :
    (r.roll e).answer = .error (.tooManyRolls requested max) ↔
      r.maxRolls = some max ∧ requested = e.diceCount ∧ max < e.diceCount := by
  have h := rolls_roll e r
  generalize r.roll e = o at h ⊢
  cases h with
  | @rejected limit hlimit hlt =>
    rw [hlimit]
    simp only [Outcome.fail, Except.error.injEq, Error.tooManyRolls.injEq, Option.some.injEq]
    constructor
    · rintro ⟨rfl, rfl⟩
      exact ⟨rfl, rfl, hlt⟩
    · rintro ⟨rfl, rfl, -⟩
      exact ⟨rfl, rfl⟩
  | rolled hadmitted | overflowed hadmitted =>
    apply iff_of_false nofun
    rintro ⟨hmax, -, hlt⟩
    exact Nat.not_le_of_lt hlt (hadmitted max hmax)

end Random

namespace Call

def limitAfter (cs : List (Call α)) (limit : Option Nat) : Option Nat :=
  (cs.filterMap limitSet?).getLast?.getD limit

theorem limitAfter_cons (c : Call α) (cs : List (Call α)) (limit : Option Nat) :
    limitAfter (c :: cs) limit = limitAfter cs (c.limitSet?.getD limit) := by
  cases h : c.limitSet? with
  | none => simp [limitAfter, h]
  | some l => simp [limitAfter, h, List.getLast?_cons]

variable [Sampler σ]

theorem maxRolls_run (c : Call α) (r : Random σ) :
    (c.run r).state.maxRolls = c.limitSet?.getD r.maxRolls :=
  (c.ends_run r).maxRolls

theorem maxRolls_runInTurn (cs : List (Call α)) (r : Random σ) :
    (runInTurn cs r).2.maxRolls = limitAfter cs r.maxRolls := by
  induction cs generalizing r with
  | nil => rfl
  | cons c cs ih => rw [runInTurn_cons, ih, maxRolls_run, limitAfter_cons]

theorem admitted_of_not_rejected {c : Call α} {e : Expression} (hc : c.expression? = some e)
    {r : Random σ} (h : ¬ (c.run r).Rejected) : e.Admitted r.maxRolls := by
  by_contra hadmitted
  obtain ⟨max, -, hroll⟩ := Random.roll_of_not_admitted hadmitted
  have hrejected := congrArg Outcome.answer hroll
  exact h ⟨_, max, (run_eq_error_of_expression hc).mpr hrejected⟩

def concernsLimit : Call α → Bool
  | .limitTo _ | .unbounded | .rewrap | .limit => true
  | _ => false

theorem sampler_run_of_concernsLimit {c : Call α} (hc : c.concernsLimit = true) (r : Random σ) :
    (c.run r).state.sampler = r.sampler := by
  cases c with
  | limitTo max | unbounded | rewrap | limit => rfl
  | _ => cases hc

theorem limitSet?_of_not_concernsLimit {c : Call α} (hc : c.concernsLimit = false) :
    c.limitSet? = none := by
  cases c with
  | limitTo max | unbounded | rewrap | limit => cases hc
  | _ => rfl

theorem within_run {c : Call α} (hc : c.concernsLimit = false) {r : Random σ}
    (h : ¬ (c.run r).Rejected) :
    (c.run r).within Random.sampler = (c.run r.rewrap).within Random.sampler := by
  cases c with
  | limitTo max | unbounded | rewrap | limit => cases hc
  | unit | upTo n | between a b | fairFlip | draw d | shuffled items | shuffle items => rfl
  | die sides =>
    simp only [run, Random.die]
    split <;> rfl
  | flip p =>
    simp only [run, Random.flip]
    split <;> rfl
  | roll e =>
    have hrolled := Random.within_roll (admitted_of_not_rejected rfl h)
    exact congrArg (Outcome.map Answer.roll) hrolled
  | rollNotation text =>
    have hrolled := Random.within_rollNotation fun e he =>
      admitted_of_not_rejected (c := rollNotation text) (toOption_eq_some.mpr he) h
    exact congrArg (Outcome.map Answer.roll) hrolled
  | dieRoll text =>
    have hrolled := Random.within_rollNotation fun e he =>
      admitted_of_not_rejected (c := dieRoll text) (toOption_eq_some.mpr he) h
    simp only [run, Random.dieRoll, Outcome.within_map, Outcome.within_logging, hrolled]

theorem state_run_rewrap {c : Call α} (hc : c.concernsLimit = false) {r : Random σ}
    (h : ¬ (c.run r).Rejected) : (c.run r.rewrap).state = (c.run r).state.rewrap := by
  have hsampler : (c.run r.rewrap).state.sampler = (c.run r).state.sampler :=
    (congrArg Outcome.state (within_run hc h)).symm
  have hlimit : (c.run r.rewrap).state.maxRolls = none := by
    rw [maxRolls_run, limitSet?_of_not_concernsLimit hc]
    rfl
  calc (c.run r.rewrap).state
    _ = ⟨(c.run r.rewrap).state.sampler, (c.run r.rewrap).state.maxRolls⟩ := rfl
    _ = (c.run r).state.rewrap := by rw [hsampler, hlimit]; rfl

/-- The outcomes of the calls that do not concern the limit, without the limit in their states. -/
def seenInTurn (cs : List (Call α)) (r : Random σ) : List (Outcome σ (Answer α)) :=
  ((cs.zip (runInTurn cs r).1).filter fun p => !p.1.concernsLimit).map fun p =>
    p.2.within Random.sampler

theorem seenInTurn_eq {cs : List (Call α)} {r : Random σ}
    (h : ∀ o ∈ (runInTurn cs r).1, ¬ o.Rejected) :
    let unlimited := runInTurn (cs.filter fun c => !c.concernsLimit) r.rewrap
    seenInTurn cs r = unlimited.1.map (·.within Random.sampler) ∧
      (runInTurn cs r).2.sampler = unlimited.2.sampler := by
  induction cs generalizing r with
  | nil => exact ⟨rfl, rfl⟩
  | cons c cs ih =>
    rw [runInTurn_cons] at h
    have hfirst := h (c.run r) List.mem_cons_self
    obtain ⟨hseen, hsampler⟩ := ih fun o ho => h o (List.mem_cons_of_mem _ ho)
    cases hc : c.concernsLimit with
    | true =>
      have hstate : (c.run r).state.rewrap = r.rewrap := by
        rw [Random.rewrap, sampler_run_of_concernsLimit hc]
        rfl
      rw [hstate] at hseen hsampler
      simp only [seenInTurn, runInTurn_cons, List.zip_cons_cons, List.filter_cons, hc,
        Bool.not_true, Bool.false_eq_true, if_false]
      exact ⟨hseen, hsampler⟩
    | false =>
      simp only [seenInTurn, runInTurn_cons, List.zip_cons_cons, List.filter_cons, hc,
        Bool.not_false, if_true, List.map_cons, within_run hc hfirst, state_run_rewrap hc hfirst]
      exact ⟨congrArg _ hseen, hsampler⟩

theorem limit_exact_and_unseen :
    (∀ e : Expression, e.diceCount = (e.terms.toList.map Term.diceCount).sum ∧
      (e.terms.toList.length ≤ 4294967296 → e.diceCount ≤ 18446744073709551615)) ∧
    (∀ (before : List (Call α)) (r : Random σ),
      (runInTurn before r).2.maxRolls = limitAfter before r.maxRolls ∧
      ∀ (c : Call α) (e : Expression), c.expression? = some e →
        e.diceCount ≤ 18446744073709551615 → ∀ requested max : Nat,
          (c.run (runInTurn before r).2).answer = .error (.tooManyRolls requested max) ↔
            limitAfter before r.maxRolls = some max ∧ requested = e.diceCount ∧
              max < e.diceCount) ∧
    (∀ (cs ds : List (Call α)) (r q : Random σ), r.sampler = q.sampler →
      (cs.filter fun c => !c.concernsLimit) = (ds.filter fun c => !c.concernsLimit) →
      (∀ o ∈ (runInTurn cs r).1, ¬ o.Rejected) → (∀ o ∈ (runInTurn ds q).1, ¬ o.Rejected) →
      seenInTurn cs r = seenInTurn ds q ∧
        (runInTurn cs r).2.sampler = (runInTurn ds q).2.sampler) := by
  refine ⟨?_, ?_, ?_⟩
  · intro e
    exact ⟨e.diceCount_eq, Expression.diceCount_le_of_length⟩
  · intro before r
    refine ⟨maxRolls_runInTurn before r, ?_⟩
    intro c e he _ requested max
    rw [run_eq_error_of_expression he, Random.roll_eq_tooManyRolls, maxRolls_runInTurn]
  · intro cs ds r q hsampler hcalls hcs hds
    obtain ⟨hseen, hstate⟩ := seenInTurn_eq hcs
    obtain ⟨hseen', hstate'⟩ := seenInTurn_eq hds
    have hunlimited : r.rewrap = q.rewrap := congrArg Random.ofSampler hsampler
    rw [hseen, hseen', hstate, hstate', hcalls, hunlimited]
    exact ⟨rfl, rfl⟩

theorem limit_exact_and_unseen_at_the_boundary :
    let r := Random.ofSampler (Script.ofValues ⟨Binary64.half, [Binary64.zero]⟩)
    let four : Expression := ⟨⟨.dice ⟨⟨3, by decide, by decide⟩, ⟨6, by decide, by decide⟩⟩,
      [.dice ⟨.one, ⟨4, by decide, by decide⟩⟩]⟩⟩
    let c : Call Nat := .roll four
    let before : List (Call Nat) := [.limitTo 9, .rewrap, c, .limitTo 4, c]
    let cs : List (Call Nat) := [.limitTo 4, .dieRoll "3d6+d4", .limit, .shuffle [1, 2, 3]]
    let ds : List (Call Nat) := [.dieRoll "3d6+d4", .unbounded, .shuffle [1, 2, 3], .limitTo 0]
    (four.terms.toList.length ≤ 4294967296 ∧ four.diceCount ≤ 18446744073709551615) ∧
    (c.expression? = some four ∧ ¬ (c.run (runInTurn before r).2).Rejected ∧
      (c.run (runInTurn (before ++ [.limitTo 3]) r).2).answer = .error (.tooManyRolls 4 3)) ∧
    (∀ o ∈ (runInTurn cs r).1, ¬ o.Rejected) ∧ (∀ o ∈ (runInTurn ds r).1, ¬ o.Rejected) ∧
    seenInTurn cs r = seenInTurn ds r ∧
      (runInTurn cs r).2.sampler = (runInTurn ds r).2.sampler := by
  intro r four c before cs ds
  obtain ⟨count, rejects, unseen⟩ :=
    limit_exact_and_unseen (σ := Script Binary64) (α := Nat)
  have hlength : four.terms.toList.length ≤ 4294967296 := by decide
  have hcount := (count four).2 hlength
  have hlimit : limitAfter (before ++ [.limitTo 3]) r.maxRolls = some 3 := rfl
  have hcs : ∀ o ∈ (runInTurn cs r).1, ¬ o.Rejected := by decide +kernel
  have hds : ∀ o ∈ (runInTurn ds r).1, ¬ o.Rejected := by decide +kernel
  have hrejected := (rejects (before ++ [.limitTo 3]) r).2 c four rfl hcount 4 3
  refine ⟨⟨hlength, hcount⟩, ⟨rfl, ?_, hrejected.mpr ⟨hlimit, rfl, by decide⟩⟩, hcs, hds,
    unseen cs ds r r rfl rfl hcs hds⟩
  rintro ⟨requested, max, h⟩
  obtain ⟨hmax, -, hlt⟩ := ((rejects before r).2 c four rfl hcount requested max).mp h
  obtain rfl : 4 = max := Option.some.inj hmax
  exact absurd hlt (by decide)

end Call

end Chance
