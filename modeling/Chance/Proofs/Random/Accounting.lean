import Chance.Proofs.Random.Failure
import Chance.Proofs.Random.Limit

namespace Chance

open Sampler

variable {σ τ α β : Type}

theorem Term.rollOn_congr {t : Term} {us vs : Nat → Binary64}
    (h : ∀ k < t.diceCount, us k = vs k) : t.rollOn us = t.rollOn vs := by
  cases t with
  | dice d =>
    have hfaces : facesOn (Term.dice d).sides us = facesOn (Term.dice d).sides vs :=
      facesOn_congr fun k hk => h k (Nat.lt_of_lt_of_eq hk (Term.dice d).length_sides)
    rw [rollOn, rollOn, hfaces]
  | constant n => rfl

theorem rollsOn_congr {ts : List Term} {us vs : Nat → Binary64}
    (h : ∀ k < (ts.map Term.diceCount).sum, us k = vs k) : rollsOn ts us = rollsOn ts vs := by
  induction ts generalizing us vs with
  | nil => rfl
  | cons t ts ih =>
    rw [List.map_cons, List.sum_cons] at h
    have hfirst : t.rollOn us = t.rollOn vs := Term.rollOn_congr fun k hk => h k (by omega)
    have hrest := ih fun k hk => h (t.diceCount + k) (by omega)
    rw [rollsOn, rollsOn, hfirst, hrest]

namespace Expression

theorem rollOn_congr {e : Expression} {us vs : Nat → Binary64}
    (h : ∀ k < e.diceCount, us k = vs k) : e.rollOn us = e.rollOn vs := by
  have hrolls : rollsOn e.terms.toList us = rollsOn e.terms.toList vs :=
    rollsOn_congr fun k hk => h k (Nat.lt_of_lt_of_eq hk e.diceCount_eq.symm)
  obtain ⟨hhead, htail⟩ := List.cons.inj hrolls
  rw [rollOn, rollOn, totalOn_congr h, hhead, htail]

end Expression

namespace Random

variable [Sampler σ] [Sampler τ]

theorem roll_answer_congr {e : Expression} {r : Random σ} {t : τ}
    (hfit : (r.roll e).answer ≠ .error .overflow)
    (h : ¬ (r.roll e).Failed → ∀ k < e.diceCount, stream t k = stream r.sampler k) :
    (roll e ⟨t, r.maxRolls⟩).answer = (r.roll e).answer := by
  by_cases hadmitted : e.Admitted r.maxRolls
  · have hlimit : e.totalOn (stream r.sampler) ≤ Total.limit := by
      by_contra hlimit
      exact hfit (roll_answer_of_exceeds hadmitted (Nat.lt_of_not_le hlimit))
    have hroll := roll_of_fits hadmitted hlimit
    have hagree : ∀ k < e.diceCount, stream t k = stream r.sampler k := by
      apply h
      exact Outcome.not_failed (congrArg Outcome.answer hroll)
    have hlimit' : e.totalOn (stream t) ≤ Total.limit := by
      rw [Expression.totalOn_congr hagree]
      exact hlimit
    rw [roll_of_fits (r := ⟨t, r.maxRolls⟩) hadmitted hlimit', hroll,
      Expression.rollOn_congr hagree]
  · obtain ⟨max, hmax, hroll⟩ := roll_of_not_admitted hadmitted
    obtain ⟨max', hmax', hroll'⟩ := roll_of_not_admitted (r := ⟨t, r.maxRolls⟩) hadmitted
    obtain rfl : max = max' := Option.some.inj (hmax.symm.trans hmax')
    rw [hroll, hroll']
    rfl

theorem drawWith_congr {f : Binary64 → β} {r : Random σ} {t : τ}
    (h : stream t 0 = stream r.sampler 0) :
    (drawWith f ⟨t, r.maxRolls⟩).1 = (r.drawWith f).1 :=
  congrArg f h

theorem shuffle_congr {items : List α} {r : Random σ} {t : τ}
    (h : ∀ k < items.length - 1, stream t k = stream r.sampler k) :
    (shuffle items ⟨t, r.maxRolls⟩).1 = (r.shuffle items).1 := by
  have hunits : (List.range (items.length - 1)).map (stream t) =
      (List.range (items.length - 1)).map (stream r.sampler) :=
    List.map_congr_left fun k hk => h k (List.mem_range.mp hk)
  rw [shuffle_eq, shuffle_eq, hunits]

theorem Ends.sampler_state {n : Nat} {set : Option (Option Nat)} {r : Random σ}
    {o : Outcome (Random σ) β} (h : r.Ends n set o) (hfit : o.answer ≠ .error .overflow) :
    o.state.sampler = after (if o.Failed then 0 else n) r.sampler := by
  cases h with
  | answered a events =>
    rw [if_neg (Outcome.not_failed rfl)]
  | refused e events he hset =>
    rw [if_pos ⟨e, rfl⟩]
    rfl
  | overflowed s events hset => exact absurd rfl hfit

theorem failed_roll_iff {e : Expression} {r : Random σ}
    (hfit : (r.roll e).answer ≠ .error .overflow) :
    (r.roll e).Failed ↔ ¬ e.Admitted r.maxRolls := by
  have h := rolls_roll e r
  generalize r.roll e = o at h hfit ⊢
  cases h with
  | rejected hmax hlt =>
    rw [hmax, Expression.admitted_some]
    exact iff_of_true ⟨_, rfl⟩ (Nat.not_le_of_lt hlt)
  | rolled hadmitted events => exact iff_of_false (Outcome.not_failed rfl) (not_not_intro hadmitted)
  | overflowed hadmitted s events => exact absurd rfl hfit

end Random

namespace Call

def Invalid (limit : Option Nat) (c : Call α) : Prop :=
  match c with
  | .die sides => ¬ (0 < sides ∧ sides ≤ 4294967295)
  | .flip p => ¬ (Binary64.zero.le p ∧ p.le .one)
  | .dieRoll _ | .rollNotation _ | .roll _ => ∀ e ∈ c.expression?, ¬ e.Admitted limit
  | _ => False

variable [Sampler σ] [Sampler τ]

theorem failed_iff_of_expression {c : Call α} {e : Expression} (h : c.expression? = some e)
    {r : Random σ} (hfit : (c.run r).answer ≠ .error .overflow) :
    (c.run r).Failed ↔ ¬ e.Admitted r.maxRolls := by
  have hroll : (r.roll e).answer ≠ .error .overflow :=
    fun ho => hfit ((run_eq_error_of_expression h).mpr ho)
  rw [← Random.failed_roll_iff hroll]
  exact exists_congr fun d => run_eq_error_of_expression h

theorem failed_die_iff {sides : Int} {r : Random σ} :
    ((die sides : Call α).run r).Failed ↔ ¬ (0 < sides ∧ sides ≤ 4294967295) := by
  by_cases h : 0 < sides ∧ sides ≤ 4294967295
  · have hsides : Positive.ofInt? sides = some ⟨sides.toNat, by omega, by omega⟩ :=
      dif_pos ⟨h.1, by omega⟩
    apply iff_of_false _ (not_not_intro h)
    simp only [run, Random.die, hsides]
    exact Outcome.not_failed rfl
  · have hsides : Positive.ofInt? sides = none := dif_neg (by omega)
    apply iff_of_true _ h
    simp only [run, Random.die, hsides]
    exact ⟨_, rfl⟩

theorem failed_flip_iff {p : Binary64} {r : Random σ} :
    ((flip p : Call α).run r).Failed ↔ ¬ (Binary64.zero.le p ∧ p.le .one) := by
  rw [← Bool.and_eq_true]
  by_cases h : (Binary64.zero.le p && p.le .one) = true
  · apply iff_of_false _ (not_not_intro h)
    simp only [run, Random.flip, if_pos h]
    exact Outcome.not_failed rfl
  · apply iff_of_true _ h
    simp only [run, Random.flip, if_neg h]
    exact ⟨_, rfl⟩

theorem invalid_iff_of_expression {c : Call α} {e : Expression} (h : c.expression? = some e)
    {limit : Option Nat} : c.Invalid limit ↔ ¬ e.Admitted limit := by
  cases c with
  | roll _ | rollNotation _ | dieRoll _ => simp [Invalid, h]
  | _ => cases h

theorem failed_iff {c : Call α} {r : Random σ} (hfit : (c.run r).answer ≠ .error .overflow) :
    (c.run r).Failed ↔ c.Invalid r.maxRolls := by
  cases hc : c.expression? with
  | some e => rw [failed_iff_of_expression hc hfit, invalid_iff_of_expression hc]
  | none =>
    cases c with
    | die sides => exact failed_die_iff
    | flip p => exact failed_flip_iff
    | roll e => cases hc
    | rollNotation text | dieRoll text =>
      obtain ⟨e, -, he⟩ := run_of_unreadable rfl hc r
      exact iff_of_true ⟨_, he⟩ (by simp [Invalid, hc])
    | _ => exact iff_of_false (Outcome.not_failed rfl) id

def cost (c : Call α) (o : Outcome (Random σ) (Answer α)) : Nat := if o.Failed then 0 else c.units

def costs (cs : List (Call α)) (r : Random σ) : List Nat :=
  List.zipWith cost cs (runInTurn cs r).1

theorem sampler_run {c : Call α} {r : Random σ} (hfit : (c.run r).answer ≠ .error .overflow) :
    (c.run r).state.sampler = after (c.cost (c.run r)) r.sampler :=
  (c.ends_run r).sampler_state hfit

theorem answer_congr_of_expression {c : Call α} {e : Expression} (hc : c.expression? = some e)
    {r : Random σ} {t : τ} (hfit : (c.run r).answer ≠ .error .overflow)
    (h : ¬ (c.run r).Failed → ∀ k < c.units, stream t k = stream r.sampler k) :
    (c.run ⟨t, r.maxRolls⟩).answer = (c.run r).answer := by
  rw [run_of_expression hc, run_of_expression hc, Random.roll_answer_congr]
  · exact fun ho => hfit ((run_eq_error_of_expression hc).mpr ho)
  · rw [units_of_expression hc] at h
    intro hok
    apply h
    rintro ⟨d, hd⟩
    exact hok ⟨d, (run_eq_error_of_expression hc).mp hd⟩

theorem answer_congr {c : Call α} {r : Random σ} {t : τ}
    (hfit : (c.run r).answer ≠ .error .overflow)
    (h : ∀ k < c.cost (c.run r), stream t k = stream r.sampler k) :
    (c.run ⟨t, r.maxRolls⟩).answer = (c.run r).answer := by
  have hagree (hok : ¬ (c.run r).Failed) : ∀ k < c.units, stream t k = stream r.sampler k := by
    intro k hk
    apply h
    rwa [cost, if_neg hok]
  cases hc : c.expression? with
  | some e => exact answer_congr_of_expression hc hfit hagree
  | none =>
    cases c with
    | roll e => cases hc
    | rollNotation text | dieRoll text =>
      obtain ⟨e, he, hanswer⟩ := run_of_unreadable rfl hc r
      obtain ⟨e', he', hanswer'⟩ := run_of_unreadable (σ := τ) rfl hc ⟨t, r.maxRolls⟩
      obtain rfl : e = e' := Except.error.inj (he.symm.trans he')
      rw [hanswer, hanswer']
    | die sides =>
      cases hsides : Positive.ofInt? sides with
      | none =>
        simp only [run, Random.die, hsides]
        rfl
      | some n =>
        simp only [run, Random.die, hsides] at hagree ⊢
        have hnext := hagree (Outcome.not_failed rfl) 0 Nat.one_pos
        simp only [Outcome.map, Outcome.ofPair, Random.drawWith_congr hnext]
    | flip p =>
      by_cases hp : (Binary64.zero.le p && p.le .one) = true
      · simp only [run, Random.flip, if_pos hp] at hagree ⊢
        have hnext := hagree (Outcome.not_failed rfl) 0 Nat.one_pos
        simp only [Outcome.map, Outcome.ofPair, Random.drawWith_congr hnext]
      · simp only [run, Random.flip, if_neg hp]
        rfl
    | shuffled items | shuffle items =>
      have hshuffle := Random.shuffle_congr (r := r) (hagree (Outcome.not_failed rfl))
      simp only [run, Outcome.ofPair, Prod.map_fst, hshuffle]
    | limitTo max | unbounded | limit | rewrap => rfl
    | _ =>
      have hnext := hagree (Outcome.not_failed rfl) 0 Nat.one_pos
      simp only [run, Outcome.ofPair, Prod.map_fst, Random.unit, Random.upTo, Random.between,
        Random.fairFlip, Random.draw, Random.drawWith_congr hnext]

theorem sampler_runInTurn {cs : List (Call α)} {r : Random σ}
    (hfit : ∀ o ∈ (runInTurn cs r).1, o.answer ≠ .error .overflow) :
    (runInTurn cs r).2.sampler = after (costs cs r).sum r.sampler := by
  induction cs generalizing r with
  | nil => rfl
  | cons c cs ih =>
    rw [runInTurn_cons] at hfit ⊢
    have hfirst := sampler_run (hfit _ List.mem_cons_self)
    have hcosts : costs (c :: cs) r = c.cost (c.run r) :: costs cs (c.run r).state := rfl
    rw [ih fun o ho => hfit o (List.mem_cons_of_mem _ ho), hfirst, after_after, hcosts,
      List.sum_cons]

theorem draws_accounted :
    (∀ (before : List (Call α)) (c : Call α) (r : Random σ),
      (∀ o ∈ (runInTurn (before ++ [c]) r).1, o.answer ≠ .error .overflow) →
      let start := (costs before r).sum
      let o := c.run (runInTurn before r).2
      (runInTurn before r).2.sampler = after start r.sampler ∧
      o.state.sampler = after (start + c.cost o) r.sampler ∧
      (o.Failed ↔ c.Invalid (limitAfter before r.maxRolls)) ∧
      ∀ (τ : Type) (_ : Sampler τ) (t : τ),
        (∀ k < c.cost o, stream t k = stream r.sampler (start + k)) →
          (c.run ⟨t, limitAfter before r.maxRolls⟩).answer = o.answer) ∧
    (∀ (cs : List (Call α)) (r : Random (Counted σ)),
      (∀ o ∈ (runInTurn cs r).1, o.answer ≠ .error .overflow) →
      (Session.run (cs.map .call) (Session.start r)).2.current.sampler.draws =
        r.sampler.draws + (costs cs r).sum) := by
  constructor
  · intro before c r hfit start o
    rw [runInTurn_append] at hfit
    have hbefore : (runInTurn before r).2.sampler = after start r.sampler :=
      sampler_runInTurn fun o ho => hfit o (List.mem_append_left _ ho)
    have ho : o.answer ≠ .error .overflow :=
      hfit o (List.mem_append_right _ List.mem_cons_self)
    have hlimit := maxRolls_runInTurn before r
    refine ⟨hbefore, ?_, ?_, ?_⟩
    · rw [sampler_run ho, hbefore, after_after]
    · rw [← hlimit]
      exact failed_iff ho
    · intro τ _ t ht
      rw [← hlimit]
      apply answer_congr ho
      rw [hbefore, stream_after]
      exact ht
  · intro cs r hfit
    rw [Session.run_calls]
    change (runInTurn cs r).2.sampler.draws = _
    rw [sampler_runInTurn hfit, after_counted]

theorem draws_accounted_with_refusals :
    let r := Random.ofSampler
      (Counted.start (Script.ofValues ⟨Binary64.half, [Binary64.zero, Binary64.nan]⟩))
    let before : List (Call Nat) := [.upTo 0, .die 0, .die 6, .flip .nan, .flip .half,
      .shuffled [1, 2, 3, 4], .shuffle [7], .limitTo 3, .dieRoll "4d6", .rollNotation "3d6+1",
      .limit, .dieRoll "1d", .rewrap, .draw (.index 0)]
    let c : Call Nat := .dieRoll "2d6"
    let o := c.run (runInTurn before r).2
    let t := Script.ofValues ⟨Binary64.zero, [Binary64.nan]⟩
    (∀ o ∈ (runInTurn (before ++ [c]) r).1, o.answer ≠ .error .overflow) ∧
    costs (before ++ [c]) r = [1, 0, 1, 0, 1, 3, 0, 0, 0, 3, 0, 0, 0, 1, 2] ∧
    o.state.sampler = after 12 r.sampler ∧
    (∀ k < c.cost o, stream t k = stream r.sampler (10 + k)) ∧
      (c.run (Random.ofSampler t)).answer = o.answer ∧
    (Session.run ((before ++ [c]).map .call) (Session.start r)).2.current.sampler.draws = 12 := by
  intro r before c o t
  have accounted := (draws_accounted (σ := Counted (Script Binary64)) (α := Nat)).1
  have draws := (draws_accounted (σ := Script Binary64) (α := Nat)).2
  have hfit : ∀ o ∈ (runInTurn (before ++ [c]) r).1, o.answer ≠ .error .overflow := by
    decide +kernel
  have hcosts : costs (before ++ [c]) r = [1, 0, 1, 0, 1, 3, 0, 0, 0, 3, 0, 0, 0, 1, 2] := by
    decide +kernel
  have hstart : (costs before r).sum = 10 := by decide +kernel
  have hcost : c.cost o = 2 := by decide +kernel
  have hagree : ∀ k < c.cost o, stream t k = stream r.sampler (10 + k) := by decide +kernel
  obtain ⟨-, hstate, -, hanswer⟩ := accounted before c r hfit
  have hdraws := draws (before ++ [c]) r hfit
  rw [hstart] at hstate hanswer
  rw [hcosts] at hdraws
  rw [hcost] at hstate
  exact ⟨hfit, hcosts, hstate, hagree, hanswer _ _ t hagree, hdraws⟩

end Call

end Chance
