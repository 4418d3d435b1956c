import Chance.Proofs.Random.Endings
import Chance.Session

namespace Chance

variable {σ α β : Type}

inductive Deleting (P : β → Prop) : List β → List β → Prop
  | nil : Deleting P [] []
  | keep (x : β) {xs ys : List β} (h : Deleting P xs ys) : Deleting P (x :: xs) (x :: ys)
  | delete {x : β} {xs ys : List β} (hx : P x) (h : Deleting P xs ys) : Deleting P (x :: xs) ys

theorem Deleting.mono {P Q : β → Prop} {xs ys : List β} (h : Deleting P xs ys)
    (hPQ : ∀ x ∈ xs, P x → Q x) : Deleting Q xs ys := by
  induction h with
  | nil => exact .nil
  | keep x h ih => exact .keep x (ih fun y hy => hPQ y (List.mem_cons_of_mem x hy))
  | @delete x xs ys hx h ih =>
    apply Deleting.delete
    · exact hPQ x List.mem_cons_self hx
    · exact ih fun y hy => hPQ y (List.mem_cons_of_mem x hy)

theorem deleting_filter (P : β → Prop) [DecidablePred P] (xs : List β) :
    Deleting P xs (xs.filter fun x => ¬ P x) := by
  induction xs with
  | nil => exact .nil
  | cons x xs ih =>
    by_cases hx : P x
    · rw [List.filter_cons_of_neg (by simpa using hx)]
      exact .delete hx ih
    · rw [List.filter_cons_of_pos (by simpa using hx)]
      exact .keep x ih

namespace Outcome

def Failed (o : Outcome σ β) : Prop := ∃ e, o.answer = .error e

def Refused (o : Outcome σ β) : Prop := ∃ e, o.answer = .error e ∧ e ≠ .overflow

instance (o : Outcome σ β) : Decidable o.Failed :=
  match h : o.answer with
  | .ok _ => isFalse fun ⟨_, he⟩ => nomatch h.symm.trans he
  | .error e => isTrue ⟨e, h⟩

instance (o : Outcome σ β) (e : Error) : Decidable (o.answer = .error e) :=
  match o.answer with
  | .ok _ => isFalse nofun
  | .error d => decidable_of_iff (d = e) (by simp)

theorem not_failed {o : Outcome σ β} {a : β} (h : o.answer = .ok a) : ¬ o.Failed := by
  rintro ⟨e, he⟩
  rw [h] at he
  cases he

theorem refused_of_failed {o : Outcome σ β} (h : o.Failed) (ho : o.answer ≠ .error .overflow) :
    o.Refused := by
  obtain ⟨e, he⟩ := h
  refine ⟨e, he, ?_⟩
  rintro rfl
  exact ho he

end Outcome

variable [Sampler σ]

theorem Random.Ends.state_of_refused {n : Nat} {set : Option (Option Nat)} {r : Random σ}
    {o : Outcome (Random σ) β} (h : r.Ends n set o) (ho : o.Refused) : o.state = r := by
  obtain ⟨e, he, hne⟩ := ho
  cases h with
  | answered a events => cases he
  | refused d events hd hset => rfl
  | overflowed s events hset => exact absurd (Except.error.inj he).symm hne

theorem Call.state_of_refused {c : Call α} {r : Random σ} (h : (c.run r).Refused) :
    (c.run r).state = r :=
  (c.ends_run r).state_of_refused h

namespace Session

theorem state_of_refused {c : Command α} {s : Session σ} (h : (s.step c).Refused) :
    (s.step c).state = s := by
  obtain ⟨e, he, hne⟩ := h
  cases c with
  | call c =>
    have hanswer : (c.run s.current).answer = .error e := Outcome.map_answer_eq_error.mp he
    have hstate := Call.state_of_refused ⟨e, hanswer, hne⟩
    simp only [step, Outcome.within, Outcome.map, hstate]
  | save => cases he
  | restore =>
    cases hs : s.saved with
    | nil => simp only [step, hs, Outcome.ofPair]
    | cons r rs =>
      simp only [step, hs, Outcome.ofPair] at he
      cases he

theorem run_cons (c : Command α) (cs : List (Command α)) (s : Session σ) :
    run (c :: cs) s = (s.step c :: (run cs (s.step c).state).1, (run cs (s.step c).state).2) := rfl

theorem run_of_deleting {cs : List (Command α)} {s : Session σ}
    {kept : List (Command α × Outcome (Session σ) (Reply α))}
    (h : Deleting (fun p => p.2.Refused) (cs.zip (run cs s).1) kept) :
    run (kept.map Prod.fst) s = (kept.map Prod.snd, (run cs s).2) := by
  induction cs generalizing s kept with
  | nil =>
    cases h
    rfl
  | cons c cs ih =>
    rw [run_cons, List.zip_cons_cons] at h
    cases h with
    | @keep _ _ kept h =>
      rw [List.map_cons, run_cons, ih h]
      rfl
    | delete hrefused h =>
      rw [state_of_refused hrefused] at h
      rw [ih h, run_cons, state_of_refused hrefused]

end Session

theorem failing_calls_change_nothing :
    (∀ (c : Call α) (r : Random σ) (e : Error),
      (c.run r).answer = .error e → e ≠ .overflow → (c.run r).state = r) ∧
    ∀ (cs : List (Command α)) (s : Session σ)
      (kept : List (Command α × Outcome (Session σ) (Reply α))),
      (∀ o ∈ (Session.run cs s).1, o.answer ≠ .error .overflow) →
      Deleting (fun p => p.2.Failed) (cs.zip (Session.run cs s).1) kept →
      Session.run (kept.map Prod.fst) s = (kept.map Prod.snd, (Session.run cs s).2) := by
  constructor
  · intro c r e he hne
    exact Call.state_of_refused ⟨e, he, hne⟩
  · intro cs s kept hoverflow hkept
    apply Session.run_of_deleting
    apply hkept.mono
    intro p hp hfailed
    exact Outcome.refused_of_failed hfailed (hoverflow p.2 (List.of_mem_zip hp).2)

theorem failing_calls_change_nothing_between_saves :
    let r := Random.ofSampler (Counted.start (Script.ofValues ⟨Binary64.half, [Binary64.zero]⟩))
    let s := Session.start r
    let cs : List (Command Nat) := [.call (.limitTo 3), .call (.die 0), .save,
      .call (.dieRoll "4d6"), .call (.rollNotation "2dX"), .call (.dieRoll "2d6+1"),
      .call (.flip .nan), .restore, .call .fairFlip]
    let kept := (cs.zip (Session.run cs s).1).filter fun p => ¬ p.2.Failed
    ((Call.die 0 : Call Nat).run r).state = r ∧
    (∀ o ∈ (Session.run cs s).1, o.answer ≠ .error .overflow) ∧
    Deleting (fun p => p.2.Failed) (cs.zip (Session.run cs s).1) kept ∧
    Session.run (kept.map Prod.fst) s = (kept.map Prod.snd, (Session.run cs s).2) ∧
    (kept.map fun p => p.2.state.current.sampler.draws) = [0, 0, 2, 0, 1] := by
  intro r s cs kept
  obtain ⟨unchanged, others⟩ :=
    failing_calls_change_nothing (σ := Counted (Script Binary64)) (α := Nat)
  have hoverflow : ∀ o ∈ (Session.run cs s).1, o.answer ≠ .error .overflow := by decide +kernel
  have hkept : Deleting (fun p => p.2.Failed) (cs.zip (Session.run cs s).1) kept :=
    deleting_filter _ _
  have hdraws : (kept.map fun p => p.2.state.current.sampler.draws) = [0, 0, 2, 0, 1] := by
    decide +kernel
  have hdie : ((Call.die 0 : Call Nat).run r).answer = .error (.nonPositiveSides 0) := rfl
  exact ⟨unchanged _ _ _ hdie nofun, hoverflow, hkept, others cs s kept hoverflow hkept, hdraws⟩

end Chance
