import Chance.Proofs.Notation.RoundTrip
import Chance.Proofs.Random.Endings
import Chance.Proofs.Roll.Overflow
import Mathlib

namespace Chance

open Sampler

namespace Event

def shown (e : Event) : String × String × List (String × List Char) :=
  (e.level, e.message, e.fields)

def field? (name : String) (e : Event) : Option (List Char) := e.fields.lookup name

end Event

def loggedSum (events : List Event) : List Char :=
  ['+'].intercalate (events.filterMap (Event.field? "term"))

namespace Expression

/-- The events are the log of this roll of the expression: one for each term in order, with the
subtotal of its part of the roll. The subtotals add up to the total, and the terms to the
expression. -/
structure LoggedAs (e : Expression) (rolled : Roll) (events : List Event) : Prop where
  records : List.Forall₂ TermRoll.Records e.terms.toList rolled.terms.toList
  length : events.length = e.terms.toList.length
  subtotals : ∃ ns : List Nat, rolled.terms.toList.map TermRoll.subtotal? = ns.map some ∧
    rolled.total = ns.sum ∧ events.map Event.shown = List.zipWith (fun t n =>
      ("TRACE", "rolled term", [("term", t.text), ("subtotal", Nat.toDigits 10 n)]))
      e.terms.toList ns
  sum : loggedSum events = e.text
  reads_back : parse (String.ofList (loggedSum events)) = .ok e

end Expression

theorem length_rollsOn (ts : List Term) (us : Nat → Binary64) :
    (rollsOn ts us).length = ts.length :=
  (records_rollsOn ts us).length_eq.symm

theorem length_eventsOn (ts : List Term) (us : Nat → Binary64) :
    (eventsOn ts us).length = ts.length := by
  rw [eventsOn, List.length_map, List.length_zip, length_rollsOn, Nat.min_self]

theorem shown_eventsOn (ts : List Term) (us : Nat → Binary64) :
    (eventsOn ts us).map Event.shown = List.zipWith (fun t n =>
      ("TRACE", "rolled term", [("term", t.text), ("subtotal", Nat.toDigits 10 n)]))
      ts ((rollsOn ts us).map TermRoll.sum) := by
  induction ts generalizing us with
  | nil => rfl
  | cons t ts ih =>
    rw [eventsOn_cons, List.map_cons, ih]
    rfl

theorem loggedSum_eventsOn (ts : List Term) (us : Nat → Binary64) :
    loggedSum (eventsOn ts us) = ['+'].intercalate (ts.map Term.text) := by
  have hterms : (eventsOn ts us).filterMap (Event.field? "term") = ts.map Term.text := by
    induction ts generalizing us with
    | nil => rfl
    | cons t ts ih =>
      rw [eventsOn_cons, List.filterMap_cons, ih]
      rfl
  rw [loggedSum, hterms]

namespace Expression

theorem loggedAs_rollOn {e : Expression} {us : Nat → Binary64} (h : e.totalOn us ≤ Total.limit) :
    e.LoggedAs (e.rollOn us) (eventsOn e.terms.toList us) := by
  have htotal : e.totalOn us = sumOn e.terms.toList us := (sumOn_eq _ us).symm
  have hsum : loggedSum (eventsOn e.terms.toList us) = e.text := loggedSum_eventsOn _ us
  constructor
  · exact (e.gives_rollOn us h).records
  · exact length_eventsOn _ us
  · refine ⟨(rollsOn e.terms.toList us).map TermRoll.sum, ?_, ?_, shown_eventsOn _ us⟩
    · exact subtotals_rollsOn _ us (htotal ▸ h)
    · exact congrArg Int.ofNat htotal
  · exact hsum
  · rw [hsum]
    exact e.parse_toString_eq

theorem ExceedsAt.tail {total i : Nat} {t : Term} {ts : List Term} {us : Nat → Binary64}
    (h : ExceedsAt total (t :: ts) us (i + 1)) :
    ExceedsAt (total + (t.rollOn us).sum) ts (fun k => us (t.diceCount + k)) i := by
  constructor
  · exact Nat.lt_of_succ_lt_succ h.lt_length
  · intro j hj
    have hwithin := h.within (j + 1) (Nat.succ_le_succ hj)
    rwa [List.take_succ_cons, sumOn_cons, ← Nat.add_assoc] at hwithin
  · have hexceeds := h.exceeds
    rwa [List.take_succ_cons, sumOn_cons, ← Nat.add_assoc] at hexceeds

variable {σ : Type} [Sampler σ]

theorem events_rollTerms_of_exceedsAt {total i : Nat} {t : Term} {ts : List Term} {s : σ}
    (h : ExceedsAt total (t :: ts) (stream s) i) :
    (rollTerms total t ts s).events = eventsOn ((t :: ts).take i) (stream s) := by
  -- Each term that fits logs one event and goes on with the sum so far; the first that does not
  -- ends the roll without one.
  induction ts generalizing total i t s with
  | nil =>
    obtain rfl : i = 0 := Nat.lt_one_iff.mp h.lt_length
    rw [rollTerms_of_exceeds h.exceeds]
    rfl
  | cons next ts ih =>
    cases i with
    | zero =>
      rw [rollTerms_of_exceeds h.exceeds]
      rfl
    | succ i =>
      have hfirst : total + (t.rollOn (stream s)).sum ≤ Total.limit :=
        h.tail.within 0 (Nat.zero_le i)
      have htail := h.tail
      rw [← stream_after] at htail
      rw [rollTerms_cons hfirst, List.take_succ_cons, eventsOn_cons, ← stream_after]
      exact congrArg (Event.termRolled t _ :: ·) (ih htail)

theorem events_roll_of_overflow {e : Expression} {maxRolls : Option Nat} {s : σ}
    (h : (e.roll maxRolls s).answer = .error .overflow) :
    ∃ i, ExceedsAt 0 e.terms.toList (stream s) i ∧
      (e.roll maxRolls s).events = eventsOn (e.terms.toList.take i) (stream s) := by
  obtain ⟨i, hexceeds, -⟩ := roll_stops h
  refine ⟨i, hexceeds, ?_⟩
  rw [roll_eq_rollAll (admitted_of_overflow h)]
  exact events_rollTerms_of_exceedsAt hexceeds

end Expression

theorem Call.events_run_of_no_notation {σ α : Type} [Sampler σ] {c : Call α}
    (htext : c.notation? = none) (hexpression : c.expression? = none) (r : Random σ) :
    (c.run r).events = [] := by
  cases c with
  | dieRoll text | rollNotation text => cases htext
  | roll e => cases hexpression
  | die sides =>
    simp only [run, Random.die]
    split <;> rfl
  | flip p =>
    simp only [run, Random.flip]
    split <;> rfl
  | _ => rfl

namespace Random

variable {σ α : Type} [Sampler σ]

inductive Logs (text : String) (r : Random σ) : Outcome (Random σ) Roll → Prop
  | unreadable {e : ParseError} (h : Expression.parse text = .error e) :
      Logs text r (.fail (.parse e) r [.parseFailed text e])
  | rejected {e : Expression} {max : Nat} (h : Expression.parse text = .ok e)
      (hmax : r.maxRolls = some max) :
      Logs text r (.fail (.tooManyRolls e.diceCount max) r [.limitExceeded e e.diceCount max])
  | rolled {e : Expression} {rolled : Roll} {s : Random σ} {events : List Event}
      (h : Expression.parse text = .ok e) (hlog : e.LoggedAs rolled events) :
      Logs text r ⟨.ok rolled, s, events⟩
  | overflowed {e : Expression} {i : Nat} {s : Random σ} (h : Expression.parse text = .ok e)
      (hexceeds : Expression.ExceedsAt 0 e.terms.toList (stream r.sampler) i) :
      Logs text r ⟨.error .overflow, s, eventsOn (e.terms.toList.take i) (stream r.sampler)⟩

theorem logs_rollNotation (text : String) (r : Random σ) : Logs text r (r.rollNotation text) := by
  cases h : Expression.parse text with
  | error e =>
    rw [rollNotation_of_parse_error h]
    exact .unreadable h
  | ok e =>
    rw [rollNotation_of_parse h]
    by_cases hadmitted : e.Admitted r.maxRolls
    · by_cases hfit : e.totalOn (stream r.sampler) ≤ Total.limit
      · rw [roll_of_fits hadmitted hfit]
        exact .rolled h (Expression.loggedAs_rollOn hfit)
      · have hanswer := roll_answer_of_exceeds hadmitted (Nat.lt_of_not_le hfit)
        have hoverflow : (e.roll r.maxRolls r.sampler).answer = .error .overflow := hanswer
        obtain ⟨i, hexceeds, hevents⟩ := Expression.events_roll_of_overflow hoverflow
        have hroll : r.roll e = ⟨.error .overflow, (r.roll e).state,
            eventsOn (e.terms.toList.take i) (stream r.sampler)⟩ := by
          rw [← hanswer, ← hevents]
          rfl
        rw [hroll]
        exact .overflowed h hexceeds
    · obtain ⟨max, hmax, hroll⟩ := roll_of_not_admitted hadmitted
      rw [hroll]
      exact .rejected h hmax

theorem dieRoll_events (text : String) (r : Random σ) :
    (r.dieRoll text).events =
      (r.rollNotation text).events ++ totalEvents text (r.rollNotation text).answer :=
  congrArg Outcome.events (dieRoll_eq text r)

theorem roll_events (e : Expression) (r : Random σ) :
    (r.roll e).events = (r.rollNotation (toString e)).events := by
  rw [rollNotation_of_parse e.parse_toString_eq]

theorem log_faithful :
    (∀ (text : String) (r : Random σ),
      (∀ e, (r.dieRoll text).answer = .error (.parse e) →
        Expression.parse text = .error e ∧
        (r.dieRoll text).events.map Event.shown = [("DEBUG", "failed to parse dice expression",
          [("notation", text.toList), ("span", Event.spanText e.span), ("kind", e.reason.text)])]) ∧
      (∀ requested max, (r.dieRoll text).answer = .error (.tooManyRolls requested max) →
        ∃ e, Expression.parse text = .ok e ∧ requested = e.diceCount ∧ r.maxRolls = some max ∧
        (r.dieRoll text).events.map Event.shown = [("DEBUG", "rejected dice expression",
          [("expr", e.text), ("requested", Nat.toDigits 10 e.diceCount),
            ("max", Nat.toDigits 10 max)])]) ∧
      ((r.dieRoll text).answer = .error .overflow →
        ∃ e i, Expression.parse text = .ok e ∧
          Expression.ExceedsAt 0 e.terms.toList (stream r.sampler) i ∧
          (r.dieRoll text).events = eventsOn (e.terms.toList.take i) (stream r.sampler)) ∧
      (∀ total, (r.dieRoll text).answer = .ok total →
        ∃ e rolled events, Expression.parse text = .ok e ∧
          (r.rollNotation text).answer = .ok rolled ∧ rolled.total = total ∧
          e.LoggedAs rolled events ∧
          (r.dieRoll text).events.map Event.shown = events.map Event.shown ++
            [("TRACE", "rolled dice expression",
              [("notation", text.toList), ("total", integerText total)])]) ∧
      (r.dieRoll text).events =
        (r.rollNotation text).events ++ totalEvents text (r.rollNotation text).answer) ∧
    (∀ (e : Expression) (r : Random σ),
      (r.roll e).events = (r.rollNotation (toString e)).events) ∧
    ∀ (c : Call α) (r : Random σ), c.notation? = none → c.expression? = none →
      (c.run r).events = [] := by
  refine ⟨?_, roll_events, fun c r htext hexpression =>
    Call.events_run_of_no_notation htext hexpression r⟩
  intro text r
  rw [dieRoll_events, dieRoll_answer]
  have hlogs := logs_rollNotation text r
  generalize r.rollNotation text = o at hlogs ⊢
  cases hlogs with
  | @unreadable e h =>
    refine ⟨?_, nofun, nofun, nofun, rfl⟩
    rintro _ ⟨⟩
    exact ⟨h, rfl⟩
  | @rejected e max h hmax =>
    refine ⟨nofun, ?_, nofun, nofun, rfl⟩
    rintro _ _ ⟨⟩
    exact ⟨e, h, rfl, hmax, rfl⟩
  | @rolled e rolled s events h hlog =>
    refine ⟨nofun, nofun, nofun, ?_, rfl⟩
    rintro _ ⟨⟩
    refine ⟨e, rolled, events, h, rfl, rfl, hlog, ?_⟩
    exact List.map_append
  | @overflowed e i s h hexceeds =>
    refine ⟨nofun, nofun, ?_, nofun, rfl⟩
    intro _
    exact ⟨e, i, h, hexceeds, List.append_nil _⟩

theorem log_faithful_on_each_outcome :
    let r : Random (Script Binary64) := .ofSampler ⟨⟨.grid (Binary64.twoPow 53 - 1), []⟩, []⟩
    let large := "2147483648d4294967295 + 2147483648"
    ((r.dieRoll "2dX").answer =
        .error (.parse ⟨.unexpectedString [.plus], ⟨1, 2⟩, "d".toList⟩) ∧
      (r.dieRoll "2dX").events.map Event.shown = [("DEBUG", "failed to parse dice expression",
        [("notation", "2dX".toList), ("span", "1..2".toList), ("kind", "expected '+'".toList)])]) ∧
    (((r.limitTo 3).dieRoll "d8 + 3d6").answer = .error (.tooManyRolls 4 3) ∧
      ((r.limitTo 3).dieRoll "d8 + 3d6").events.map Event.shown = [("DEBUG",
        "rejected dice expression", [("expr", "1d8+3d6".toList), ("requested", "4".toList),
          ("max", "3".toList)])]) ∧
    ((r.dieRoll large).answer = .error .overflow ∧ ∃ e i, Expression.parse large = .ok e ∧
      Expression.ExceedsAt 0 e.terms.toList (stream r.sampler) i ∧
      (r.dieRoll large).events = eventsOn (e.terms.toList.take i) (stream r.sampler)) ∧
    ((r.dieRoll "2d6 + 5").answer = .ok 17 ∧ ∃ e rolled events,
      Expression.parse "2d6 + 5" = .ok e ∧ (r.rollNotation "2d6 + 5").answer = .ok rolled ∧
      rolled.total = 17 ∧ e.LoggedAs rolled events ∧
      (r.dieRoll "2d6 + 5").events.map Event.shown = events.map Event.shown ++
        [("TRACE", "rolled dice expression",
          [("notation", "2d6 + 5".toList), ("total", "17".toList)])]) ∧
    ((Call.fairFlip : Call Nat).notation? = none ∧ (Call.fairFlip : Call Nat).expression? = none ∧
      ((Call.fairFlip : Call Nat).run r).events = []) := by
  intro r large
  let e : Expression := ⟨⟨.dice ⟨⟨2147483648, by decide, by decide⟩,
    ⟨4294967295, by decide, by decide⟩⟩, [.constant 2147483648]⟩⟩
  let four : Expression := ⟨⟨.dice ⟨.one, ⟨8, by decide, by decide⟩⟩,
    [.dice ⟨⟨3, by decide, by decide⟩, ⟨6, by decide, by decide⟩⟩]⟩⟩
  obtain ⟨rolls, -, others⟩ := log_faithful (σ := Script Binary64) (α := Nat)
  obtain ⟨unread, -⟩ := rolls "2dX" r
  obtain ⟨-, rejected, -⟩ := rolls "d8 + 3d6" (r.limitTo 3)
  obtain ⟨-, -, overflowed, -⟩ := rolls large r
  obtain ⟨-, -, -, rolled, -⟩ := rolls "2d6 + 5" r
  have hunread : (r.dieRoll "2dX").answer =
      .error (.parse ⟨.unexpectedString [.plus], ⟨1, 2⟩, "d".toList⟩) := by decide +kernel
  have hrejected : ((r.limitTo 3).dieRoll "d8 + 3d6").answer = .error (.tooManyRolls 4 3) := by
    decide +kernel
  have hfour : Expression.parse "d8 + 3d6" = .ok four := by decide +kernel
  have hrolled : (r.dieRoll "2d6 + 5").answer = .ok 17 := by decide +kernel
  have hparse : Expression.parse large = .ok e := by decide +kernel
  have hfaces (n : Positive) (k : Nat) : Draw.faceOf n (stream r.sampler k) = n.value := by
    have hunit : stream r.sampler k = .grid (Binary64.twoPow 53 - 1) := stream_repeating _ k
    rw [hunit]
    exact Draw.faceOf_grid_last n
  have hexceeds : Total.limit < e.totalOn (stream r.sampler) := by
    rw [Expression.totalOn_eq_highest hfaces, Expression.highest_eq_sum]
    decide +kernel
  have hoverflow : (r.dieRoll large).answer = .error .overflow := by
    rw [dieRoll_answer, rollNotation_of_parse hparse,
      roll_answer_of_exceeds e.admitted_none hexceeds]
    rfl
  refine ⟨⟨hunread, (unread _ hunread).2⟩, ⟨hrejected, ?_⟩, ⟨hoverflow, overflowed hoverflow⟩,
    ⟨hrolled, rolled 17 hrolled⟩, rfl, rfl, others .fairFlip r rfl rfl⟩
  obtain ⟨d, hread, -, -, hevents⟩ := rejected 4 3 hrejected
  obtain rfl : four = d := Except.ok.inj (hfour.symm.trans hread)
  have hdisplay : four.text = "1d8+3d6".toList := by decide +kernel
  have hcount : four.diceCount = 4 := rfl
  rw [hdisplay, hcount] at hevents
  exact hevents

end Random

end Chance
