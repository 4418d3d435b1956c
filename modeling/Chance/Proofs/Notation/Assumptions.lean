import Chance.Proofs.Notation.Stepwise

namespace Chance

namespace Token

theorem number_eq_ok_iff (t : Token) (ds : List Char) (n : Number) :
    t.number ds = .ok n ↔ Nat.ofDigitChars 10 ds 0 = n.val := by
  constructor
  · intro h
    by_cases hlarge : 4294967295 < Nat.ofDigitChars 10 ds 0
    · rw [number_eq_error t hlarge] at h
      cases h
    · rw [number_eq_ok t (n := ⟨Nat.ofDigitChars 10 ds 0, by omega⟩) rfl] at h
      exact congrArg Fin.val (Except.ok.inj h)
  · exact number_eq_ok t

theorem number_eq_error_iff (t : Token) (ds : List Char) :
    t.number ds = .error (t.error .numberTooLarge) ↔ 4294967295 < Nat.ofDigitChars 10 ds 0 := by
  constructor
  · intro h
    by_contra hsmall
    rw [number_eq_ok t (n := ⟨Nat.ofDigitChars 10 ds 0, by omega⟩) rfl] at h
    cases h
  · exact number_eq_error t

end Token

namespace Reader

def Allows (consumed : Option Token) : Stage → Prop
  | .term => True
  | .constant => ∃ t, consumed = some t ∧ t.kind = .integer
  | .dice => ∃ t, consumed = some t ∧ t.kind = .dice
  | .number role ds => (∃ t, consumed = some t) ∧ Pattern .integer ds ∧
      ∀ sides, role = .count sides → Pattern .integer sides
  | .separator _ => True
  | .finished _ => True
  | .stuck => False

/-- The invariant of reading a text with the tokens `ts`: no token is lost, and the one consumed
last is as the stage needs it. -/
structure Sound (ts : List Token) (r : Reader) : Prop where
  place : ∃ before, ts = before ++ (r.consumed.toList ++ r.ahead)
  allows : Allows r.consumed r.stage

section

variable {ts : List Token} {r : Reader} {t : Token}

theorem Sound.mem (h : r.Sound ts) (ht : r.consumed = some t) : t ∈ ts := by
  obtain ⟨before, hts⟩ := h.place
  simp [hts, ht]

theorem Sound.at_stage (h : r.Sound ts) {stage : Stage} (hs : Allows r.consumed stage) :
    Sound ts { r with stage := stage } :=
  ⟨h.place, hs⟩

theorem Sound.finish (h : r.Sound ts) (result : Except ParseError Expression) :
    (r.finish result).Sound ts :=
  h.at_stage trivial

theorem Sound.next (h : r.Sound ts) {rest : List Token} (hr : r.ahead = t :: rest) {stage : Stage}
    (hs : Allows (some t) stage) : Sound ts ⟨stage, r.terms, some t, rest, r.length⟩ := by
  obtain ⟨before, hts⟩ := h.place
  refine ⟨⟨before ++ r.consumed.toList, ?_⟩, hs⟩
  rw [hts, hr, List.append_assoc]
  rfl

theorem Sound.unexpected (h : r.Sound ts) (expected : List TokenKind) :
    (r.unexpected expected).Sound ts := by
  cases hr : r.ahead with
  | nil =>
    rw [unexpected_nil hr]
    exact h.finish _
  | cons t rest =>
    rw [unexpected_cons hr]
    exact h.next hr trivial

theorem Sound.consume (h : r.Sound ts) {k : TokenKind} {stage : Stage}
    (hs : ∀ t, t.kind = k → Allows (some t) stage) : (r.consume k stage).Sound ts := by
  by_cases hk : r.peek = some k
  · obtain ⟨t, ht, hk⟩ := Option.map_eq_some_iff.mp hk
    obtain ⟨rest, hr⟩ := List.head?_eq_some_iff.mp ht
    rw [consume_cons hr hk]
    exact h.next hr (hs t hk)
  · rw [Reader.consume, if_neg hk]
    exact h.unexpected _

theorem Sound.take (h : r.Sound ts) (ht : r.consumed = some t) (n : Number) {role : Role}
    (hrole : ∀ sides, role = .count sides → Pattern .integer sides) : (r.take n role).Sound ts := by
  cases role with
  | constant => exact h.at_stage trivial
  | count sides => exact h.at_stage ⟨⟨t, ht⟩, hrole sides rfl, by simp⟩
  | sides count =>
    simp only [Reader.take]
    split
    · exact h.at_stage trivial
    · exact h.finish _

theorem Sound.step (h : r.Sound ts) (hts : ∀ t ∈ ts, t.Patterned) : r.step.Sound ts := by
  have hallows := h.allows
  -- A stage says of which kind the consumed token is, and its pattern what stands in the slice.
  cases hs : r.stage with
  | term =>
    simp only [Reader.step, hs]
    split
    · exact h.consume fun t ht => ⟨t, rfl, ht⟩
    · exact h.consume fun t ht => ⟨t, rfl, ht⟩
    · exact h.unexpected _
  | constant =>
    rw [hs] at hallows
    obtain ⟨t, ht, hk⟩ := hallows
    simp only [Reader.step, hs, slice_of_consumed ht]
    exact h.at_stage ⟨⟨t, ht⟩, (hts t (h.mem ht)).integer hk, by simp⟩
  | dice =>
    rw [hs] at hallows
    obtain ⟨t, ht, hk⟩ := hallows
    obtain ⟨cs, ss, hl, hcs, hss, hne⟩ := (hts t (h.mem ht)).dice hk
    rw [step_dice hs ht hcs hl]
    split
    · exact h.at_stage ⟨⟨t, ht⟩, .integer hss hne, by simp⟩
    · rename_i hcne
      refine h.at_stage ⟨⟨t, ht⟩, .integer hcs hcne, ?_⟩
      rintro sides ⟨⟩
      exact .integer hss hne
  | number role ds =>
    rw [hs] at hallows
    obtain ⟨⟨t, ht⟩, -, hrole⟩ := hallows
    simp only [Reader.step, hs]
    split
    · exact h.take ht _ hrole
    · exact h.finish _
  | separator last =>
    simp only [Reader.step, hs]
    split
    · exact h.finish _
    · have hlast : Sound ts { r with stage := .separator last, terms := r.terms ++ [last] } :=
        ⟨h.place, trivial⟩
      have hterm (t : Token) (_ : t.kind = .plus) : Allows (some t) .term := trivial
      exact hlast.consume hterm
  | finished result =>
    simp only [Reader.step, hs]
    exact h
  | stuck =>
    rw [hs] at hallows
    exact hallows.elim

theorem Sound.iterate (h : r.Sound ts) (hts : ∀ t ∈ ts, t.Patterned) (n : Nat) :
    (Reader.step^[n] r).Sound ts := by
  induction n with
  | zero => exact h
  | succ n ih =>
    rw [Function.iterate_succ_apply']
    exact ih.step hts

end

structure AsAssumed (s : String) (r : Reader) : Prop where
  not_stuck : r.stage ≠ .stuck
  dice : r.stage = .dice → ∃ t ∈ Token.scan 0 s.toList, r.consumed = some t ∧ t.kind = .dice ∧
    r.slice = t.countDigits ++ 'd' :: t.sidesDigits ∧ r.slice.count 'd' = 1 ∧
    Digits t.countDigits ∧ Digits t.sidesDigits ∧ t.sidesDigits ≠ []
  number : ∀ role ds, r.stage = .number role ds → Digits ds ∧ ds ≠ [] ∧
    ∃ t ∈ Token.scan 0 s.toList, r.consumed = some t ∧ r.number ds = t.number ds

theorem count_d_eq_zero {ds : List Char} (hds : Digits ds) : ds.count 'd' = 0 := by
  apply List.count_eq_zero.mpr
  intro hd
  exact absurd (hds 'd' hd) (by decide)

theorem Sound.asAssumed {s : String} {r : Reader} (h : r.Sound (Token.scan 0 s.toList)) :
    r.AsAssumed s := by
  have hallows := h.allows
  constructor
  · intro hs
    rw [hs] at hallows
    exact hallows
  · intro hs
    rw [hs] at hallows
    obtain ⟨t, ht, hk⟩ := hallows
    have hpattern := (Token.lexes_scan 0 s.toList).patterned t (h.mem ht)
    obtain ⟨cs, ss, hl, hcs, hss, hne⟩ := hpattern.dice hk
    refine ⟨t, h.mem ht, ht, hk, ?_⟩
    rw [slice_of_consumed ht, Token.countDigits_of_lexeme hcs hl,
      Token.sidesDigits_of_lexeme hcs hl, hl]
    refine ⟨rfl, ?_, hcs, hss, hne⟩
    rw [List.count_append, List.count_cons_self, count_d_eq_zero hcs, count_d_eq_zero hss]
  · intro role ds hs
    rw [hs] at hallows
    obtain ⟨⟨t, ht⟩, hds, -⟩ := hallows
    have hnumber := number_eq ht hds
    cases hds with
    | integer hds hne => exact ⟨hds, hne, t, h.mem ht, ht, hnumber⟩

theorem sound_start (s : String) : (start s).Sound (Token.scan 0 s.toList) := ⟨⟨[], rfl⟩, trivial⟩

theorem assumptions_hold (s : String) :
    (∀ n, (step^[n] (start s)).AsAssumed s) ∧
    (∃ n, (step^[n] (start s)).stage = .finished (Expression.parse s)) ∧
    ∀ (r : Reader) (t : Token) (ds : List Char), r.consumed = some t → Digits ds → ds ≠ [] →
      r.number ds = t.number ds ∧
      (∀ n : Number, t.number ds = .ok n ↔ Nat.ofDigitChars 10 ds 0 = n.val) ∧
      (t.number ds = .error (t.error .numberTooLarge) ↔
        4294967295 < Nat.ofDigitChars 10 ds 0) := by
  have hts := (Token.lexes_scan 0 s.toList).patterned
  refine ⟨?_, ?_, ?_⟩
  · intro n
    exact ((sound_start s).iterate hts n).asAssumed
  · obtain ⟨q, ⟨n, rfl⟩, hend⟩ := exists_finished hts [] none (byteLength s.toList)
    have hnone : preceded [] = id := rfl
    rw [hnone, Except.map_id] at hend
    exact ⟨n, hend⟩
  · intro r t ds ht hds hne
    exact ⟨number_eq ht (.integer hds hne), t.number_eq_ok_iff ds, t.number_eq_error_iff ds⟩

theorem assumptions_hold_on_padded_dice :
    let s := "0004294967296d06"
    let t : Token := ⟨.dice, 0, s.toList⟩
    let r := step^[2] (start s)
    ((step^[1] (start s)).stage = .dice ∧ (step^[1] (start s)).AsAssumed s) ∧
      (r.stage = .number (.count ['0', '6']) "0004294967296".toList ∧ r.AsAssumed s) ∧
      r.consumed = some t ∧
      r.number "0004294967296".toList = .error (t.error .numberTooLarge) ∧
      r.number ['0', '6'] = .ok 6 := by
  intro s t r
  obtain ⟨hmoments, -, hnumber⟩ := assumptions_hold s
  have hdice : (step^[1] (start s)).stage = .dice := by decide +kernel
  have hstage : r.stage = .number (.count ['0', '6']) "0004294967296".toList := by decide +kernel
  have hconsumed : r.consumed = some t := by decide +kernel
  have hcount : Digits "0004294967296".toList := by simp [Digits]
  have hsides : Digits ['0', '6'] := by simp [Digits]
  obtain ⟨hlarge, -, hrefused⟩ := hnumber r t _ hconsumed hcount (by decide)
  obtain ⟨hsmall, haccepted, -⟩ := hnumber r t _ hconsumed hsides (by decide)
  refine ⟨⟨hdice, hmoments 1⟩, ⟨hstage, hmoments 2⟩, hconsumed, ?_, ?_⟩
  · exact hlarge.trans (hrefused.mpr (by decide))
  · exact hsmall.trans ((haccepted 6).mpr (by decide))

end Reader

end Chance
