import Chance.Proofs.Notation.Grammar
import Chance.Proofs.Notation.Partition

namespace Chance

namespace Token

def Offends (t : Token) (p : Nat) : Prop :=
  if p % 2 = 0 then t.kind = .plus ∨ t.kind = .unknown ∨ t.Oversized ∨ t.Void else t.kind ≠ .plus

instance (t : Token) (p : Nat) : Decidable (t.Offends p) :=
  inferInstanceAs (Decidable (if p % 2 = 0 then _ else _))

def expectedAt (p : Nat) : List TokenKind := if p % 2 = 0 then [.dice, .integer] else [.plus]

def complaint (t : Token) (p : Nat) : ParseError.Reason :=
  if p % 2 = 0 ∧ t.Oversized then .numberTooLarge
  else if p % 2 = 0 ∧ t.Void then .zeroDice
  else if t.kind = .unknown then .unexpectedString (expectedAt p)
  else .unexpectedToken t.kind (expectedAt p)

def FirstOffence (ts : List Token) (p : Nat) (t : Token) : Prop :=
  ts[p]? = some t ∧ t.Offends p ∧ ∀ q u, q < p → ts[q]? = some u → ¬ u.Offends q

def Unoffending (ts : List Token) : Prop := ∀ p (t : Token), ts[p]? = some t → ¬ t.Offends p

theorem exists_firstOffence {ts : List Token} {p : Nat} {t : Token} (ht : ts[p]? = some t)
    (hoff : t.Offends p) : ∃ q u, FirstOffence ts q u := by
  induction p using Nat.strong_induction_on generalizing t with
  | _ p ih =>
    by_cases hbefore : ∃ q u, q < p ∧ ts[q]? = some u ∧ u.Offends q
    · obtain ⟨q, u, hq, hu, hoff'⟩ := hbefore
      exact ih q hq hu hoff'
    · refine ⟨p, t, ht, hoff, ?_⟩
      intro q u hq hu hoff'
      exact hbefore ⟨q, u, hq, hu, hoff'⟩

theorem exists_firstOffence_or_unoffending (ts : List Token) :
    (∃ p t, FirstOffence ts p t) ∨ Unoffending ts := by
  by_cases h : ∃ p t, FirstOffence ts p t
  · exact .inl h
  · right
    intro p t ht hoff
    exact h (exists_firstOffence ht hoff)

theorem offends_add_two (t : Token) (p : Nat) : t.Offends (p + 2) ↔ t.Offends p := by
  simp only [Offends, Nat.add_mod_right]

theorem complaint_add_two (t : Token) (p : Nat) : t.complaint (p + 2) = t.complaint p := by
  simp only [complaint, expectedAt, Nat.add_mod_right]

theorem numbers_of_kind {t : Token} (hd : t.kind ≠ .dice) (hi : t.kind ≠ .integer) :
    t.numbers = [] := by
  cases hk : t.kind <;> simp_all [numbers]

theorem not_oversized_of_kind {t : Token} (hd : t.kind ≠ .dice) (hi : t.kind ≠ .integer) :
    ¬ t.Oversized := by
  simp [Oversized, numbers_of_kind hd hi]

theorem not_void_of_kind {t : Token} (hd : t.kind ≠ .dice) : ¬ t.Void := by
  simp [Void, hd]

theorem complaint_of_kind {t : Token} (hd : t.kind ≠ .dice) (hi : t.kind ≠ .integer) (p : Nat) :
    t.error (t.complaint p) = t.unexpected (expectedAt p) := by
  have hsize := not_oversized_of_kind hd hi
  have hvoid := not_void_of_kind hd
  by_cases hk : t.kind = .unknown <;> simp [complaint, unexpected, hsize, hvoid, hk]

theorem term_of_offends {t : Token} (h : t.Offends 0) :
    t.term = .error (t.error (t.complaint 0)) := by
  by_cases hsize : t.Oversized
  · rw [term_of_oversized hsize, complaint, if_pos ⟨rfl, hsize⟩]
  by_cases hvoid : t.Void
  · rw [term_of_void hsize hvoid, complaint, if_neg (fun h => hsize h.2), if_pos ⟨rfl, hvoid⟩]
  have hk : t.kind ≠ .dice ∧ t.kind ≠ .integer := by
    rcases h with hk | hk | h | h
    · simp [hk]
    · simp [hk]
    · exact absurd h hsize
    · exact absurd h hvoid
  rw [term_of_kind hk.1 hk.2, complaint_of_kind hk.1 hk.2]
  rfl

theorem exists_holds_of_not_offends {t : Token} (h : ¬ t.Offends 0) : ∃ x, t.Holds x := by
  simp only [Offends, Nat.zero_mod, if_true, not_or] at h
  obtain ⟨hplus, hunknown, hsize, hvoid⟩ := h
  refine exists_holds ?_ hsize hvoid
  cases hk : t.kind <;> simp_all

theorem not_offends_one {t : Token} : ¬ t.Offends 1 ↔ t.kind = .plus := by
  simp [Offends]

theorem unexpected_plus (t : Token) : t.unexpected [.plus] = t.error (t.complaint 1) := by
  by_cases hk : t.kind = .unknown <;> simp [unexpected, complaint, expectedAt, hk]

theorem FirstOffence.tail {t u v : Token} {ts : List Token} {p : Nat}
    (h : FirstOffence (t :: u :: ts) (p + 2) v) : FirstOffence ts p v := by
  obtain ⟨hv, hoff, hbefore⟩ := h
  refine ⟨by simpa using hv, (offends_add_two v p).mp hoff, ?_⟩
  intro q w hq hw
  have hlater := hbefore (q + 2) w (by omega) (by simpa using hw)
  rwa [offends_add_two] at hlater

theorem Unoffending.tail {t u : Token} {ts : List Token} (h : Unoffending (t :: u :: ts)) :
    Unoffending ts := by
  intro p v hv
  have hlater := h (p + 2) v (by simpa using hv)
  rwa [offends_add_two] at hlater

/-- The text denotes the numbers in a token of the kind. A count that is left out is one. -/
inductive Denotes : TokenKind → List Char → List Nat → Prop
  | constant {ds : List Char} {n : Nat} (h : Numeral ds n) : Denotes .integer ds [n]
  | dice {cs ss : List Char} {count sides : Nat} (hc : Numeral cs count)
      (hs : Numeral ss sides) : Denotes .dice (cs ++ 'd' :: ss) [count, sides]
  | die {ss : List Char} {sides : Nat} (hs : Numeral ss sides) :
      Denotes .dice ('d' :: ss) [1, sides]

/-- What is wrong with the token in place `p`. Places are counted from zero, so that terms belong in
the even ones. -/
inductive Fault (t : Token) (p : Nat) : ParseError.Reason → Prop
  | plus (hp : p % 2 = 0) (hk : t.kind = .plus) :
      Fault t p (.unexpectedToken .plus [.dice, .integer])
  | unknown (hp : p % 2 = 0) (hk : t.kind = .unknown) :
      Fault t p (.unexpectedString [.dice, .integer])
  | large {ns : List Nat} {n : Nat} (hp : p % 2 = 0) (hns : Denotes t.kind t.lexeme ns)
      (hn : n ∈ ns) (hsize : 4294967295 < n) : Fault t p .numberTooLarge
  | zero {ns : List Nat} (hp : p % 2 = 0) (hk : t.kind = .dice) (hns : Denotes t.kind t.lexeme ns)
      (hsize : ∀ n ∈ ns, n ≤ 4294967295) (hzero : 0 ∈ ns) : Fault t p .zeroDice
  | separator (hp : p % 2 = 1) (hplus : t.kind ≠ .plus) (hk : t.kind ≠ .unknown) :
      Fault t p (.unexpectedToken t.kind [.plus])
  | unknownSeparator (hp : p % 2 = 1) (hk : t.kind = .unknown) :
      Fault t p (.unexpectedString [.plus])

def FirstFault (ts : List Token) (p : Nat) (t : Token) (reason : ParseError.Reason) : Prop :=
  ts[p]? = some t ∧ t.Fault p reason ∧
    ∀ q u other, q < p → ts[q]? = some u → ¬ u.Fault q other

def Faultless (ts : List Token) : Prop :=
  ∀ p (t : Token) reason, ts[p]? = some t → ¬ t.Fault p reason

theorem numbers_of_denotes {t : Token} {ns : List Nat} (h : Denotes t.kind t.lexeme ns) :
    t.numbers = ns := by
  obtain ⟨k, start, l⟩ := t
  cases h with
  | constant h =>
    rw [numbers_of_integer rfl]
    exact congrArg (fun n => [n]) h.value
  | dice hc hs =>
    rw [numbers_of_lexeme rfl hc.digits rfl, if_neg hc.ne_nil, hc.value, hs.value]
  | die hs =>
    have hnil : Digits [] := fun c hc => absurd hc (by simp)
    rw [numbers_of_lexeme rfl hnil rfl, if_pos rfl, hs.value]

theorem denotes_numbers {t : Token} (ht : t.Patterned) (hk : t.kind = .dice ∨ t.kind = .integer) :
    Denotes t.kind t.lexeme t.numbers := by
  rcases hk with hk | hk
  · obtain ⟨cs, ss, hl, hcs, hss, hne⟩ := ht.dice hk
    rw [numbers_of_lexeme hk hcs hl, hk, hl]
    by_cases hnil : cs = []
    · rw [if_pos hnil, hnil]
      exact .die ⟨hne, hss, rfl⟩
    · rw [if_neg hnil]
      exact .dice ⟨hnil, hcs, rfl⟩ ⟨hne, hss, rfl⟩
  · have hpattern := ht.integer hk
    rw [numbers_of_integer hk, hk]
    cases hpattern with
    | integer hds hne => exact .constant ⟨hne, hds, rfl⟩

section

variable {t : Token} {p : Nat} {reason : ParseError.Reason} {ts : List Token}

theorem Fault.offends (h : t.Fault p reason) : t.Offends p ∧ t.complaint p = reason := by
  cases h with
  | plus hp hk =>
    have hsize : ¬ t.Oversized := not_oversized_of_kind (by simp [hk]) (by simp [hk])
    have hvoid : ¬ t.Void := not_void_of_kind (by simp [hk])
    simp [Offends, complaint, expectedAt, hp, hk, hsize, hvoid]
  | unknown hp hk =>
    have hsize : ¬ t.Oversized := not_oversized_of_kind (by simp [hk]) (by simp [hk])
    have hvoid : ¬ t.Void := not_void_of_kind (by simp [hk])
    simp [Offends, complaint, expectedAt, hp, hk, hsize, hvoid]
  | large hp hns hn hlarge =>
    have hsize : t.Oversized := ⟨_, numbers_of_denotes hns ▸ hn, hlarge⟩
    simp [Offends, complaint, hp, hsize]
  | zero hp hk hns hsmall hzero =>
    obtain rfl := numbers_of_denotes hns
    have hsize : ¬ t.Oversized := by
      rintro ⟨n, hn, hlarge⟩
      exact Nat.not_lt.mpr (hsmall n hn) hlarge
    have hvoid : t.Void := ⟨hk, hzero⟩
    simp [Offends, complaint, hp, hsize, hvoid]
  | separator hp hplus hk => simp [Offends, complaint, expectedAt, hp, hplus, hk]
  | unknownSeparator hp hk => simp [Offends, complaint, expectedAt, hp, hk]

theorem fault_of_oversized (ht : t.Patterned) (hp : p % 2 = 0) (h : t.Oversized) :
    t.Fault p .numberTooLarge := by
  have hk : t.kind = .dice ∨ t.kind = .integer := by
    by_contra hk
    obtain ⟨hd, hi⟩ := not_or.mp hk
    exact not_oversized_of_kind hd hi h
  obtain ⟨n, hn, hlarge⟩ := h
  exact .large hp (denotes_numbers ht hk) hn hlarge

theorem fault_of_void (ht : t.Patterned) (hp : p % 2 = 0) (hsize : ¬ t.Oversized) (h : t.Void) :
    t.Fault p .zeroDice := by
  refine .zero hp h.1 (denotes_numbers ht (.inl h.1)) ?_ h.2
  intro n hn
  apply Nat.not_lt.mp
  intro hlarge
  exact hsize ⟨n, hn, hlarge⟩

theorem Offends.fault (h : t.Offends p) (ht : t.Patterned) : t.Fault p (t.complaint p) := by
  rcases Nat.mod_two_eq_zero_or_one p with hp | hp
  -- A number that is too large is reported before a zero, so the cases come in this order.
  · by_cases hsize : t.Oversized
    · simpa [complaint, hp, hsize] using fault_of_oversized ht hp hsize
    by_cases hvoid : t.Void
    · simpa [complaint, hp, hsize, hvoid] using fault_of_void ht hp hsize hvoid
    have hk : t.kind = .plus ∨ t.kind = .unknown := by
      simpa [Offends, hp, hsize, hvoid] using h
    rcases hk with hk | hk
    · simpa [complaint, expectedAt, hp, hsize, hvoid, hk] using Fault.plus hp hk
    · simpa [complaint, expectedAt, hp, hsize, hvoid, hk] using Fault.unknown hp hk
  · have hplus : t.kind ≠ .plus := by simpa [Offends, hp] using h
    by_cases hk : t.kind = .unknown
    · simpa [complaint, expectedAt, hp, hk] using Fault.unknownSeparator hp hk
    · simpa [complaint, expectedAt, hp, hk] using Fault.separator hp hplus hk

theorem Fault.first (h : t.Fault p reason) (ht : ts[p]? = some t)
    (hbefore : ∀ q < p, ∀ u ∈ ts[q]?, ¬ u.Offends q) : FirstFault ts p t reason := by
  refine ⟨ht, h, ?_⟩
  intro q u other hq hu hfault
  exact hbefore q hq u hu hfault.offends.1

theorem FirstFault.firstOffence (hts : ∀ t ∈ ts, t.Patterned) (h : FirstFault ts p t reason) :
    FirstOffence ts p t ∧ t.complaint p = reason := by
  obtain ⟨ht, hfault, hbefore⟩ := h
  obtain ⟨hoff, hreason⟩ := hfault.offends
  refine ⟨⟨ht, hoff, ?_⟩, hreason⟩
  intro q u hq hu huoff
  exact hbefore q u _ hq hu (huoff.fault (hts u (List.mem_of_getElem? hu)))

theorem FirstOffence.firstFault (hts : ∀ t ∈ ts, t.Patterned) (h : FirstOffence ts p t) :
    FirstFault ts p t (t.complaint p) := by
  obtain ⟨ht, hoff, hbefore⟩ := h
  refine ⟨ht, hoff.fault (hts t (List.mem_of_getElem? ht)), ?_⟩
  intro q u other hq hu hfault
  exact hbefore q u hq hu hfault.offends.1

theorem unoffending_iff_faultless (hts : ∀ t ∈ ts, t.Patterned) :
    Unoffending ts ↔ Faultless ts := by
  constructor
  · intro h p t reason ht hfault
    exact h p t ht hfault.offends.1
  · intro h p t ht hoff
    exact h p t _ ht (hoff.fault (hts t (List.mem_of_getElem? ht)))

end

end Token

namespace Expression

open Token

variable {length : Nat}

theorem ofTokens_cons_of_offends {t : Token} (h : t.Offends 0) (ts : List Token) :
    ofTokens length (t :: ts) = .error (t.error (t.complaint 0)) := by
  cases ts with
  | nil => rw [ofTokens_singleton, term_of_offends h]; rfl
  | cons plus ts => rw [ofTokens_cons_cons, term_of_offends h]; rfl

theorem ofTokens_of_firstOffence {ts : List Token} {p : Nat} {t : Token}
    (h : FirstOffence ts p t) : ofTokens length ts = .error (t.error (t.complaint p)) := by
  induction ts using ofTokens.induct generalizing p with
  | case1 => simp [FirstOffence] at h
  | case2 u =>
    obtain ⟨hu, hoff, -⟩ := h
    obtain ⟨rfl, rfl⟩ : p = 0 ∧ u = t := by
      cases p <;> simp_all
    exact ofTokens_cons_of_offends hoff []
  | case3 u plus ts ih =>
    cases p with
    | zero =>
      obtain ⟨hu, hoff, -⟩ := h
      obtain rfl := Option.some.inj hu
      exact ofTokens_cons_of_offends hoff (plus :: ts)
    | succ p =>
      obtain ⟨x, hx⟩ := exists_holds_of_not_offends (h.2.2 0 u (by omega) rfl)
      rw [ofTokens_cons_cons, term_of_holds hx]
      cases p with
      | zero =>
        obtain ⟨hu, hoff, -⟩ := h
        obtain rfl := Option.some.inj hu
        simp only [Except.bind, if_neg hoff, unexpected_plus]
      | succ p =>
        have hplus := not_offends_one.mp (h.2.2 1 plus (by omega) rfl)
        simp only [Except.bind, if_pos hplus, ih h.tail, complaint_add_two]

theorem ofTokens_of_unoffending (length : Nat) {ts : List Token} (h : Unoffending ts) :
    if ts.length % 2 = 0 then
      ofTokens length ts = .error ⟨.unexpectedEnd [.dice, .integer], ⟨length, length⟩, []⟩
    else ∃ e, ofTokens length ts = .ok e := by
  induction ts using ofTokens.induct with
  | case1 => rfl
  | case2 t =>
    obtain ⟨x, hx⟩ := exists_holds_of_not_offends (h 0 t rfl)
    exact ⟨⟨.singleton x⟩, ofTokens_singleton_eq_ok.mpr ⟨x, hx, rfl⟩⟩
  | case3 t plus ts ih =>
    obtain ⟨x, hx⟩ := exists_holds_of_not_offends (h 0 t rfl)
    have hplus := not_offends_one.mp (h 1 plus rfl)
    have hlength : (t :: plus :: ts).length % 2 = ts.length % 2 := by
      simp only [List.length_cons]
      omega
    have ih := ih h.tail
    rw [hlength]
    split
    · rename_i heven
      rw [if_pos heven] at ih
      rw [ofTokens_cons_cons, term_of_holds hx, ih]
      simp [Except.bind, hplus]
    · rename_i hodd
      rw [if_neg hodd] at ih
      obtain ⟨e, he⟩ := ih
      exact ⟨_, ofTokens_cons_cons_eq_ok.mpr ⟨x, e, hx, hplus, he, rfl⟩⟩

theorem ofTokens_eq_error {ts : List Token} {e : ParseError}
    (h : ofTokens length ts = .error e) :
    (∃ p t, FirstOffence ts p t ∧ e = t.error (t.complaint p)) ∨
    (Unoffending ts ∧ ts.length % 2 = 0 ∧
      e = ⟨.unexpectedEnd [.dice, .integer], ⟨length, length⟩, []⟩) := by
  rcases exists_firstOffence_or_unoffending ts with ⟨p, t, ht⟩ | hall
  · rw [ofTokens_of_firstOffence ht] at h
    exact .inl ⟨p, t, ht, (Except.error.inj h).symm⟩
  · have hend := ofTokens_of_unoffending length hall
    rw [h] at hend
    split_ifs at hend with heven
    · exact .inr ⟨hall, heven, Except.error.inj hend⟩
    · obtain ⟨d, hd⟩ := hend
      cases hd

theorem parse_reports_first_offence (s : String) :
    Partition 0 s.toList (scan 0 s.toList) ∧
    ((∃ p t reason, FirstFault (scan 0 s.toList) p t reason) ∨ Faultless (scan 0 s.toList)) ∧
    (∀ p t reason, FirstFault (scan 0 s.toList) p t reason →
      parse s = .error ⟨reason, ⟨t.start, t.start + byteLength t.lexeme⟩, t.lexeme⟩) ∧
    (Faultless (scan 0 s.toList) → (scan 0 s.toList).length % 2 = 0 →
      parse s = .error
        ⟨.unexpectedEnd [.dice, .integer], ⟨s.utf8ByteSize, s.utf8ByteSize⟩, []⟩) ∧
    (Faultless (scan 0 s.toList) → (scan 0 s.toList).length % 2 = 1 → ∃ e, parse s = .ok e) := by
  have hlexes := lexes_scan 0 s.toList
  have hfaultless := unoffending_iff_faultless hlexes.patterned
  refine ⟨partition_of_lexes hlexes, ?_, ?_, ?_, ?_⟩
  · rcases exists_firstOffence_or_unoffending (scan 0 s.toList) with ⟨p, t, h⟩ | h
    · exact .inl ⟨p, t, _, h.firstFault hlexes.patterned⟩
    · exact .inr (hfaultless.mp h)
  · intro p t reason h
    obtain ⟨hoff, rfl⟩ := h.firstOffence hlexes.patterned
    exact ofTokens_of_firstOffence hoff
  · intro h heven
    have hend := ofTokens_of_unoffending (byteLength s.toList) (hfaultless.mpr h)
    rw [if_pos heven] at hend
    rw [← byteLength_toList]
    exact hend
  · intro h hodd
    have hok := ofTokens_of_unoffending (byteLength s.toList) (hfaultless.mpr h)
    rwa [if_neg (by omega)] at hok

theorem parse_reports_first_offence_in_short_texts :
    parse "0d6" = .error ⟨.zeroDice, ⟨0, 3⟩, "0d6".toList⟩ ∧
    parse "99999999999d6" = .error ⟨.numberTooLarge, ⟨0, 13⟩, "99999999999d6".toList⟩ ∧
    parse "0d99999999999" = .error ⟨.numberTooLarge, ⟨0, 13⟩, "0d99999999999".toList⟩ ∧
    parse "2d6 2d6" = .error ⟨.unexpectedToken .dice [.plus], ⟨4, 7⟩, "2d6".toList⟩ ∧
    parse "1 + 2 + x" = .error ⟨.unexpectedString [.dice, .integer], ⟨8, 9⟩, "x".toList⟩ := by
  have hzero : Numeral ['0'] 0 := ⟨by simp, by simp [Digits], rfl⟩
  have hsix : Numeral ['6'] 6 := ⟨by simp, by simp [Digits], rfl⟩
  have hlarge : Numeral "99999999999".toList 99999999999 := ⟨by simp, by simp [Digits], rfl⟩
  refine ⟨?_, ?_, ?_, ?_, ?_⟩
  · let t : Token := ⟨.dice, 0, "0d6".toList⟩
    have h : t.Fault 0 .zeroDice := .zero rfl rfl (.dice hzero hsix) (by simp) (by simp)
    have hfirst : FirstFault (scan 0 "0d6".toList) 0 t .zeroDice :=
      h.first (by decide +kernel) (by simp)
    exact (parse_reports_first_offence "0d6").2.2.1 0 t _ hfirst
  · let t : Token := ⟨.dice, 0, "99999999999d6".toList⟩
    have h : t.Fault 0 .numberTooLarge :=
      .large rfl (.dice hlarge hsix) List.mem_cons_self (by decide)
    have hfirst : FirstFault (scan 0 "99999999999d6".toList) 0 t .numberTooLarge :=
      h.first (by decide +kernel) (by simp)
    exact (parse_reports_first_offence "99999999999d6").2.2.1 0 t _ hfirst
  · let t : Token := ⟨.dice, 0, "0d99999999999".toList⟩
    have h : t.Fault 0 .numberTooLarge :=
      .large rfl (.dice hzero hlarge) (List.mem_cons_of_mem _ List.mem_cons_self) (by decide)
    have hfirst : FirstFault (scan 0 "0d99999999999".toList) 0 t .numberTooLarge :=
      h.first (by decide +kernel) (by simp)
    exact (parse_reports_first_offence "0d99999999999").2.2.1 0 t _ hfirst
  · let t : Token := ⟨.dice, 4, "2d6".toList⟩
    have h : t.Fault 1 (.unexpectedToken .dice [.plus]) :=
      .separator rfl (by simp [t]) (by simp [t])
    have hfirst : FirstFault (scan 0 "2d6 2d6".toList) 1 t (.unexpectedToken .dice [.plus]) :=
      h.first (by decide +kernel) (by decide +kernel)
    exact (parse_reports_first_offence "2d6 2d6").2.2.1 1 t _ hfirst
  · let t : Token := ⟨.unknown, 8, "x".toList⟩
    have h : t.Fault 4 (.unexpectedString [.dice, .integer]) := .unknown rfl rfl
    have hfirst : FirstFault (scan 0 "1 + 2 + x".toList) 4 t (.unexpectedString [.dice, .integer]) :=
      h.first (by decide +kernel) (by decide +kernel)
    exact (parse_reports_first_offence "1 + 2 + x").2.2.1 4 t _ hfirst

end Expression

end Chance
