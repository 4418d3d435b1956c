import Chance.Proofs.Notation.FirstOffence

namespace Chance

namespace Token

theorem digits_append_closing {rest tail : List Char} (hrest : digits rest = [])
    (htail : Closing tail) : digits (rest ++ tail) = [] := by
  cases rest with
  | nil => exact htail.digits_eq_nil
  | cons c rest =>
    have hc : c.isDigit = false := by
      by_contra hc
      simp [digits, hc] at hrest
    exact digits_cons_eq_nil hc _

theorem sidesPart_append_closing {rest tail : List Char} (hrest : sidesPart rest = [])
    (htail : Closing tail) : sidesPart (rest ++ tail) = [] := by
  cases rest with
  | nil => exact htail.sidesPart_eq_nil
  | cons c rest =>
    by_cases hc : c = 'd'
    · subst hc
      have hdigits : digits rest = [] := by
        by_contra hne
        simp [sidesPart, hne] at hrest
      exact if_pos (digits_append_closing hdigits htail)
    · exact sidesPart_of_ne hc _

theorem Leads.append {k : TokenKind} {l rest tail : List Char} (h : Leads k l rest)
    (htail : Closing tail) : Leads k l (rest ++ tail) := by
  cases h with
  | dice hcs hss hne hrest => exact .dice hcs hss hne (digits_append_closing hrest htail)
  | integer hds hne hrest hsides =>
    exact .integer hds hne (digits_append_closing hrest htail)
      (sidesPart_append_closing hsides htail)
  | plus => exact .plus
  | unknown hblank hdigit hplus hsides =>
    exact .unknown hblank hdigit hplus (sidesPart_append_closing hsides htail)

theorem Lexes.append {start : Nat} {s tail : List Char} {ts us : List Token}
    (h : Lexes start s ts) (htail : Closing tail) (hus : Lexes (start + byteLength s) tail us) :
    Lexes start (s ++ tail) (ts ++ us) := by
  induction h with
  | done hw => exact hus.blank_append hw
  | token hw hl _ ih =>
    simp only [byteLength_append, ← Nat.add_assoc] at hus
    have hrest := ih hus
    simp only [List.append_assoc, List.cons_append]
    exact .token hw (hl.append htail) hrest

theorem scan_append (start : Nat) (s : List Char) {tail : List Char} (htail : Closing tail) :
    scan start (s ++ tail) = scan start s ++ scan (start + byteLength s) tail :=
  ((lexes_scan start s).append htail (lexes_scan _ tail)).scan_eq

theorem scan_plus (start : Nat) (s : List Char) :
    scan start ('+' :: s) = ⟨.plus, start, ['+']⟩ :: scan (start + 1) s :=
  scan_of_leads start .plus

def moved (n : Nat) (t : Token) : Token := { t with start := t.start + n }

theorem Lexes.moved {start : Nat} {s : List Char} {ts : List Token} (h : Lexes start s ts)
    (n : Nat) : Lexes (start + n) s (ts.map (Token.moved n)) := by
  induction h with
  | done hw => exact .done hw
  | @token start w l rest k ts hw hl _ ih =>
    rw [Nat.add_right_comm, Nat.add_right_comm start] at ih
    have hlater := Lexes.token hw hl ih
    rw [Nat.add_right_comm] at hlater
    exact hlater

theorem scan_add (start n : Nat) (s : List Char) :
    scan (start + n) s = (scan start s).map (moved n) :=
  ((lexes_scan start s).moved n).scan_eq

end Token

namespace ParseError

def moved (n : Nat) (e : ParseError) : ParseError :=
  { e with span := ⟨e.span.start + n, e.span.stop + n⟩ }

def Incomplete (e : ParseError) : Prop := ∃ expected, e.reason = .unexpectedEnd expected

end ParseError

namespace Token

theorem moved_error (n : Nat) (t : Token) (reason : ParseError.Reason) :
    (t.moved n).error reason = (t.error reason).moved n := by
  simp only [error, moved, ParseError.moved, span, stop, Nat.add_right_comm]

theorem not_incomplete_unexpected (t : Token) (expected : List TokenKind) :
    ¬ (t.unexpected expected).Incomplete := by
  rintro ⟨_, h⟩
  by_cases hk : t.kind = .unknown <;> simp [unexpected, error, hk] at h

theorem not_incomplete_complaint (t : Token) (p : Nat) :
    ¬ (t.error (t.complaint p)).Incomplete := by
  rintro ⟨_, hreason⟩
  simp only [error, complaint] at hreason
  split_ifs at hreason

theorem not_incomplete_of_term {t : Token} {e : ParseError} (h : t.term = .error e) :
    ¬ e.Incomplete := by
  by_cases hoff : t.Offends 0
  · rw [term_of_offends hoff] at h
    exact Except.error.inj h ▸ not_incomplete_complaint t 0
  · obtain ⟨x, hx⟩ := exists_holds_of_not_offends hoff
    rw [term_of_holds hx] at h
    cases h

theorem moved_term (n : Nat) (t : Token) : (t.moved n).term = t.term.mapError (.moved n) := by
  by_cases hoff : t.Offends 0
  · have hoff' : (t.moved n).Offends 0 := hoff
    rw [term_of_offends hoff, term_of_offends hoff', moved_error]
    rfl
  · obtain ⟨x, hx⟩ := exists_holds_of_not_offends hoff
    have hx' : (t.moved n).Holds x := by
      cases x <;> exact hx
    rw [term_of_holds hx, term_of_holds hx']
    rfl

theorem moved_unexpected (n : Nat) (t : Token) (expected : List TokenKind) :
    (t.moved n).unexpected expected = (t.unexpected expected).moved n := by
  by_cases hk : t.kind = .unknown
  · have hk' : (t.moved n).kind = .unknown := hk
    rw [unexpected, unexpected, if_pos hk, if_pos hk', moved_error]
  · have hk' : (t.moved n).kind ≠ .unknown := hk
    rw [unexpected, unexpected, if_neg hk, if_neg hk', moved_error]
    rfl

end Token

namespace Expression

open Token

def append (d e : Expression) : Expression := ⟨⟨d.terms.head, d.terms.tail ++ e.terms.toList⟩⟩

theorem toList_append (d e : Expression) :
    (d.append e).terms.toList = d.terms.toList ++ e.terms.toList := rfl

theorem ofTokens_moved (length n : Nat) (ts : List Token) :
    ofTokens (length + n) (ts.map (Token.moved n)) = (ofTokens length ts).mapError (.moved n) := by
  induction ts using ofTokens.induct with
  | case1 => rfl
  | case2 t =>
    rw [List.map_singleton, ofTokens_singleton, ofTokens_singleton, moved_term]
    cases t.term <;> rfl
  | case3 t plus ts ih =>
    have hk : (plus.moved n).kind = plus.kind := rfl
    rw [List.map_cons, List.map_cons, ofTokens_cons_cons, ofTokens_cons_cons, moved_term, ih, hk,
      moved_unexpected]
    cases t.term with
    | error e => rfl
    | ok x =>
      by_cases hplus : plus.kind = .plus
      · simp only [Except.mapError, Except.bind, if_pos hplus]
        cases ofTokens length ts <;> rfl
      · simp only [Except.mapError, Except.bind, if_neg hplus]

def join (plus : Token) : Except ParseError Expression → Except ParseError Expression →
    Except ParseError Expression
  | .ok d, second => second.map d.append
  | .error ⟨.unexpectedEnd _, _, _⟩, _ => .error (plus.unexpected [.dice, .integer])
  | .error e, _ => .error e

theorem join_of_incomplete (plus : Token) {e : ParseError} (h : e.Incomplete)
    (second : Except ParseError Expression) :
    join plus (.error e) second = .error (plus.unexpected [.dice, .integer]) := by
  obtain ⟨reason, span, slice⟩ := e
  obtain ⟨expected, rfl⟩ := h
  rfl

theorem join_of_not_incomplete (plus : Token) {e : ParseError} (h : ¬ e.Incomplete)
    (second : Except ParseError Expression) : join plus (.error e) second = .error e := by
  obtain ⟨reason, span, slice⟩ := e
  cases reason with
  | unexpectedEnd expected => exact absurd ⟨expected, rfl⟩ h
  | _ => rfl

theorem join_cons (plus : Token) (x : Term) (first second : Except ParseError Expression) :
    join plus (first.bind fun d => .ok ⟨.cons x d.terms⟩) second =
      (join plus first second).bind fun d => .ok ⟨.cons x d.terms⟩ := by
  cases first with
  | ok d => cases second <;> rfl
  | error e =>
    by_cases he : e.Incomplete
    · simp only [Except.bind, join_of_incomplete plus he]
    · simp only [Except.bind, join_of_not_incomplete plus he]

theorem ofTokens_append (length total : Nat) (ts : List Token) {plus : Token}
    (hplus : plus.kind = .plus) (us : List Token) :
    ofTokens total (ts ++ plus :: us) = join plus (ofTokens length ts) (ofTokens total us) := by
  induction ts using ofTokens.induct with
  | case1 =>
    have hoff : plus.Offends 0 := .inl hplus
    have hdice : plus.kind ≠ .dice := by simp [hplus]
    have hinteger : plus.kind ≠ .integer := by simp [hplus]
    rw [List.nil_append, ofTokens_cons_of_offends hoff, complaint_of_kind hdice hinteger]
    rfl
  | case2 t =>
    rw [List.singleton_append, ofTokens_cons_cons, ofTokens_singleton]
    cases hterm : t.term with
    | error e =>
      exact (join_of_not_incomplete plus (not_incomplete_of_term hterm) _).symm
    | ok x =>
      simp only [Except.bind, if_pos hplus]
      cases ofTokens total us <;> rfl
  | case3 t sign ts ih =>
    rw [List.cons_append, List.cons_append, ofTokens_cons_cons, ofTokens_cons_cons]
    cases hterm : t.term with
    | error e =>
      exact (join_of_not_incomplete plus (not_incomplete_of_term hterm) _).symm
    | ok x =>
      by_cases hsign : sign.kind = .plus
      · simp only [Except.bind, if_pos hsign] at ih ⊢
        rw [ih]
        exact (join_cons plus x _ _).symm
      · simp only [Except.bind, if_neg hsign]
        exact (join_of_not_incomplete plus (not_incomplete_unexpected sign [.plus]) _).symm

theorem ofText_join (s t : List Char) :
    ofText (s ++ '+' :: t) = join ⟨.plus, byteLength s, ['+']⟩ (ofText s)
      ((ofText t).mapError (.moved (byteLength s + 1))) := by
  have hclosing : Closing ('+' :: t) := by simp [Closing]
  have hmoved : scan (byteLength s + 1) t = (scan 0 t).map (Token.moved (byteLength s + 1)) := by
    rw [← scan_add, Nat.zero_add]
  have hlength : byteLength (s ++ '+' :: t) = byteLength t + (byteLength s + 1) := by
    have hsign : byteLength ('+' :: t) = 1 + byteLength t := rfl
    rw [byteLength_append, hsign]
    omega
  rw [ofText, scan_append 0 s hclosing, Nat.zero_add, scan_plus, hmoved, hlength,
    ofTokens_append (byteLength s) _ _ rfl, ofTokens_moved]
  rfl

theorem parse_join (a b : String) :
    parse (a ++ "+" ++ b) = join ⟨.plus, a.utf8ByteSize, ['+']⟩ (parse a)
      ((parse b).mapError (.moved (a.utf8ByteSize + 1))) := by
  have htoList : (a ++ "+" ++ b).toList = a.toList ++ '+' :: b.toList := by
    simp only [String.toList_append, List.append_assoc]
    rfl
  rw [parse, htoList, ofText_join, byteLength_toList]
  rfl

theorem parse_append_plus (a b : String) :
    (∀ d e, parse a = .ok d → parse b = .ok e →
      ∃ f, parse (a ++ "+" ++ b) = .ok f ∧ f.terms.toList = d.terms.toList ++ e.terms.toList) ∧
    (∀ d e, parse a = .ok d → parse b = .error e →
      parse (a ++ "+" ++ b) = .error ⟨e.reason,
        ⟨e.span.start + (a.utf8ByteSize + 1), e.span.stop + (a.utf8ByteSize + 1)⟩, e.slice⟩) ∧
    (∀ e expected, parse a = .error e → e.reason = .unexpectedEnd expected →
      parse (a ++ "+" ++ b) = .error ⟨.unexpectedToken .plus [.dice, .integer],
        ⟨a.utf8ByteSize, a.utf8ByteSize + 1⟩, ['+']⟩) ∧
    (∀ e, parse a = .error e → (∀ expected, e.reason ≠ .unexpectedEnd expected) →
      parse (a ++ "+" ++ b) = .error e) := by
  rw [parse_join]
  refine ⟨?_, ?_, ?_, ?_⟩
  · intro d e hd he
    rw [hd, he]
    exact ⟨d.append e, rfl, toList_append d e⟩
  · intro d e hd he
    rw [hd, he]
    rfl
  · intro e expected he hend
    rw [he, join_of_incomplete _ ⟨expected, hend⟩]
    rfl
  · intro e he hend
    have hcomplete : ¬ e.Incomplete := fun ⟨expected, h⟩ => hend expected h
    rw [he, join_of_not_incomplete _ hcomplete]

end Expression

end Chance
