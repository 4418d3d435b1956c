import Chance.Proofs.Notation.Joining

namespace Chance

namespace Token

variable {ts : List Token} {p : Nat} {t : Token}

theorem FirstOffence.append (h : FirstOffence ts p t) (us : List Token) :
    FirstOffence (ts ++ us) p t := by
  obtain ⟨hget, hoff, hbefore⟩ := h
  have hp : p < ts.length := (List.getElem?_eq_some_iff.mp hget).1
  refine ⟨?_, hoff, ?_⟩
  · rwa [List.getElem?_append_left hp]
  · intro q u hq hu
    rw [List.getElem?_append_left (hq.trans hp)] at hu
    exact hbefore q u hq hu

theorem unoffending_append_singleton :
    Unoffending (ts ++ [t]) ↔ Unoffending ts ∧ ¬ t.Offends ts.length := by
  constructor
  · intro h
    constructor
    · intro q u hu
      apply h q u
      rwa [List.getElem?_append_left (List.getElem?_eq_some_iff.mp hu).1]
    · exact h ts.length t List.getElem?_concat_length
  · rintro ⟨h, ht⟩ q u hu
    rcases Nat.lt_or_ge q ts.length with hq | hq
    · rw [List.getElem?_append_left hq] at hu
      exact h q u hu
    · rw [List.getElem?_append_right hq, List.getElem?_singleton] at hu
      split at hu
      · obtain rfl : q = ts.length := by omega
        obtain rfl := Option.some.inj hu
        exact ht
      · cases hu

theorem offends_iff_of_plus (h : t.kind = .plus) : t.Offends p ↔ p % 2 = 0 := by
  by_cases hp : p % 2 = 0 <;> simp [Offends, h, hp]

theorem offends_iff_of_holds {x : Term} (h : t.Holds x) : t.Offends p ↔ p % 2 = 1 := by
  have hterm : ¬ t.Offends 0 := by
    intro hoff
    have herror := term_of_offends hoff
    rw [term_of_holds h] at herror
    cases herror
  have hplus : t.kind ≠ .plus := fun hplus => hterm (.inl hplus)
  by_cases hp : p % 2 = 0
  · have heven : t.Offends p ↔ t.Offends 0 := by simp only [Offends, hp, Nat.zero_mod]
    rw [heven]
    exact iff_of_false hterm (by omega)
  · simp [Offends, hplus, Nat.mod_two_ne_zero.mp hp]

theorem scan_one (start : Nat) : scan start ['1'] = [⟨.integer, start, ['1']⟩] := by
  have hone : Leads .integer ['1'] [] := .integer (by simp [Digits]) (by simp) rfl rfl
  have h := scan_of_leads start hone
  rwa [List.append_nil, scan] at h

theorem scan_append_blank (s t : List Char) :
    scan 0 (s ++ ' ' :: t) = scan 0 s ++ scan (byteLength s + 1) t := by
  have htail : Closing (' ' :: t) := by simp [Closing]
  have hblank : Blank [' '] := by simp [Blank]
  rw [scan_append 0 s htail, Nat.zero_add, ← List.singleton_append, scan_blank_append _ hblank]
  rfl

end Token

namespace Expression

open Token

section

variable {length : Nat} {ts : List Token}

theorem exists_ofTokens_eq_ok_iff :
    (∃ e, ofTokens length ts = .ok e) ↔ Unoffending ts ∧ ts.length % 2 = 1 := by
  constructor
  · rintro ⟨e, he⟩
    have hall : Unoffending ts := by
      intro p t ht hoff
      obtain ⟨q, u, hu⟩ := exists_firstOffence ht hoff
      rw [ofTokens_of_firstOffence hu] at he
      cases he
    refine ⟨hall, ?_⟩
    by_contra hodd
    have hend := ofTokens_of_unoffending length hall
    rw [if_pos (by omega), he] at hend
    cases hend
  · rintro ⟨hall, hodd⟩
    have hok := ofTokens_of_unoffending length hall
    rwa [if_neg (by omega)] at hok

theorem exists_incomplete_iff :
    (∃ e, ofTokens length ts = .error e ∧ e.Incomplete) ↔ Unoffending ts ∧ ts.length % 2 = 0 := by
  constructor
  · rintro ⟨e, he, hend⟩
    rcases ofTokens_eq_error he with ⟨p, t, -, rfl⟩ | ⟨hall, heven, -⟩
    · exact absurd hend (not_incomplete_complaint t p)
    · exact ⟨hall, heven⟩
  · rintro ⟨hall, heven⟩
    have hend := ofTokens_of_unoffending length hall
    rw [if_pos heven] at hend
    exact ⟨_, hend, _, rfl⟩

end

theorem ofText_append_of_error {s tail : List Char} {e : ParseError} (h : ofText s = .error e)
    (hnot : ¬ e.Incomplete) (htail : Closing tail) : ofText (s ++ tail) = .error e := by
  rcases ofTokens_eq_error h with ⟨p, t, ht, rfl⟩ | ⟨-, -, rfl⟩
  · rw [ofText, scan_append 0 s htail]
    exact ofTokens_of_firstOffence (ht.append _)
  · exact absurd ⟨_, rfl⟩ hnot

theorem exists_ok_append_term_iff (length : Nat) {length' : Nat} {ts : List Token} {t : Token}
    {x : Term} (ht : t.Holds x) : (∃ e, ofTokens length' (ts ++ [t]) = .ok e) ↔
      ∃ e, ofTokens length ts = .error e ∧ e.Incomplete := by
  rw [exists_ofTokens_eq_ok_iff, exists_incomplete_iff, unoffending_append_singleton,
    offends_iff_of_holds ht, List.length_append, List.length_singleton]
  constructor
  · rintro ⟨⟨hall, -⟩, hodd⟩
    exact ⟨hall, by omega⟩
  · rintro ⟨hall, heven⟩
    exact ⟨⟨hall, by omega⟩, by omega⟩

theorem exists_ok_append_summand_iff (length : Nat) {length' : Nat} {ts : List Token}
    {plus t : Token} {x : Term} (hplus : plus.kind = .plus) (ht : t.Holds x) :
    (∃ e, ofTokens length' (ts ++ [plus, t]) = .ok e) ↔ ∃ e, ofTokens length ts = .ok e := by
  have hsplit : ts ++ [plus, t] = (ts ++ [plus]) ++ [t] := by simp
  rw [hsplit, exists_ok_append_term_iff length ht, exists_incomplete_iff,
    exists_ofTokens_eq_ok_iff, unoffending_append_singleton, offends_iff_of_plus hplus,
    List.length_append, List.length_singleton]
  constructor
  · rintro ⟨⟨hall, -⟩, heven⟩
    exact ⟨hall, by omega⟩
  · rintro ⟨hall, hodd⟩
    exact ⟨⟨hall, by omega⟩, by omega⟩

inductive Verdict
  | accepted
  | unfinished
  | rejected

def Verdict.Of (s : String) : Verdict → Prop
  | .accepted => ∃ e, parse s = .ok e
  | .unfinished => ∃ e, parse s = .error e ∧ e.Incomplete
  | .rejected => ∃ e, parse s = .error e ∧ ¬ e.Incomplete ∧ ∀ x, parse (s ++ " " ++ x) = .error e

theorem parse_append_of_error {s : String} {e : ParseError} (h : parse s = .error e)
    (hnot : ¬ e.Incomplete) (x : String) : parse (s ++ " " ++ x) = .error e := by
  have htail : Closing (' ' :: x.toList) := by simp [Closing]
  have htoList : (s ++ " " ++ x).toList = s.toList ++ ' ' :: x.toList := by
    rw [String.toList_append, String.toList_append, List.append_assoc]
    rfl
  rw [parse, htoList]
  exact ofText_append_of_error h hnot htail

theorem unfinished_iff (s : String) :
    Verdict.unfinished.Of s ↔ ∃ e, parse (s ++ " 1") = .ok e := by
  have htoList : (s ++ " 1").toList = s.toList ++ [' ', '1'] := String.toList_append
  rw [parse, htoList, ofText, scan_append_blank, scan_one]
  exact (exists_ok_append_term_iff _ (x := .constant 1) ⟨rfl, rfl⟩).symm

theorem accepted_iff (s : String) :
    Verdict.accepted.Of s ↔ ∃ e, parse (s ++ " +1") = .ok e := by
  have htoList : (s ++ " +1").toList = s.toList ++ [' ', '+', '1'] := String.toList_append
  rw [parse, htoList, ofText, scan_append_blank, scan_plus, scan_one]
  exact (exists_ok_append_summand_iff _ (x := .constant 1) rfl ⟨rfl, rfl⟩).symm

theorem exists_unique_verdict (s : String) :
    (∃! v : Verdict, v.Of s) ∧
    (Verdict.accepted.Of s ↔ ∃ e, parse (s ++ " +1") = .ok e) ∧
    (Verdict.unfinished.Of s ↔ ∃ e, parse (s ++ " 1") = .ok e) := by
  refine ⟨?_, accepted_iff s, unfinished_iff s⟩
  cases h : parse s with
  | ok e =>
    refine ⟨.accepted, ⟨e, h⟩, ?_⟩
    intro v hv
    cases v <;> simp_all [Verdict.Of]
  | error e =>
    by_cases hend : e.Incomplete
    · refine ⟨.unfinished, ⟨e, h, hend⟩, ?_⟩
      intro v hv
      cases v <;> simp_all [Verdict.Of]
    · refine ⟨.rejected, ⟨e, h, hend, parse_append_of_error h hend⟩, ?_⟩
      intro v hv
      cases v <;> simp_all [Verdict.Of]

end Expression

end Chance
