import Chance.Proofs.Notation.Lexing
import Chance.Proofs.Notation.Reading
import Mathlib.Data.List.Forall2

namespace Chance

structure Numeral (ds : List Char) (n : Nat) : Prop where
  ne_nil : ds ≠ []
  digits : Digits ds
  value : Nat.ofDigitChars 10 ds 0 = n

/-- The text without blanks is one of the term. The count of dice can be left out if it is one. -/
inductive Spells : List Char → Term → Prop
  | constant {ds : List Char} {n : Number} (h : Numeral ds n.val) : Spells ds (.constant n)
  | dice {cs ss : List Char} {count sides : Positive} (hc : Numeral cs count.value)
      (hs : Numeral ss sides.value) : Spells (cs ++ 'd' :: ss) (.dice ⟨count, sides⟩)
  | die {ss : List Char} {sides : Positive} (hs : Numeral ss sides.value) :
      Spells ('d' :: ss) (.dice ⟨.one, sides⟩)

def Summand (s : List Char) (t : Term) : Prop :=
  ∃ before lexeme after, Blank before ∧ Spells lexeme t ∧ Blank after ∧
    s = before ++ lexeme ++ after

def Written (s : List Char) (ts : List Term) : Prop :=
  ∃ pieces, pieces ≠ [] ∧ s = ['+'].intercalate pieces ∧ List.Forall₂ Summand pieces ts

theorem written_singleton {s : List Char} {t : Term} (h : Summand s t) : Written s [t] :=
  ⟨[s], by simp, by simp, .cons h .nil⟩

theorem Written.cons {p q : List Char} {t : Term} {ts : List Term} (hp : Summand p t)
    (hq : Written q ts) : Written (p ++ '+' :: q) (t :: ts) := by
  obtain ⟨pieces, hne, rfl, hall⟩ := hq
  refine ⟨p :: pieces, by simp, ?_, .cons hp hall⟩
  rw [List.intercalate_cons_of_ne_nil hne, List.append_assoc, List.singleton_append]

theorem Written.summand {s : List Char} {t : Term} (h : Written s [t]) : Summand s t := by
  obtain ⟨pieces, -, rfl, hall⟩ := h
  cases hall with
  | cons hp htail =>
    cases htail
    rwa [List.intercalate_singleton]

theorem Written.split {s : List Char} {t u : Term} {ts : List Term} (h : Written s (t :: u :: ts)) :
    ∃ p q, s = p ++ '+' :: q ∧ Summand p t ∧ Written q (u :: ts) := by
  obtain ⟨pieces, -, rfl, hall⟩ := h
  cases hall with
  | @cons p _ pieces _ hp htail =>
    have hne : pieces ≠ [] := by
      rintro rfl
      cases htail
    refine ⟨p, ['+'].intercalate pieces, ?_, hp, pieces, hne, rfl, htail⟩
    rw [List.intercalate_cons_of_ne_nil hne, List.append_assoc, List.singleton_append]

namespace Token

theorem takeWhile_ne_d {cs : List Char} (hcs : Digits cs) (ss : List Char) :
    (cs ++ 'd' :: ss).takeWhile (· ≠ 'd') = cs := by
  rw [List.takeWhile_append_of_pos, List.takeWhile_cons_of_neg (by simp), List.append_nil]
  intro c hc
  apply decide_eq_true
  rintro rfl
  exact absurd (hcs 'd' hc) (by decide)

theorem dropWhile_ne_d {cs : List Char} (hcs : Digits cs) (ss : List Char) :
    (cs ++ 'd' :: ss).dropWhile (· ≠ 'd') = 'd' :: ss := by
  have h := List.takeWhile_append_dropWhile (p := (· ≠ 'd')) (l := cs ++ 'd' :: ss)
  rw [takeWhile_ne_d hcs] at h
  exact List.append_cancel_left h

theorem countDigits_of_lexeme {t : Token} {cs ss : List Char} (hcs : Digits cs)
    (h : t.lexeme = cs ++ 'd' :: ss) : t.countDigits = cs := by
  rw [countDigits, h, takeWhile_ne_d hcs]

theorem sidesDigits_of_lexeme {t : Token} {cs ss : List Char} (hcs : Digits cs)
    (h : t.lexeme = cs ++ 'd' :: ss) : t.sidesDigits = ss := by
  rw [sidesDigits, h, dropWhile_ne_d hcs]
  rfl

theorem numbers_of_lexeme {t : Token} {cs ss : List Char} (hk : t.kind = .dice) (hcs : Digits cs)
    (h : t.lexeme = cs ++ 'd' :: ss) :
    t.numbers = [if cs = [] then 1 else Nat.ofDigitChars 10 cs 0, Nat.ofDigitChars 10 ss 0] := by
  rw [numbers_of_dice hk, count, sides, countDigits_of_lexeme hcs h, sidesDigits_of_lexeme hcs h]

theorem spells_of_holds {t : Token} {rest : List Char} {x : Term}
    (hl : Leads t.kind t.lexeme rest) (hx : t.Holds x) : Spells t.lexeme x := by
  obtain ⟨k, start, l⟩ := t
  cases x with
  | constant n =>
    obtain ⟨rfl, hn⟩ := hx
    cases hl with
    | integer hds hne => exact .constant ⟨hne, hds, (List.cons.inj hn).1⟩
  | dice d =>
    obtain ⟨rfl, hn⟩ := hx
    cases hl with
    | @dice cs ss _ hcs hss hne =>
      rw [numbers_of_lexeme rfl hcs rfl] at hn
      obtain ⟨hc, hn⟩ := List.cons.inj hn
      have hs : Numeral ss d.sides.value := ⟨hne, hss, (List.cons.inj hn).1⟩
      by_cases hnil : cs = []
      · rw [if_pos hnil] at hc
        have hone : d = ⟨.one, d.sides⟩ := by
          obtain ⟨⟨count, _, _⟩, sides⟩ := d
          cases hc
          rfl
        rw [hone, hnil]
        exact .die hs
      · rw [if_neg hnil] at hc
        exact .dice ⟨hnil, hcs, hc⟩ hs

theorem leads_of_spells {l rest : List Char} {x : Term} (h : Spells l x) (hrest : Closing rest) :
    ∃ k, Leads k l rest ∧ ∀ start, Holds ⟨k, start, l⟩ x := by
  have hdigits := hrest.digits_eq_nil
  cases h with
  | constant h =>
    refine ⟨.integer, .integer h.digits h.ne_nil hdigits hrest.sidesPart_eq_nil, fun start => ?_⟩
    exact ⟨rfl, congrArg (fun n => [n]) h.value⟩
  | @dice cs ss count sides hc hs =>
    refine ⟨.dice, .dice hc.digits hs.digits hs.ne_nil hdigits, fun start => ⟨rfl, ?_⟩⟩
    rw [numbers_of_lexeme rfl hc.digits rfl, if_neg hc.ne_nil, hc.value, hs.value]
  | @die ss sides hs =>
    have hnil : Digits [] := fun c hc => absurd hc (by simp)
    have hl : Leads .dice ([] ++ 'd' :: ss) rest := .dice hnil hs.digits hs.ne_nil hdigits
    refine ⟨.dice, hl, fun start => ⟨rfl, ?_⟩⟩
    have hn := numbers_of_lexeme (t := ⟨.dice, start, 'd' :: ss⟩) rfl hnil rfl
    rw [hn, if_pos rfl, hs.value]
    rfl

theorem scan_summand {s : List Char} {x : Term} (h : Summand s x) {rest : List Char}
    (hrest : Closing rest) (start : Nat) :
    ∃ t stop, t.Holds x ∧ scan start (s ++ rest) = t :: scan stop rest := by
  obtain ⟨before, lexeme, after, hbefore, hspells, hafter, rfl⟩ := h
  obtain ⟨k, hl, hx⟩ := leads_of_spells hspells (closing_append hafter hrest)
  refine ⟨⟨k, start + byteLength before, lexeme⟩,
    start + byteLength before + byteLength lexeme + byteLength after, hx _, ?_⟩
  rw [List.append_assoc, List.append_assoc, scan_blank_append _ hbefore, scan_of_leads _ hl,
    scan_blank_append _ hafter]

end Token

namespace Expression

open Token

variable {length : Nat} {s : List Char}

theorem ofTokens_of_written {ts : List Term} (h : Written s ts) (start : Nat) :
    ∃ e, ofTokens length (scan start s) = .ok e ∧ e.terms.toList = ts := by
  -- The place where a text starts changes with each term, and only the spans depend on it.
  induction ts generalizing s start with
  | nil =>
    obtain ⟨pieces, hne, -, hall⟩ := h
    cases hall
    exact absurd rfl hne
  | cons x ts ih =>
    cases ts with
    | nil =>
      have hend : Closing [] := by simp [Closing]
      obtain ⟨t, stop, hx, hscan⟩ := scan_summand h.summand hend start
      rw [List.append_nil, scan] at hscan
      exact ⟨⟨.singleton x⟩, hscan ▸ ofTokens_singleton_eq_ok.mpr ⟨x, hx, rfl⟩, rfl⟩
    | cons y ts =>
      obtain ⟨p, q, rfl, hp, hq⟩ := h.split
      have hplus : Closing ('+' :: q) := by simp [Closing]
      obtain ⟨t, stop, hx, hscan⟩ := scan_summand hp hplus start
      rw [← List.singleton_append, scan_of_leads stop .plus] at hscan
      obtain ⟨e, he, hts⟩ := ih hq (stop + byteLength ['+'])
      refine ⟨⟨.cons x e.terms⟩, ?_, by rw [NonemptyList.toList_cons, hts]⟩
      rw [← List.singleton_append, hscan]
      exact ofTokens_cons_cons_eq_ok.mpr ⟨x, e, hx, rfl, he, rfl⟩

theorem summand_of_lexes {start : Nat} {w l rest : List Char} {k : TokenKind} {x : Term}
    (hw : Blank w) (hl : Leads k l rest) (hx : Holds ⟨k, start, l⟩ x) {v : List Char}
    (hv : Blank v) : Summand (w ++ (l ++ v)) x :=
  ⟨w, l, v, hw, spells_of_holds hl hx, hv, (List.append_assoc w l v).symm⟩

theorem written_of_ofTokens {start : Nat} {toks : List Token} {e : Expression}
    (hlex : Lexes start s toks) (h : ofTokens length toks = .ok e) : Written s e.terms.toList := by
  -- The blanks between a term and the plus sign after it belong to the term's summand, so the text
  -- is taken apart two tokens at a time, as the tokens are.
  induction toks using ofTokens.induct generalizing s start e with
  | case1 => simp [ofTokens] at h
  | case2 t =>
    obtain ⟨x, hx, rfl⟩ := ofTokens_singleton_eq_ok.mp h
    cases hlex with
    | token hw hl hrest =>
      cases hrest with
      | done hv => exact written_singleton (summand_of_lexes hw hl hx hv)
  | case3 t plus ts ih =>
    obtain ⟨x, d, hx, hplus, hd, rfl⟩ := ofTokens_cons_cons_eq_ok.mp h
    cases hlex with
    | @token _ w l _ _ _ hw hl hrest =>
      cases hrest with
      | @token _ v _ rest _ _ hv hl' hrest =>
        obtain rfl := hplus
        cases hl' with
        | plus =>
          have hsum : Summand (w ++ (l ++ v)) x := summand_of_lexes hw hl hx hv
          have hcons := Written.cons hsum (ih hrest hd)
          rw [NonemptyList.toList_cons]
          simpa only [List.append_assoc, List.singleton_append] using hcons

theorem written_of_parse {s : String} {e : Expression} (h : parse s = .ok e) :
    Written s.toList e.terms.toList :=
  written_of_ofTokens (lexes_scan 0 s.toList) h

theorem parse_of_written {s : String} {e : Expression} (h : Written s.toList e.terms.toList) :
    parse s = .ok e := by
  obtain ⟨⟨terms⟩, hd, hterms⟩ := ofTokens_of_written h 0
  have heq : terms = e.terms := NonemptyList.toList_injective hterms
  rwa [heq] at hd

theorem parse_eq_ok_iff_written (s : String) :
    (∀ e, parse s = .ok e ↔ Written s.toList e.terms.toList) ∧
      ∀ ts, Written s.toList ts → ∃ e, parse s = .ok e ∧ e.terms.toList = ts := by
  constructor
  · intro e
    exact ⟨written_of_parse, parse_of_written⟩
  · intro ts h
    exact ofTokens_of_written h 0

end Expression

end Chance
