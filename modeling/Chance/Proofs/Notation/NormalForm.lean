import Chance.Proofs.Notation.RoundTrip
import Mathlib.Data.List.SplitBy

namespace Chance

def trimmed (ds : List Char) : List Char :=
  match ds.dropWhile (· == '0') with
  | [] => ['0']
  | rest => rest

/-- Each run of digits loses the zeros that lead it, and a run of zeros becomes one zero. -/
def withoutZeros (s : List Char) : List Char :=
  (s.splitBy fun c d => c.isDigit && d.isDigit).flatMap trimmed

/-- A one is put before each `d` that does not follow a digit. -/
def withCounts (afterDigit : Bool) : List Char → List Char
  | [] => []
  | c :: s => (if c = 'd' ∧ afterDigit = false then ['1'] else []) ++ c :: withCounts c.isDigit s

def normalForm (s : List Char) : List Char :=
  withCounts false (withoutZeros (s.filter fun c => !c.isWhitespace))

theorem toDigits_digit {c : Char} (h : c.isDigit) :
    c.toNat - '0'.toNat < 10 ∧ Nat.toDigits 10 (c.toNat - '0'.toNat) = [c] := by
  obtain ⟨hlow, hhigh⟩ := Char.isDigit_iff_toNat.mp h
  have hnine : '9'.toNat = '0'.toNat + 9 := rfl
  have hlt : c.toNat - '0'.toNat < 10 := by omega
  have hc : Nat.digitChar (c.toNat - '0'.toNat) = c := by
    apply Char.toNat_inj.mp
    rw [Nat.toNat_digitChar_of_lt_ten hlt]
    exact Nat.add_sub_of_le hlow
  exact ⟨hlt, by rw [Nat.toDigits_of_lt_base hlt, hc]⟩

theorem toDigits_append_digits {ds : List Char} (hds : Digits ds) {n : Nat} (hn : 0 < n) :
    Nat.toDigits 10 n ++ ds = Nat.toDigits 10 (Nat.ofDigitChars 10 ds n) := by
  induction ds generalizing n with
  | nil => rw [List.append_nil, Nat.ofDigitChars_nil]
  | cons c ds ih =>
    obtain ⟨hdigit, hrest⟩ := List.forall_mem_cons.mp hds
    obtain ⟨hlt, hc⟩ := toDigits_digit hdigit
    rw [Nat.ofDigitChars_cons, ← ih hrest (by omega),
      ← Nat.toDigits_append_toDigits (by decide) hn hlt, hc, List.append_assoc,
      List.singleton_append]

theorem toDigits_ofDigitChars {c : Char} {ds : List Char} (hds : Digits (c :: ds)) (hc : c ≠ '0') :
    Nat.toDigits 10 (Nat.ofDigitChars 10 (c :: ds) 0) = c :: ds := by
  obtain ⟨hdigit, hrest⟩ := List.forall_mem_cons.mp hds
  obtain ⟨-, htext⟩ := toDigits_digit hdigit
  have hpos : 0 < c.toNat - '0'.toNat := by
    apply Nat.pos_of_ne_zero
    intro hz
    rw [hz, Nat.toDigits_zero] at htext
    exact hc (List.cons.inj htext).1.symm
  rw [Nat.ofDigitChars_cons, Nat.mul_zero, Nat.zero_add, ← toDigits_append_digits hrest hpos,
    htext, List.singleton_append]

theorem ofDigitChars_dropWhile (ds : List Char) :
    Nat.ofDigitChars 10 (ds.dropWhile (· == '0')) 0 = Nat.ofDigitChars 10 ds 0 := by
  induction ds with
  | nil => rfl
  | cons c ds ih =>
    by_cases hc : c = '0'
    · subst hc
      rw [List.dropWhile_cons_of_pos (by rfl), ih]
      rfl
    · rw [List.dropWhile_cons_of_neg (by simpa using hc)]

theorem trimmed_numeral {ds : List Char} {n : Nat} (h : Numeral ds n) :
    trimmed ds = Nat.toDigits 10 n := by
  have hvalue := ofDigitChars_dropWhile ds
  rw [h.value] at hvalue
  have hhead := List.head?_dropWhile_not (· == '0') ds
  have hdigits : Digits (ds.dropWhile (· == '0')) := fun c hc =>
    h.digits c (List.dropWhile_subset _ hc)
  cases hrest : ds.dropWhile (· == '0') with
  | nil =>
    rw [hrest, Nat.ofDigitChars_nil] at hvalue
    rw [trimmed, hrest, ← hvalue, Nat.toDigits_zero]
  | cons c rest =>
    rw [hrest] at hvalue hhead hdigits
    have hc : c ≠ '0' := by simpa using hhead
    rw [trimmed, hrest, ← hvalue, toDigits_ofDigitChars hdigits hc]

theorem withoutZeros_cons {c : Char} (h : c.isDigit = false) (s : List Char) :
    withoutZeros (c :: s) = c :: withoutZeros s := by
  have hc : c ≠ '0' := by
    rintro rfl
    cases h
  have htrimmed : trimmed [c] = [c] := by simp [trimmed, hc]
  have hsplit := List.splitBy_append (r := fun c d : Char => c.isDigit && d.isDigit) (l := [c])
    (m := s) (by simp [h])
  have hone : [c].splitBy (fun c d => c.isDigit && d.isDigit) = [[c]] := rfl
  rw [List.singleton_append, hone] at hsplit
  rw [withoutZeros, hsplit, List.flatMap_append, List.flatMap_singleton, htrimmed]
  rfl

theorem withoutZeros_append_cons {c : Char} (h : c.isDigit = false) (p s : List Char) :
    withoutZeros (p ++ c :: s) = withoutZeros p ++ c :: withoutZeros s := by
  rw [← withoutZeros_cons h, withoutZeros, List.splitBy_append_cons s (by simp [h]),
    List.flatMap_append]
  rfl

theorem withoutZeros_numeral {ds : List Char} {n : Nat} (h : Numeral ds n) :
    withoutZeros ds = Nat.toDigits 10 n := by
  have hchain : ds.IsChain fun c d => c.isDigit && d.isDigit := by
    apply List.isChain_iff_getElem.mpr
    intro i hi
    rw [h.digits _ (List.getElem_mem _), h.digits _ (List.getElem_mem _)]
    rfl
  rw [withoutZeros, List.splitBy_of_isChain h.ne_nil hchain, List.flatMap_singleton,
    trimmed_numeral h]

theorem withCounts_append_plus (afterDigit : Bool) (p s : List Char) :
    withCounts afterDigit (p ++ '+' :: s) =
      withCounts afterDigit p ++ '+' :: withCounts false s := by
  induction p generalizing afterDigit with
  | nil => rfl
  | cons c p ih => simp only [List.cons_append, withCounts, ih, List.append_assoc]

theorem withCounts_digits_append {ds : List Char} (hds : Digits ds) (hne : ds ≠ [])
    (afterDigit : Bool) (s : List Char) :
    withCounts afterDigit (ds ++ s) = ds ++ withCounts true s := by
  induction ds generalizing afterDigit with
  | nil => exact absurd rfl hne
  | cons c ds ih =>
    obtain ⟨hc, hrest⟩ := List.forall_mem_cons.mp hds
    have hd : c ≠ 'd' := by
      rintro rfl
      cases hc
    simp only [List.cons_append, withCounts, hc, hd, false_and, if_false, List.nil_append]
    by_cases hnil : ds = []
    · rw [hnil]
      rfl
    · rw [ih hrest hnil]

theorem withCounts_toDigits_append (afterDigit : Bool) (n : Nat) (s : List Char) :
    withCounts afterDigit (Nat.toDigits 10 n ++ s) = Nat.toDigits 10 n ++ withCounts true s :=
  withCounts_digits_append (numeral_toDigits n).digits (numeral_toDigits n).ne_nil afterDigit s

theorem withCounts_toDigits (afterDigit : Bool) (n : Nat) :
    withCounts afterDigit (Nat.toDigits 10 n) = Nat.toDigits 10 n := by
  have h := withCounts_toDigits_append afterDigit n []
  rwa [List.append_nil, withCounts, List.append_nil] at h

theorem withCounts_withoutZeros {l : List Char} {t : Term} (h : Spells l t) :
    withCounts false (withoutZeros l) = t.text := by
  cases h with
  | constant h =>
    rw [withoutZeros_numeral h, withCounts_toDigits]
    rfl
  | dice hc hs =>
    rw [withoutZeros_append_cons rfl, withoutZeros_numeral hc, withoutZeros_numeral hs,
      withCounts_toDigits_append, withCounts, withCounts_toDigits]
    rfl
  | die hs =>
    have hone : Positive.one.text = ['1'] := Nat.toDigits_of_lt_base (by decide)
    rw [withoutZeros_cons rfl, withoutZeros_numeral hs, withCounts, if_pos ⟨rfl, rfl⟩,
      withCounts_toDigits, Term.text, Dice.text, hone]
    rfl

theorem filter_of_blank {w : List Char} (h : Blank w) :
    w.filter (fun c => !c.isWhitespace) = [] := by
  apply List.filter_eq_nil_iff.mpr
  intro c hc
  simpa [isWhitespace_iff] using h c hc

theorem filter_of_spells {l : List Char} {t : Term} (h : Spells l t) :
    l.filter (fun c => !c.isWhitespace) = l := by
  have filter_digits {ds : List Char} (hds : Digits ds) :
      ds.filter (fun c => !c.isWhitespace) = ds := by
    apply List.filter_eq_self.mpr
    intro c hc
    simp [isWhitespace_eq_false_of_isDigit (hds c hc)]
  cases h with
  | constant h => exact filter_digits h.digits
  | dice hc hs =>
    rw [List.filter_append, filter_digits hc.digits, List.filter_cons_of_pos rfl,
      filter_digits hs.digits]
  | die hs => rw [List.filter_cons_of_pos rfl, filter_digits hs.digits]

theorem normalForm_summand {s : List Char} {t : Term} (h : Summand s t) :
    normalForm s = t.text := by
  obtain ⟨before, lexeme, after, hbefore, hspells, hafter, rfl⟩ := h
  rw [normalForm, List.filter_append, List.filter_append, filter_of_blank hbefore,
    filter_of_blank hafter, filter_of_spells hspells, List.nil_append, List.append_nil]
  exact withCounts_withoutZeros hspells

theorem normalForm_append_plus (p s : List Char) :
    normalForm (p ++ '+' :: s) = normalForm p ++ '+' :: normalForm s := by
  rw [normalForm, List.filter_append, List.filter_cons_of_pos rfl, withoutZeros_append_cons rfl,
    withCounts_append_plus]
  rfl

theorem normalForm_written {s : List Char} {ts : List Term} (h : Written s ts) :
    normalForm s = ['+'].intercalate (ts.map Term.text) := by
  induction ts generalizing s with
  | nil =>
    obtain ⟨pieces, hne, -, hall⟩ := h
    cases hall
    exact absurd rfl hne
  | cons t ts ih =>
    cases ts with
    | nil => rw [normalForm_summand h.summand, List.map_singleton, List.intercalate_singleton]
    | cons u ts =>
      obtain ⟨p, q, rfl, hp, hq⟩ := h.split
      have hcons : (t :: u :: ts).map Term.text = t.text :: (u :: ts).map Term.text := rfl
      rw [normalForm_append_plus, normalForm_summand hp, ih hq, hcons,
        List.intercalate_cons_of_ne_nil (by simp), List.append_assoc, List.singleton_append]

namespace Expression

theorem toString_of_parse {s : String} {e : Expression} (h : parse s = .ok e) :
    toString e = String.ofList (normalForm s.toList) := by
  rw [normalForm_written (written_of_parse h)]
  rfl

theorem parse_eq_iff {a b : String} {d e : Expression} (ha : parse a = .ok d)
    (hb : parse b = .ok e) : parse a = parse b ↔ normalForm a.toList = normalForm b.toList := by
  rw [← String.ofList_inj, ← toString_of_parse ha, ← toString_of_parse hb, ha, hb]
  constructor
  · intro h
    rw [Except.ok.inj h]
  · intro h
    rw [toString_injective h]

end Expression

end Chance
