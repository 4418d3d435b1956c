import Chance.Notation.Token
import Mathlib.Data.List.TakeWhile

namespace Chance

def Blank (w : List Char) : Prop := ∀ c ∈ w, c = ' ' ∨ c = '\t' ∨ c = '\r' ∨ c = '\n'

def Digits (ds : List Char) : Prop := ∀ c ∈ ds, c.isDigit

theorem isWhitespace_iff (c : Char) :
    c.isWhitespace = true ↔ c = ' ' ∨ c = '\t' ∨ c = '\r' ∨ c = '\n' := by
  simp only [Char.isWhitespace, Bool.or_eq_true, decide_eq_true_eq, or_assoc]

theorem isWhitespace_eq_false_of_isDigit {c : Char} (h : c.isDigit) : c.isWhitespace = false := by
  apply Bool.eq_false_iff.mpr
  intro hw
  rcases (isWhitespace_iff c).mp hw with rfl | rfl | rfl | rfl <;> simp at h

theorem blank_nil : Blank [] := by simp [Blank]

theorem blank_cons {c : Char} {w : List Char} : Blank (c :: w) ↔ c.isWhitespace ∧ Blank w := by
  simp only [Blank, List.forall_mem_cons, isWhitespace_iff]

theorem byteLength_append (s t : List Char) :
    byteLength (s ++ t) = byteLength s + byteLength t := by
  induction s with
  | nil => simp [byteLength]
  | cons c s ih => simp only [List.cons_append, byteLength, ih, Nat.add_assoc]

theorem byteLength_toList (s : String) : byteLength s.toList = s.utf8ByteSize := by
  have key (l : List Char) : byteLength l = (String.ofList l).utf8ByteSize := by
    induction l with
    | nil => rfl
    | cons c l ih =>
      have hsplit : String.ofList (c :: l) = String.singleton c ++ String.ofList l := by
        rw [String.singleton_eq_ofList, ← String.ofList_append, List.singleton_append]
      rw [byteLength, ih, hsplit, String.utf8ByteSize_append, String.utf8ByteSize_singleton]
  rw [key, String.ofList_toList]

namespace Token

theorem digits_append_dropWhile (s : List Char) : digits s ++ s.dropWhile Char.isDigit = s :=
  List.takeWhile_append_dropWhile

theorem digits_append {ds rest : List Char} (hds : Digits ds) (hrest : digits rest = []) :
    digits (ds ++ rest) = ds := by
  rw [digits, List.takeWhile_append_of_pos hds, ← digits, hrest, List.append_nil]

theorem dropWhile_isDigit_append {ds rest : List Char} (hds : Digits ds)
    (hrest : digits rest = []) : (ds ++ rest).dropWhile Char.isDigit = rest := by
  have hsplit := digits_append_dropWhile rest
  rw [hrest, List.nil_append] at hsplit
  rw [List.dropWhile_append_of_pos hds, hsplit]

theorem digits_digits (s : List Char) : Digits (digits s) := by
  intro c hc
  exact List.mem_takeWhile_imp hc

theorem digits_dropWhile (s : List Char) : digits (s.dropWhile Char.isDigit) = [] := by
  induction s with
  | nil => rfl
  | cons c s ih =>
    by_cases hc : c.isDigit
    · rw [List.dropWhile_cons_of_pos hc, ih]
    · rw [List.dropWhile_cons_of_neg hc, digits, List.takeWhile_cons_of_neg hc]

theorem sidesPart_of_ne {c : Char} (h : c ≠ 'd') (s : List Char) : sidesPart (c :: s) = [] := by
  unfold sidesPart
  split
  · rename_i he
    exact absurd (List.cons.inj he).1 h
  · rfl

theorem eq_cons_of_sidesPart_ne_nil {s : List Char} (h : sidesPart s ≠ []) :
    ∃ t, s = 'd' :: t ∧ digits t ≠ [] ∧ sidesPart s = 'd' :: digits t := by
  unfold sidesPart at h
  split at h
  · rename_i t
    have ht : digits t ≠ [] := by
      intro hnil
      exact h (if_pos hnil)
    exact ⟨t, rfl, ht, if_neg ht⟩
  · exact absurd rfl h

/-- With `rest` after it, `lexeme` is the longest token at the front, and it has the given kind. -/
inductive Leads : TokenKind → List Char → List Char → Prop
  | dice {cs ss rest : List Char} (hcs : Digits cs) (hss : Digits ss) (hne : ss ≠ [])
      (hrest : digits rest = []) : Leads .dice (cs ++ 'd' :: ss) rest
  | integer {ds rest : List Char} (hds : Digits ds) (hne : ds ≠ []) (hrest : digits rest = [])
      (hsides : sidesPart rest = []) : Leads .integer ds rest
  | plus {rest : List Char} : Leads .plus ['+'] rest
  | unknown {c : Char} {rest : List Char} (hblank : c.isWhitespace = false)
      (hdigit : c.isDigit = false) (hplus : c ≠ '+') (hsides : sidesPart (c :: rest) = []) :
      Leads .unknown [c] rest

theorem Leads.ne_nil {k : TokenKind} {l rest : List Char} (h : Leads k l rest) : l ≠ [] := by
  cases h <;> simp_all

theorem digits_cons_eq_nil {c : Char} (h : c.isDigit = false) (s : List Char) :
    digits (c :: s) = [] := by
  simp [digits, h]

theorem munch_of_leads {k : TokenKind} {l rest s : List Char} {c : Char} (h : Leads k l rest)
    (hs : c :: s = l ++ rest) : munch c s = (k, l) := by
  simp only [munch, hs]
  cases h with
  | dice hcs hss hne hrest =>
    rename_i cs ss
    have hd : digits ('d' :: (ss ++ rest)) = [] := digits_cons_eq_nil rfl _
    rw [List.append_assoc, List.cons_append, digits_append hcs hd, dropWhile_isDigit_append hcs hd]
    simp only [sidesPart, digits_append hss hrest, hne, if_false, if_true, ne_eq, reduceCtorEq,
      not_false_eq_true]
  | integer hds hne hrest hsides =>
    rw [digits_append hds hrest, dropWhile_isDigit_append hds hrest, hsides]
    simp [hne]
  | plus =>
    rw [List.singleton_append] at hs ⊢
    obtain ⟨rfl, rfl⟩ := List.cons.inj hs
    simp [digits_cons_eq_nil, sidesPart]
  | unknown hblank hdigit hplus hsides =>
    rw [List.singleton_append] at hs ⊢
    obtain ⟨rfl, rfl⟩ := List.cons.inj hs
    simp [digits_cons_eq_nil hdigit, hdigit, hsides, hplus]

theorem leads_munch {c : Char} (hc : c.isWhitespace = false) (s : List Char) :
    ∃ rest, c :: s = (munch c s).2 ++ rest ∧ Leads (munch c s).1 (munch c s).2 rest := by
  have hsplit := digits_append_dropWhile (c :: s)
  have hrest := digits_dropWhile (c :: s)
  generalize hcs : digits (c :: s) = cs at hsplit
  generalize htail : (c :: s).dropWhile Char.isDigit = tail at hsplit hrest
  simp only [munch, hcs, htail]
  -- Without sides the digits are an integer; without digits the first character stands alone.
  by_cases hsides : sidesPart tail = []
  · by_cases hne : cs = []
    · subst hne
      rw [List.nil_append] at hsplit
      subst hsplit
      have hdigit : c.isDigit = false := by
        by_contra h
        simp [digits, h] at hrest
      refine ⟨s, ?_, ?_⟩
      · simp [hsides]
      · by_cases hplus : c = '+'
        · subst hplus
          simpa [hsides] using Leads.plus
        · simpa [hsides, hplus] using Leads.unknown hc hdigit hplus hsides
    · refine ⟨tail, ?_, ?_⟩
      · simp [hsides, hne, hsplit]
      · simpa [hsides, hne] using Leads.integer (hcs ▸ digits_digits _) hne hrest hsides
  · obtain ⟨t, rfl, hss, heq⟩ := eq_cons_of_sidesPart_ne_nil hsides
    refine ⟨t.dropWhile Char.isDigit, ?_, ?_⟩
    · rw [if_pos hsides, heq, ← hsplit]
      simp [digits]
    · simpa [heq] using
        Leads.dice (hcs ▸ digits_digits _) (digits_digits t) hss (digits_dropWhile t)

inductive Lexes : Nat → List Char → List Token → Prop
  | done {start : Nat} {w : List Char} (hw : Blank w) : Lexes start w []
  | token {start : Nat} {w l rest : List Char} {k : TokenKind} {ts : List Token} (hw : Blank w)
      (hl : Leads k l rest) (hrest : Lexes (start + byteLength w + byteLength l) rest ts) :
      Lexes start (w ++ (l ++ rest)) (⟨k, start + byteLength w, l⟩ :: ts)

theorem scan_blank_append (start : Nat) {w : List Char} (hw : Blank w) (s : List Char) :
    scan start (w ++ s) = scan (start + byteLength w) s := by
  induction w generalizing start with
  | nil => simp [byteLength]
  | cons c w ih =>
    obtain ⟨hc, hw⟩ := blank_cons.mp hw
    rw [List.cons_append, scan, if_pos hc, ih _ hw, byteLength, Nat.add_assoc]

theorem Leads.isWhitespace_head {k : TokenKind} {l rest s : List Char} {c : Char}
    (h : Leads k l rest) (hs : c :: s = l ++ rest) : c.isWhitespace = false := by
  cases h with
  | dice hcs =>
    rename_i cs ss _ _ _
    cases cs with
    | nil => rw [(List.cons.inj hs).1]; rfl
    | cons d cs =>
      rw [(List.cons.inj hs).1]
      exact isWhitespace_eq_false_of_isDigit (hcs d List.mem_cons_self)
  | integer hds hne =>
    cases l with
    | nil => exact absurd rfl hne
    | cons d ds =>
      rw [(List.cons.inj hs).1]
      exact isWhitespace_eq_false_of_isDigit (hds d List.mem_cons_self)
  | plus => rw [(List.cons.inj hs).1]; rfl
  | unknown hblank => rw [(List.cons.inj hs).1]; exact hblank

theorem scan_of_leads (start : Nat) {k : TokenKind} {l rest : List Char} (h : Leads k l rest) :
    scan start (l ++ rest) = ⟨k, start, l⟩ :: scan (start + byteLength l) rest := by
  obtain ⟨c, t, rfl⟩ := List.exists_cons_of_ne_nil h.ne_nil
  have hmunch : munch c (t ++ rest) = (k, c :: t) := munch_of_leads h rfl
  have hblank : c.isWhitespace = false := h.isWhitespace_head rfl
  simp [scan, hblank, hmunch]

theorem Lexes.scan_eq {start : Nat} {s : List Char} {ts : List Token} (h : Lexes start s ts) :
    scan start s = ts := by
  induction h with
  | @done start w hw =>
    rw [← List.append_nil w, scan_blank_append start hw, scan]
  | token hw hl _ ih => rw [scan_blank_append _ hw, scan_of_leads _ hl, ih]

theorem Lexes.blank_append {start : Nat} {w s : List Char} {ts : List Token} (hw : Blank w)
    (h : Lexes (start + byteLength w) s ts) : Lexes start (w ++ s) ts := by
  have append {v : List Char} (hv : Blank v) : Blank (w ++ v) := by
    intro c hc
    rcases List.mem_append.mp hc with hc | hc
    · exact hw c hc
    · exact hv c hc
  cases h with
  | done hv => exact .done (append hv)
  | token hv hl hrest =>
    rw [← List.append_assoc, Nat.add_assoc, ← byteLength_append]
    refine .token (append hv) hl ?_
    rwa [byteLength_append, ← Nat.add_assoc]

theorem lexes_scan (start : Nat) (s : List Char) : Lexes start s (scan start s) := by
  induction hn : s.length using Nat.strong_induction_on generalizing start s with
  | _ n ih =>
    cases s with
    | nil => exact scan.eq_1 start ▸ .done blank_nil
    | cons c s =>
      by_cases hc : c.isWhitespace
      · have hw : Blank [c] := blank_cons.mpr ⟨hc, blank_nil⟩
        rw [← List.singleton_append, scan_blank_append start hw]
        exact .blank_append hw (ih s.length (by simp [← hn]) _ s rfl)
      · obtain ⟨rest, hs, hl⟩ := leads_munch (Bool.not_eq_true _ ▸ hc) s
        rw [hs, scan_of_leads start hl]
        refine .token blank_nil hl (ih rest.length ?_ _ rest rfl)
        have hpos := List.length_pos_iff.mpr hl.ne_nil
        have hlen := congrArg List.length hs
        rw [List.length_append] at hlen
        omega

def Closing (rest : List Char) : Prop := ∀ c ∈ rest.head?, c = '+' ∨ c.isWhitespace

theorem Closing.digits_eq_nil {rest : List Char} (h : Closing rest) : digits rest = [] := by
  cases rest with
  | nil => rfl
  | cons c rest =>
    apply digits_cons_eq_nil
    rcases h c rfl with rfl | hc
    · rfl
    · by_contra hd
      rw [isWhitespace_eq_false_of_isDigit (Bool.not_eq_false _ ▸ hd)] at hc
      cases hc

theorem Closing.sidesPart_eq_nil {rest : List Char} (h : Closing rest) : sidesPart rest = [] := by
  cases rest with
  | nil => rfl
  | cons c rest =>
    apply sidesPart_of_ne
    rintro rfl
    exact absurd (h 'd' rfl) (by decide)

theorem closing_blank_append {w : List Char} (hw : Blank w) (hne : w ≠ []) (rest : List Char) :
    Closing (w ++ rest) := by
  obtain ⟨c, w, rfl⟩ := List.exists_cons_of_ne_nil hne
  intro d hd
  obtain rfl := Option.some.inj hd
  exact .inr (blank_cons.mp hw).1

theorem closing_append {w rest : List Char} (hw : Blank w) (h : Closing rest) :
    Closing (w ++ rest) := by
  by_cases hne : w = []
  · rwa [hne, List.nil_append]
  · exact closing_blank_append hw hne rest

end Token

end Chance
