import Chance.Proofs.Notation.RoundTrip
import Chance.Roll.Basic

namespace Chance

def spaceless (s : List Char) : List Char := s.filter (· ≠ ' ')

def readNatural (s : List Char) : Nat := Nat.ofDigitChars 10 s 0

def readInteger : List Char → Int
  | '-' :: s => -readNatural s
  | s => readNatural s

def readFaces : List Char → List Nat
  | [] => []
  | s => (s.splitOn ',').map readNatural

def Positive.ofText? (s : List Char) : Option Positive := (Number.read? s).bind Positive.ofNumber?

def Dice.ofText? (s : List Char) : Option Dice :=
  match s.splitOn 'd' with
  | [count, sides] => do
    let count ← Positive.ofText? count
    let sides ← Positive.ofText? sides
    some ⟨count, sides⟩
  | _ => none

def TermRoll.ofText? (s : List Char) : Option TermRoll :=
  match s.splitOn '(' with
  | [number] => (Number.read? number).map .constant
  | [start, stop] => (Dice.ofText? start).map (.dice · (readFaces stop.dropLast))
  | _ => none

def Roll.ofText? (s : List Char) : Option Roll :=
  match (spaceless s).splitOn '=' with
  | [sum, total] => do
    let rolls ← (sum.splitOn '+').mapM TermRoll.ofText?
    let rolls ← NonemptyList.ofList? rolls
    some ⟨rolls, readInteger total⟩
  | _ => none

section

variable {α : Type}

theorem forall_mem_intercalate {P : α → Prop} {sep : List α} {ls : List (List α)}
    (hsep : ∀ c ∈ sep, P c) (h : ∀ l ∈ ls, ∀ c ∈ l, P c) : ∀ c ∈ sep.intercalate ls, P c := by
  intro c hc
  induction ls with
  | nil => cases hc
  | cons l ls ih =>
    obtain ⟨hl, hls⟩ := List.forall_mem_cons.mp h
    cases ls with
    | nil =>
      rw [List.intercalate_singleton] at hc
      exact hl c hc
    | cons m ls =>
      rw [List.intercalate_cons_cons, List.mem_append, List.mem_append] at hc
      rcases hc with (hc | hc) | hc
      · exact hl c hc
      · exact hsep c hc
      · exact ih hls hc

theorem filter_intercalate (p : α → Bool) (sep : List α) (ls : List (List α)) :
    (sep.intercalate ls).filter p = (sep.filter p).intercalate (ls.map (List.filter p)) := by
  induction ls with
  | nil => rfl
  | cons l ls ih =>
    cases ls with
    | nil => simp only [List.map_cons, List.map_nil, List.intercalate_singleton]
    | cons m ls =>
      rw [List.map_cons] at ih
      rw [List.intercalate_cons_cons, List.filter_append, List.filter_append, ih, List.map_cons,
        List.map_cons, List.intercalate_cons_cons]

theorem mapM_map_eq_some {β : Type} {f : α → β} {g : β → Option α} (h : ∀ x, g (f x) = some x)
    (xs : List α) : (xs.map f).mapM g = some xs := by
  induction xs with
  | nil => rfl
  | cons x xs ih =>
    rw [List.map_cons, List.mapM_cons, h, ih]
    rfl

theorem splitOn_of_notMem [DecidableEq α] {c : α} {s : List α} (hs : c ∉ s) :
    s.splitOn c = [s] := by
  have hsplit : ([c].intercalate [s]).splitOn c = [s] := by
    apply List.splitOn_intercalate _ _ (by simp)
    intro l hl
    rwa [List.mem_singleton.mp hl]
  rwa [List.intercalate_singleton] at hsplit

theorem splitOn_append_cons [DecidableEq α] {c : α} {s u : List α} (hs : c ∉ s) (hu : c ∉ u) :
    (s ++ c :: u).splitOn c = [s, u] := by
  have hsplit : ([c].intercalate [s, u]).splitOn c = [s, u] := by
    apply List.splitOn_intercalate _ _ (by simp)
    intro l hl
    rcases List.mem_pair.mp hl with rfl | rfl
    · exact hs
    · exact hu
  rwa [List.intercalate_cons_cons, List.intercalate_singleton, List.append_assoc,
    List.singleton_append] at hsplit

end

theorem isDigit_of_mem_toDigits {n : Nat} {c : Char} (h : c ∈ Nat.toDigits 10 n) : c.isDigit :=
  (numeral_toDigits n).digits c h

theorem notMem_toDigits {c : Char} (hc : ¬ c.isDigit) (n : Nat) : c ∉ Nat.toDigits 10 n :=
  fun h => hc (isDigit_of_mem_toDigits h)

theorem spaceless_append (s u : List Char) : spaceless (s ++ u) = spaceless s ++ spaceless u :=
  List.filter_append ..

theorem spaceless_eq_self {s : List Char} (h : ' ' ∉ s) : spaceless s = s := by
  apply List.filter_eq_self.mpr
  intro c hc
  apply decide_eq_true
  rintro rfl
  exact h hc

theorem spaceless_toDigits (n : Nat) : spaceless (Nat.toDigits 10 n) = Nat.toDigits 10 n :=
  spaceless_eq_self (notMem_toDigits (by decide) n)

theorem readNatural_toDigits (n : Nat) : readNatural (Nat.toDigits 10 n) = n :=
  Nat.ofDigitChars_ten_toDigits

theorem readInteger_toDigits (n : Nat) : readInteger (Nat.toDigits 10 n) = n := by
  unfold readInteger
  split
  · rename_i s hs
    have hminus : '-' ∈ Nat.toDigits 10 n := hs ▸ List.mem_cons_self
    exact absurd hminus (notMem_toDigits (by decide) n)
  · rw [readNatural_toDigits]

theorem readInteger_integerText (n : Int) : readInteger (integerText n) = n := by
  rw [integerText]
  split
  · rw [readInteger, readNatural_toDigits]
    omega
  · rw [readInteger_toDigits]
    omega

theorem isDigit_or_of_mem_integerText {n : Int} {c : Char} (h : c ∈ integerText n) :
    c.isDigit ∨ c = '-' := by
  rw [integerText] at h
  split at h
  · rcases List.mem_cons.mp h with rfl | h
    · exact .inr rfl
    · exact .inl (isDigit_of_mem_toDigits h)
  · exact .inl (isDigit_of_mem_toDigits h)

theorem Positive.ofText?_text (n : Positive) : ofText? n.text = some n := by
  have hread : Number.read? n.text = some n.toNumber := Number.read?_text n.toNumber
  rw [ofText?, hread, Option.bind_some, ofNumber?_toNumber]

namespace Dice

theorem isDigit_or_of_mem_text {d : Dice} {c : Char} (h : c ∈ d.text) : c.isDigit ∨ c = 'd' := by
  rw [text, List.mem_append, List.mem_cons] at h
  rcases h with h | rfl | h
  · exact .inl (isDigit_of_mem_toDigits h)
  · exact .inr rfl
  · exact .inl (isDigit_of_mem_toDigits h)

theorem notMem_text {c : Char} (hc : ¬ (c.isDigit ∨ c = 'd')) (d : Dice) : c ∉ d.text :=
  fun h => hc (isDigit_or_of_mem_text h)

theorem ofText?_text (d : Dice) : ofText? d.text = some d := by
  have hsplit : d.text.splitOn 'd' = [d.count.text, d.sides.text] := by
    apply splitOn_append_cons
    · exact notMem_toDigits (by decide) d.count.value
    · exact notMem_toDigits (by decide) d.sides.value
  simp only [ofText?, hsplit, Positive.ofText?_text]
  rfl

end Dice

def facesText (faces : List Nat) : List Char := [','].intercalate (faces.map (Nat.toDigits 10))

theorem isDigit_or_of_mem_facesText {faces : List Nat} {c : Char} (h : c ∈ facesText faces) :
    c.isDigit ∨ c = ',' := by
  revert c
  apply forall_mem_intercalate
  · intro c hc
    exact .inr (List.mem_singleton.mp hc)
  · intro l hl c hc
    obtain ⟨n, -, rfl⟩ := List.mem_map.mp hl
    exact .inl (isDigit_of_mem_toDigits hc)

theorem splitOn_facesText {faces : List Nat} (h : faces ≠ []) :
    (facesText faces).splitOn ',' = faces.map (Nat.toDigits 10) := by
  apply List.splitOn_intercalate _ _ (by simpa using h)
  intro l hl
  obtain ⟨n, -, rfl⟩ := List.mem_map.mp hl
  exact notMem_toDigits (by decide) n

theorem readFaces_facesText (faces : List Nat) : readFaces (facesText faces) = faces := by
  cases faces with
  | nil => rfl
  | cons face faces =>
    have hsplit := splitOn_facesText (List.cons_ne_nil face faces)
    have hread : readNatural ∘ Nat.toDigits 10 = id := funext readNatural_toDigits
    unfold readFaces
    split
    · rename_i hnil
      rw [hnil, List.map_cons] at hsplit
      exact absurd (List.cons.inj hsplit).1.symm Nat.toDigits_ne_nil
    · rw [hsplit, List.map_map, hread, List.map_id]

namespace TermRoll

theorem spaceless_text_constant (n : Number) : spaceless (text (.constant n)) = n.text :=
  spaceless_toDigits n.val

theorem spaceless_text_dice (d : Dice) (faces : List Nat) :
    spaceless (text (.dice d faces)) = d.text ++ '(' :: (facesText faces ++ [')']) := by
  have hdice : spaceless d.text = d.text := spaceless_eq_self (d.notMem_text (by decide))
  have hfaces : spaceless ([',', ' '].intercalate (faces.map (Nat.toDigits 10))) =
      facesText faces := by
    rw [spaceless, filter_intercalate, List.map_map, facesText]
    congr 1
    apply List.map_congr_left
    intro n _
    exact spaceless_toDigits n
  rw [text, spaceless_append, spaceless_append, spaceless_append, hdice, hfaces, List.append_assoc,
    List.append_assoc]
  rfl

theorem ofText?_text (t : TermRoll) : ofText? (spaceless t.text) = some t := by
  cases t with
  | constant n =>
    have hsplit : n.text.splitOn '(' = [n.text] :=
      splitOn_of_notMem (notMem_toDigits (by decide) n.val)
    simp only [spaceless_text_constant, ofText?, hsplit, Number.read?_text]
    rfl
  | dice d faces =>
    have hfaces : '(' ∉ facesText faces ++ [')'] := by
      rw [List.mem_append, List.mem_singleton]
      rintro (h | h)
      · exact absurd (isDigit_or_of_mem_facesText h) (by decide)
      · exact absurd h (by decide)
    have hsplit := splitOn_append_cons (d.notMem_text (c := '(') (by decide)) hfaces
    simp only [spaceless_text_dice, ofText?, hsplit, Dice.ofText?_text, List.dropLast_concat,
      readFaces_facesText]
    rfl

theorem mem_of_mem_spaceless_text {t : TermRoll} {c : Char} (h : c ∈ spaceless t.text) :
    c.isDigit ∨ c ∈ ['d', '(', ',', ')'] := by
  cases t with
  | constant n =>
    rw [spaceless_text_constant] at h
    exact .inl (isDigit_of_mem_toDigits h)
  | dice d faces =>
    rw [spaceless_text_dice, List.mem_append, List.mem_cons, List.mem_append,
      List.mem_singleton] at h
    have hdice := @Dice.isDigit_or_of_mem_text d c
    have hfaces := @isDigit_or_of_mem_facesText faces c
    simp only [List.mem_cons]
    tauto

end TermRoll

namespace Roll

def termsText (terms : List TermRoll) : List Char :=
  ['+'].intercalate (terms.map fun t => spaceless t.text)

theorem mapM_ofText?_splitOn {terms : List TermRoll} (h : terms ≠ []) :
    ((termsText terms).splitOn '+').mapM TermRoll.ofText? = some terms := by
  have hsplit : (termsText terms).splitOn '+' = terms.map fun t => spaceless t.text := by
    apply List.splitOn_intercalate _ _ (by simpa using h)
    intro l hl hplus
    obtain ⟨t, -, rfl⟩ := List.mem_map.mp hl
    exact absurd (TermRoll.mem_of_mem_spaceless_text hplus) (by decide)
  rw [hsplit]
  exact mapM_map_eq_some TermRoll.ofText?_text terms

theorem notMem_termsText (terms : List TermRoll) : '=' ∉ termsText terms := by
  have hne : ∀ c ∈ termsText terms, c ≠ '=' := by
    apply forall_mem_intercalate
    · intro c hc
      rw [List.mem_singleton.mp hc]
      decide
    · rintro l hl c hc rfl
      obtain ⟨t, -, rfl⟩ := List.mem_map.mp hl
      exact absurd (TermRoll.mem_of_mem_spaceless_text hc) (by decide)
  exact fun h => hne '=' h rfl

theorem spaceless_text (r : Roll) :
    spaceless r.text = termsText r.terms.toList ++ '=' :: integerText r.total := by
  have hterms : spaceless ([' ', '+', ' '].intercalate (r.terms.toList.map TermRoll.text)) =
      termsText r.terms.toList := by
    rw [spaceless, filter_intercalate, List.map_map]
    rfl
  have htotal : spaceless (integerText r.total) = integerText r.total := by
    apply spaceless_eq_self
    intro h
    exact absurd (isDigit_or_of_mem_integerText h) (by decide)
  rw [text, spaceless_append, spaceless_append, hterms, htotal, List.append_assoc]
  rfl

theorem ofText?_text (r : Roll) : ofText? r.text = some r := by
  have htotal : '=' ∉ integerText r.total := by
    intro h
    exact absurd (isDigit_or_of_mem_integerText h) (by decide)
  have hsplit := splitOn_append_cons (notMem_termsText r.terms.toList) htotal
  have hterms : ((termsText r.terms.toList).splitOn '+').mapM TermRoll.ofText? =
      some r.terms.toList := mapM_ofText?_splitOn (List.cons_ne_nil _ _)
  simp only [ofText?, spaceless_text, hsplit, hterms, Option.bind_eq_bind, Option.bind_some,
    NonemptyList.ofList?_toList, readInteger_integerText]

theorem text_unambiguous : (∀ r : Roll, ofText? r.text = some r) ∧ Function.Injective text := by
  refine ⟨ofText?_text, ?_⟩
  intro q r h
  have hread := ofText?_text q
  rw [h, ofText?_text] at hread
  exact (Option.some.inj hread).symm

example :
    ofText? "2d6 (3, 5) + 1d4 () + 5 = -13".toList =
      some ⟨⟨.dice ⟨⟨2, by decide, by decide⟩, ⟨6, by decide, by decide⟩⟩ [3, 5],
        [.dice ⟨.one, ⟨4, by decide, by decide⟩⟩ [], .constant 5]⟩, -13⟩ := by
  decide +kernel

end Roll

end Chance
