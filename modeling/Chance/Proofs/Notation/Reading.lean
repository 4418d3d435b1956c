import Chance.Notation.Parser
import Mathlib.Tactic.ByContra

namespace Chance

namespace Token

def count (t : Token) : Nat :=
  if t.countDigits = [] then 1 else Nat.ofDigitChars 10 t.countDigits 0

def sides (t : Token) : Nat := Nat.ofDigitChars 10 t.sidesDigits 0

def numbers (t : Token) : List Nat :=
  match t.kind with
  | .dice => [t.count, t.sides]
  | .integer => [Nat.ofDigitChars 10 t.lexeme 0]
  | _ => []

def Oversized (t : Token) : Prop := ∃ n ∈ t.numbers, 4294967295 < n

def Void (t : Token) : Prop := t.kind = .dice ∧ 0 ∈ t.numbers

def Holds (t : Token) : Term → Prop
  | .dice d => t.kind = .dice ∧ t.numbers = [d.count.value, d.sides.value]
  | .constant n => t.kind = .integer ∧ t.numbers = [n.val]

instance (t : Token) : Decidable t.Oversized := inferInstanceAs (Decidable (∃ n ∈ t.numbers, _))

instance (t : Token) : Decidable t.Void := inferInstanceAs (Decidable (_ ∧ _))

theorem numbers_of_dice {t : Token} (h : t.kind = .dice) : t.numbers = [t.count, t.sides] := by
  simp only [numbers, h]

theorem numbers_of_integer {t : Token} (h : t.kind = .integer) :
    t.numbers = [Nat.ofDigitChars 10 t.lexeme 0] := by
  simp only [numbers, h]

theorem number_eq_ok (t : Token) {ds : List Char} {n : Number}
    (h : Nat.ofDigitChars 10 ds 0 = n.val) : t.number ds = .ok n := by
  have hread : Number.read? ds = some n := by
    rw [Number.read?, dif_pos (h ▸ n.isLt)]
    exact congrArg some (Fin.ext h)
  rw [number, hread]

theorem number_eq_error (t : Token) {ds : List Char} (h : 4294967295 < Nat.ofDigitChars 10 ds 0) :
    t.number ds = .error (t.error .numberTooLarge) := by
  have hread : Number.read? ds = none := dif_neg (Nat.not_lt.mpr h)
  rw [number, hread]

def readCount (t : Token) : Except ParseError Number :=
  if t.countDigits = [] then .ok Positive.one.toNumber else t.number t.countDigits

theorem readCount_eq_ok (t : Token) {n : Number} (h : t.count = n.val) : t.readCount = .ok n := by
  by_cases hd : t.countDigits = []
  · rw [count, if_pos hd] at h
    rw [readCount, if_pos hd]
    exact congrArg Except.ok (Fin.ext h)
  · rw [count, if_neg hd] at h
    rw [readCount, if_neg hd, number_eq_ok t h]

theorem readCount_eq_error (t : Token) (h : 4294967295 < t.count) :
    t.readCount = .error (t.error .numberTooLarge) := by
  by_cases hd : t.countDigits = []
  · rw [count, if_pos hd] at h
    exact absurd h (by decide)
  · rw [count, if_neg hd] at h
    rw [readCount, if_neg hd, number_eq_error t h]

def diceOf (t : Token) (count sides : Number) : Except ParseError Dice :=
  match Positive.ofNumber? count, Positive.ofNumber? sides with
  | some count, some sides => .ok ⟨count, sides⟩
  | _, _ => .error (t.error .zeroDice)

theorem dice_eq_bind (t : Token) :
    t.dice = t.readCount.bind fun count => (t.number t.sidesDigits).bind (t.diceOf count) := by
  unfold dice readCount
  split <;> rfl

theorem dice_of_numbers {t : Token} {count sides : Number} (hc : t.count = count.val)
    (hs : t.sides = sides.val) : t.dice = t.diceOf count sides := by
  rw [dice_eq_bind, readCount_eq_ok t hc, number_eq_ok t hs]
  rfl

theorem dice_eq_ok {t : Token} {d : Dice} (hc : t.count = d.count.value)
    (hs : t.sides = d.sides.value) : t.dice = .ok d := by
  have h : t.dice = t.diceOf d.count.toNumber d.sides.toNumber := dice_of_numbers hc hs
  rw [h, diceOf, Positive.ofNumber?_toNumber, Positive.ofNumber?_toNumber]

theorem dice_of_oversized {t : Token} (h : 4294967295 < t.count ∨ 4294967295 < t.sides) :
    t.dice = .error (t.error .numberTooLarge) := by
  rw [dice_eq_bind]
  by_cases hc : 4294967295 < t.count
  · rw [readCount_eq_error t hc]
    rfl
  · have hs : 4294967295 < Nat.ofDigitChars 10 t.sidesDigits 0 := h.resolve_left hc
    rw [readCount_eq_ok t (n := ⟨t.count, by omega⟩) rfl, number_eq_error t hs]
    rfl

theorem dice_of_void {t : Token} (hc : t.count ≤ 4294967295) (hs : t.sides ≤ 4294967295)
    (h : t.count = 0 ∨ t.sides = 0) : t.dice = .error (t.error .zeroDice) := by
  have hn : t.dice = t.diceOf ⟨t.count, by omega⟩ ⟨t.sides, by omega⟩ := dice_of_numbers rfl rfl
  rw [hn, diceOf]
  rcases h with h | h
  · simp [Positive.ofNumber?, h]
  · simp only [Positive.ofNumber?, h]
    split <;> simp_all

theorem term_of_holds {t : Token} {x : Term} (h : t.Holds x) : t.term = .ok x := by
  cases x with
  | dice d =>
    obtain ⟨hk, hn⟩ := h
    rw [numbers_of_dice hk] at hn
    simp only [List.cons.injEq] at hn
    rw [term, hk]
    exact congrArg (Except.map Term.dice) (dice_eq_ok hn.1 hn.2.1)
  | constant n =>
    obtain ⟨hk, hn⟩ := h
    rw [numbers_of_integer hk] at hn
    simp only [List.cons.injEq] at hn
    rw [term, hk]
    exact congrArg (Except.map Term.constant) (number_eq_ok t hn.1)

theorem term_of_oversized {t : Token} (h : t.Oversized) :
    t.term = .error (t.error .numberTooLarge) := by
  obtain ⟨n, hn, hlt⟩ := h
  cases hk : t.kind with
  | dice =>
    have hlarge : 4294967295 < t.count ∨ 4294967295 < t.sides := by
      simp only [numbers_of_dice hk, List.mem_cons, List.not_mem_nil, or_false] at hn
      rcases hn with rfl | rfl
      · exact .inl hlt
      · exact .inr hlt
    rw [term, hk]
    exact congrArg (Except.map Term.dice) (dice_of_oversized hlarge)
  | integer =>
    simp only [numbers_of_integer hk, List.mem_singleton] at hn
    rw [term, hk]
    exact congrArg (Except.map Term.constant) (number_eq_error t (hn ▸ hlt))
  | plus => simp [numbers, hk] at hn
  | unknown => simp [numbers, hk] at hn

theorem term_of_void {t : Token} (hsize : ¬ t.Oversized) (h : t.Void) :
    t.term = .error (t.error .zeroDice) := by
  obtain ⟨hk, hn⟩ := h
  have bound {n : Nat} (hm : n ∈ t.numbers) : n ≤ 4294967295 := by
    apply Nat.not_lt.mp
    intro hlt
    exact hsize ⟨n, hm, hlt⟩
  rw [numbers_of_dice hk] at hn bound
  have hzero : t.count = 0 ∨ t.sides = 0 := by
    simpa [eq_comm] using hn
  rw [term, hk]
  exact congrArg (Except.map Term.dice)
    (dice_of_void (bound (by simp)) (bound (by simp)) hzero)

theorem exists_holds {t : Token} (hk : t.kind = .dice ∨ t.kind = .integer)
    (hsize : ¬ t.Oversized) (hvoid : ¬ t.Void) : ∃ x, t.Holds x := by
  have bound {n : Nat} (hm : n ∈ t.numbers) : n < 4294967296 := by
    by_contra hge
    exact hsize ⟨n, hm, by omega⟩
  rcases hk with hk | hk
  · have pos {n : Nat} (hm : n ∈ t.numbers) : 0 < n := by
      apply Nat.pos_of_ne_zero
      rintro rfl
      exact hvoid ⟨hk, hm⟩
    rw [numbers_of_dice hk] at bound pos
    let count : Positive := ⟨t.count, pos (by simp), bound (by simp)⟩
    let sides : Positive := ⟨t.sides, pos (by simp), bound (by simp)⟩
    exact ⟨.dice ⟨count, sides⟩, hk, numbers_of_dice hk⟩
  · rw [numbers_of_integer hk] at bound
    exact ⟨.constant ⟨_, bound List.mem_cons_self⟩, hk, numbers_of_integer hk⟩

theorem term_of_kind {t : Token} (hd : t.kind ≠ .dice) (hi : t.kind ≠ .integer) :
    t.term = .error (t.unexpected [.dice, .integer]) := by
  cases hk : t.kind <;> simp_all [term]

theorem holds_of_term {t : Token} {x : Term} (h : t.term = .ok x) : t.Holds x := by
  have hsize : ¬ t.Oversized := by
    intro hsize
    simp [term_of_oversized hsize] at h
  have hvoid : ¬ t.Void := by
    intro hvoid
    simp [term_of_void hsize hvoid] at h
  have hk : t.kind = .dice ∨ t.kind = .integer := by
    by_contra hk
    obtain ⟨hd, hi⟩ := not_or.mp hk
    simp [term_of_kind hd hi] at h
  obtain ⟨y, hy⟩ := exists_holds hk hsize hvoid
  rw [term_of_holds hy] at h
  exact Except.ok.inj h ▸ hy

end Token

namespace Expression

variable {length : Nat}

theorem ofTokens_singleton (t : Token) :
    ofTokens length [t] = t.term.bind fun x => .ok ⟨.singleton x⟩ := rfl

theorem ofTokens_cons_cons (t plus : Token) (ts : List Token) :
    ofTokens length (t :: plus :: ts) = t.term.bind fun x =>
      if plus.kind = .plus then (ofTokens length ts).bind fun e => .ok ⟨.cons x e.terms⟩
      else .error (plus.unexpected [.plus]) := rfl

theorem bind_eq_ok {α β : Type} {x : Except ParseError α} {f : α → Except ParseError β} {b : β} :
    x.bind f = .ok b ↔ ∃ a, x = .ok a ∧ f a = .ok b := by
  cases x <;> simp [Except.bind]

theorem ofTokens_singleton_eq_ok {t : Token} {e : Expression} :
    ofTokens length [t] = .ok e ↔ ∃ x, t.Holds x ∧ e = ⟨.singleton x⟩ := by
  rw [ofTokens_singleton, bind_eq_ok]
  constructor
  · rintro ⟨x, hx, he⟩
    exact ⟨x, Token.holds_of_term hx, (Except.ok.inj he).symm⟩
  · rintro ⟨x, hx, rfl⟩
    exact ⟨x, Token.term_of_holds hx, rfl⟩

theorem ofTokens_cons_cons_eq_ok {t plus : Token} {ts : List Token} {e : Expression} :
    ofTokens length (t :: plus :: ts) = .ok e ↔
      ∃ x d, t.Holds x ∧ plus.kind = .plus ∧ ofTokens length ts = .ok d ∧
        e = ⟨.cons x d.terms⟩ := by
  rw [ofTokens_cons_cons, bind_eq_ok]
  constructor
  · rintro ⟨x, hx, he⟩
    split at he
    · rename_i hplus
      obtain ⟨d, hd, he⟩ := bind_eq_ok.mp he
      exact ⟨x, d, Token.holds_of_term hx, hplus, hd, (Except.ok.inj he).symm⟩
    · cases he
  · rintro ⟨x, d, hx, hplus, hd, rfl⟩
    refine ⟨x, Token.term_of_holds hx, ?_⟩
    rw [if_pos hplus, hd]
    rfl

end Expression

end Chance
