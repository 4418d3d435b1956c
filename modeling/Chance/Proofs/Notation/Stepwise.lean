import Chance.Proofs.Notation.Grammar
import Chance.Proofs.Notation.Partition
import Chance.Proofs.Notation.WordReading
import Mathlib.Data.List.TakeDrop
import Mathlib.Logic.Function.Iterate

/-!
Reading a notation one step at a time. A reader looks at the tokens ahead and remembers the one it
consumed last. Dice have to be split at a `d`, and a reader that finds none is stuck; what it reads
as a number can be any text. After some steps a reader has what parsing gives.
-/

namespace Chance

inductive Role
  | constant
  | count (sides : List Char)
  | sides (count : Number)
deriving DecidableEq

inductive Stage
  | term
  | constant
  | dice
  | number (role : Role) (digits : List Char)
  | separator (last : Term)
  | finished (result : Except ParseError Expression)
  | stuck
deriving DecidableEq

structure Reader where
  stage : Stage
  terms : List Term
  consumed : Option Token
  ahead : List Token
  length : Nat

namespace Reader

def start (s : String) : Reader := ⟨.term, [], none, Token.scan 0 s.toList, byteLength s.toList⟩

def peek (r : Reader) : Option TokenKind := r.ahead.head?.map Token.kind

def next (r : Reader) : Option TokenKind × Reader :=
  match r.ahead with
  | [] => (none, r)
  | t :: ts => (some t.kind, { r with consumed := some t, ahead := ts })

def slice (r : Reader) : List Char := (r.consumed.map Token.lexeme).getD []

def span (r : Reader) : Span := (r.consumed.map Token.span).getD ⟨0, 0⟩

def errorHere (r : Reader) (reason : ParseError.Reason) : ParseError := ⟨reason, r.span, r.slice⟩

def finish (r : Reader) (result : Except ParseError Expression) : Reader :=
  { r with stage := .finished result }

def unexpected (r : Reader) (expected : List TokenKind) : Reader :=
  match r.next with
  | (none, r) => r.finish (.error ⟨.unexpectedEnd expected, ⟨r.length, r.length⟩, []⟩)
  | (some .unknown, r) => r.finish (.error (r.errorHere (.unexpectedString expected)))
  | (some found, r) => r.finish (.error (r.errorHere (.unexpectedToken found expected)))

def consume (r : Reader) (expected : TokenKind) (stage : Stage) : Reader :=
  if r.peek = some expected then { r.next.2 with stage := stage } else r.unexpected [expected]

def number (r : Reader) (digits : List Char) : Except ParseError Number :=
  (Number.ofText digits).mapError fun _ => r.errorHere .numberTooLarge

def take (r : Reader) (n : Number) : Role → Reader
  | .constant => { r with stage := .separator (.constant n) }
  | .count sides => { r with stage := .number (.sides n) sides }
  | .sides count =>
    match Positive.ofNumber? count, Positive.ofNumber? n with
    | some count, some sides => { r with stage := .separator (.dice ⟨count, sides⟩) }
    | _, _ => r.finish (.error (r.errorHere .zeroDice))

def step (r : Reader) : Reader :=
  match r.stage with
  | .term =>
    match r.peek with
    | some .dice => r.consume .dice .dice
    | some .integer => r.consume .integer .constant
    | _ => r.unexpected [.dice, .integer]
  | .constant => { r with stage := .number .constant r.slice }
  | .dice =>
    match r.slice.span (· ≠ 'd') with
    | (_, []) => { r with stage := .stuck }
    | ([], _ :: sides) => { r with stage := .number (.sides Positive.one.toNumber) sides }
    | (count, _ :: sides) => { r with stage := .number (.count sides) count }
  | .number role digits =>
    match r.number digits with
    | .ok n => r.take n role
    | .error e => r.finish (.error e)
  | .separator last =>
    match r.peek with
    | none => r.finish (.ok ⟨r.terms.foldr .cons (.singleton last)⟩)
    | some _ => { r with terms := r.terms ++ [last] }.consume .plus .term
  | .finished _ => r
  | .stuck => r

section

variable {r : Reader} {t : Token} {rest : List Token}

theorem unexpected_nil (h : r.ahead = []) (expected : List TokenKind) :
    r.unexpected expected =
      r.finish (.error ⟨.unexpectedEnd expected, ⟨r.length, r.length⟩, []⟩) := by
  simp only [unexpected, next, h]

theorem unexpected_cons (h : r.ahead = t :: rest) (expected : List TokenKind) :
    r.unexpected expected =
      ⟨.finished (.error (t.unexpected expected)), r.terms, some t, rest, r.length⟩ := by
  simp only [unexpected, next, h]
  cases hk : t.kind <;> simp [Token.unexpected, hk] <;> rfl

theorem consume_cons (h : r.ahead = t :: rest) {k : TokenKind} (hk : t.kind = k) (stage : Stage) :
    r.consume k stage = ⟨stage, r.terms, some t, rest, r.length⟩ := by
  simp [consume, peek, next, h, hk]

theorem slice_of_consumed (h : r.consumed = some t) : r.slice = t.lexeme := by
  simp [slice, h]

theorem errorHere_of_consumed (h : r.consumed = some t) (reason : ParseError.Reason) :
    r.errorHere reason = t.error reason := by
  simp [errorHere, span, slice, h, Token.error]

theorem number_eq (h : r.consumed = some t) {ds : List Char} (hds : Pattern .integer ds) :
    r.number ds = t.number ds := by
  cases hds with
  | integer hds hne =>
    rw [number, Number.ofText_digits hne hds, errorHere_of_consumed h, Token.number]
    cases Number.read? ds <;> rfl

theorem span_ne_d {cs : List Char} (hcs : Digits cs) (ss : List Char) :
    (cs ++ 'd' :: ss).span (· ≠ 'd') = (cs, 'd' :: ss) := by
  rw [List.span_eq_takeWhile_dropWhile, Token.takeWhile_ne_d hcs, Token.dropWhile_ne_d hcs]

theorem step_dice (hs : r.stage = .dice) (h : r.consumed = some t) {cs ss : List Char}
    (hcs : Digits cs) (ht : t.lexeme = cs ++ 'd' :: ss) :
    r.step = if cs = [] then { r with stage := .number (.sides Positive.one.toNumber) ss }
      else { r with stage := .number (.count ss) cs } := by
  simp only [step, hs, slice_of_consumed h, ht, span_ne_d hcs]
  cases cs <;> rfl

theorem step_number {role : Role} {ds : List Char} (hs : r.stage = .number role ds)
    (h : r.consumed = some t) (hds : Pattern .integer ds) :
    r.step = match t.number ds with
      | .ok n => r.take n role
      | .error e => r.finish (.error e) := by
  simp only [step, hs, number_eq h hds]

theorem step_separator {last : Term} {terms : List Term} {consumed : Option Token}
    {length : Nat} :
    step ⟨.separator last, terms, consumed, t :: rest, length⟩ =
      if t.kind = .plus then ⟨.term, terms ++ [last], some t, rest, length⟩
      else ⟨.finished (.error (t.unexpected [.plus])), terms ++ [last], some t, rest, length⟩ := by
  have hstep : step ⟨.separator last, terms, consumed, t :: rest, length⟩ =
      consume ⟨.separator last, terms ++ [last], consumed, t :: rest, length⟩ .plus .term := rfl
  rw [hstep]
  split
  · rename_i hk
    exact consume_cons rfl hk .term
  · rename_i hk
    rw [consume, if_neg (by simpa [peek] using hk)]
    exact unexpected_cons rfl [.plus]

def Reaches (r q : Reader) : Prop := ∃ n, step^[n] r = q

theorem Reaches.refl (r : Reader) : Reaches r r := ⟨0, rfl⟩

theorem Reaches.head {q : Reader} (h : Reaches r.step q) : Reaches r q := by
  obtain ⟨n, hn⟩ := h
  exact ⟨n + 1, hn⟩

theorem Reaches.trans {q p : Reader} (h : Reaches r q) (h' : Reaches q p) : Reaches r p := by
  obtain ⟨m, rfl⟩ := h
  obtain ⟨n, rfl⟩ := h'
  exact ⟨n + m, Function.iterate_add_apply step n m r⟩

def settle (r : Reader) : Except ParseError Term → Reader
  | .ok x => { r with stage := .separator x }
  | .error e => r.finish (.error e)

theorem reaches_constant (hs : r.stage = .number .constant t.lexeme) (h : r.consumed = some t)
    (ht : Pattern .integer t.lexeme) :
    Reaches r (r.settle ((t.number t.lexeme).map .constant)) := by
  apply Reaches.head
  rw [step_number hs h ht]
  cases t.number t.lexeme <;> exact Reaches.refl _

theorem reaches_sides {count : Number} {ss : List Char} (hs : r.stage = .number (.sides count) ss)
    (h : r.consumed = some t) (hss : Pattern .integer ss) :
    Reaches r (r.settle (((t.number ss).bind (t.diceOf count)).map .dice)) := by
  apply Reaches.head
  rw [step_number hs h hss]
  cases t.number ss with
  | error e => exact Reaches.refl _
  | ok n =>
    simp only [take, Except.bind, Token.diceOf, errorHere_of_consumed h]
    cases Positive.ofNumber? count <;> cases Positive.ofNumber? n <;> exact Reaches.refl _

theorem reaches_count {cs ss : List Char} (hs : r.stage = .number (.count ss) cs)
    (h : r.consumed = some t) (hcs : Pattern .integer cs) (hss : Pattern .integer ss) :
    Reaches r (r.settle
      (((t.number cs).bind fun count => (t.number ss).bind (t.diceOf count)).map .dice)) := by
  apply Reaches.head
  rw [step_number hs h hcs]
  cases t.number cs with
  | error e => exact Reaches.refl _
  | ok count =>
    have hsides : ({ r with stage := .number (.sides count) ss } : Reader).consumed = some t := h
    exact reaches_sides rfl hsides hss

theorem reaches_dice (hs : r.stage = .dice) (h : r.consumed = some t) (ht : t.Patterned)
    (hk : t.kind = .dice) : Reaches r (r.settle (t.dice.map .dice)) := by
  obtain ⟨cs, ss, hl, hcs, hss, hne⟩ := ht.dice hk
  apply Reaches.head
  rw [step_dice hs h hcs hl, Token.dice_eq_bind, Token.readCount,
    Token.countDigits_of_lexeme hcs hl, Token.sidesDigits_of_lexeme hcs hl]
  split
  · exact reaches_sides rfl h (.integer hss hne)
  · rename_i hcne
    exact reaches_count rfl h (.integer hcs hcne) (.integer hss hne)

theorem reaches_term (hs : r.stage = .term) (hr : r.ahead = t :: rest) (ht : t.Patterned) :
    Reaches r (settle { r with consumed := some t, ahead := rest } t.term) := by
  have hpeek : r.peek = some t.kind := by simp [peek, hr]
  apply Reaches.head
  cases hk : t.kind with
  | dice =>
    simp only [step, hs, hpeek, hk, consume_cons hr hk, Token.term]
    exact reaches_dice rfl rfl ht hk
  | integer =>
    simp only [step, hs, hpeek, hk, consume_cons hr hk, Token.term]
    apply Reaches.head
    exact reaches_constant rfl rfl (ht.integer hk)
  | plus =>
    simp only [step, hs, hpeek, hk, unexpected_cons hr, Token.term]
    exact Reaches.refl _
  | unknown =>
    simp only [step, hs, hpeek, hk, unexpected_cons hr, Token.term]
    exact Reaches.refl _

end

def preceded (terms : List Term) (e : Expression) : Expression := ⟨terms.foldr .cons e.terms⟩

theorem preceded_append (terms : List Term) (x : Term) (e : Expression) :
    preceded (terms ++ [x]) e = preceded terms ⟨.cons x e.terms⟩ := by
  simp [preceded]

theorem exists_finished {ts : List Token} (hts : ∀ t ∈ ts, t.Patterned) (terms : List Term)
    (consumed : Option Token) (length : Nat) :
    ∃ q, Reaches ⟨.term, terms, consumed, ts, length⟩ q ∧
      q.stage = .finished ((Expression.ofTokens length ts).map (preceded terms)) := by
  -- The reader meets each term with those before it already read, and parsing adds them in front
  -- of the rest; the terms before a place are general in the induction.
  induction ts using Expression.ofTokens.induct generalizing terms consumed with
  | case1 => exact ⟨_, Reaches.head (Reaches.refl _), rfl⟩
  | case2 t =>
    have hterm := reaches_term (r := ⟨.term, terms, consumed, [t], length⟩) rfl rfl
      (hts t List.mem_cons_self)
    rw [Expression.ofTokens_singleton]
    cases hx : t.term with
    | error e =>
      rw [hx] at hterm
      exact ⟨_, hterm, rfl⟩
    | ok x =>
      rw [hx] at hterm
      exact ⟨_, hterm.trans (Reaches.head (Reaches.refl _)), rfl⟩
  | case3 t plus ts ih =>
    obtain ⟨ht, hafter⟩ := List.forall_mem_cons.mp hts
    have hterm := reaches_term (r := ⟨.term, terms, consumed, t :: plus :: ts, length⟩) rfl rfl ht
    rw [Expression.ofTokens_cons_cons]
    cases hx : t.term with
    | error e =>
      rw [hx] at hterm
      exact ⟨_, hterm, rfl⟩
    | ok x =>
      rw [hx] at hterm
      by_cases hk : plus.kind = .plus
      · obtain ⟨q, hq, hend⟩ := ih (List.forall_mem_cons.mp hafter).2 (terms ++ [x]) (some plus)
        refine ⟨q, hterm.trans (Reaches.head ?_), ?_⟩
        · rw [settle, step_separator, if_pos hk]
          exact hq
        · simp only [hend, Except.bind, if_pos hk]
          cases Expression.ofTokens length ts with
          | error e => rfl
          | ok e => exact congrArg (fun d => Stage.finished (.ok d)) (preceded_append terms x e)
      · refine ⟨_, hterm.trans (Reaches.head (Reaches.refl _)), ?_⟩
        rw [settle, step_separator, if_neg hk]
        simp only [Except.bind, if_neg hk, Except.map]

end Reader

end Chance
