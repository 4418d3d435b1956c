import Chance.Notation.ParseError
import Mathlib.Data.List.Basic

/-!
Messages of parse errors identify what they report. The position ends at a space, the text at its
closing quote, since no escape begins another, and the reasons are told apart by how they start.
None of this depends on which characters are written by their code points.
-/

namespace Chance

def PrefixFree {α : Type} (f : α → List Char) : Prop :=
  ∀ (x y : α) (u v : List Char), f x ++ u = f y ++ v → x = y ∧ u = v

section

variable {α : Type} {f : α → List Char}

theorem PrefixFree.injective (h : PrefixFree f) : Function.Injective f := by
  intro x y hxy
  exact (h x y [] [] (congrArg (· ++ []) hxy)).1

theorem append_cons_inj {c : α} {s t u v : List α} (hs : c ∉ s) (ht : c ∉ t)
    (h : s ++ c :: u = t ++ c :: v) : s = t ∧ u = v := by
  rcases List.append_eq_append_iff.mp h with ⟨w, rfl, hw⟩ | ⟨w, rfl, hw⟩
  · cases w with
    | nil => exact ⟨(List.append_nil s).symm, (List.cons.inj hw).2⟩
    | cons d w =>
      obtain ⟨rfl, -⟩ := List.cons.inj hw
      exact absurd (List.mem_append_right s List.mem_cons_self) ht
  · cases w with
    | nil => exact ⟨List.append_nil t, (List.cons.inj hw).2.symm⟩
    | cons d w =>
      obtain ⟨rfl, -⟩ := List.cons.inj hw
      exact absurd (List.mem_append_right t List.mem_cons_self) hs

theorem flatMap_append_cons_inj {c : Char} (hf : PrefixFree f) (hc : ∀ x u v, f x ++ u ≠ c :: v)
    {xs ys : List α} {u v : List Char} (h : xs.flatMap f ++ c :: u = ys.flatMap f ++ c :: v) :
    xs = ys ∧ u = v := by
  induction xs generalizing ys with
  | nil =>
    cases ys with
    | nil => exact ⟨rfl, (List.cons.inj h).2⟩
    | cons y ys =>
      rw [List.flatMap_cons, List.append_assoc] at h
      exact absurd h.symm (hc y _ _)
  | cons x xs ih =>
    cases ys with
    | nil =>
      rw [List.flatMap_cons, List.append_assoc] at h
      exact absurd h (hc x _ _)
    | cons y ys =>
      rw [List.flatMap_cons, List.flatMap_cons, List.append_assoc, List.append_assoc] at h
      obtain ⟨rfl, htail⟩ := hf x y _ _ h
      obtain ⟨rfl, rfl⟩ := ih htail
      exact ⟨rfl, rfl⟩

end

section

variable {b : Nat}

theorem digitChar_inj {m n : Nat} (hm : m < 16) (hn : n < 16) (h : m.digitChar = n.digitChar) :
    m = n := by
  have hall : ∀ m < 16, ∀ n < 16, m.digitChar = n.digitChar → m = n := by decide
  exact hall m hm n hn h

theorem exists_digit_of_mem_toDigits (hb : 1 < b) {c : Char} {n : Nat}
    (hc : c ∈ Nat.toDigits b n) : ∃ d < b, c = d.digitChar := by
  induction n using Nat.strongRecOn with
  | ind n ih =>
    rw [Nat.toDigits_eq_if hb] at hc
    split at hc
    · rename_i hn
      exact ⟨n, hn, List.mem_singleton.mp hc⟩
    · rename_i hn
      rcases List.mem_append.mp hc with hc | hc
      · exact ih (n / b) (Nat.div_lt_self (by omega) hb) hc
      · exact ⟨n % b, Nat.mod_lt n (by omega), List.mem_singleton.mp hc⟩

theorem toDigits_injective (hb : 1 < b) (hb' : b ≤ 16) : Function.Injective (Nat.toDigits b) := by
  intro m n h
  induction m using Nat.strongRecOn generalizing n with
  | ind m ih =>
    have hlt : m < b ↔ n < b := by
      rw [← Nat.pow_one b, ← Nat.length_toDigits_le_iff hb Nat.one_pos,
        ← Nat.length_toDigits_le_iff hb Nat.one_pos, h]
    rcases Nat.lt_or_ge m b with hm | hm
    · rw [Nat.toDigits_of_lt_base hm, Nat.toDigits_of_lt_base (hlt.mp hm)] at h
      exact digitChar_inj (by omega) (by omega) (List.cons.inj h).1
    · have hn : b ≤ n := by omega
      rw [Nat.toDigits_of_base_le hb hm, Nat.toDigits_of_base_le hb hn] at h
      obtain ⟨hdiv, hmod⟩ := List.append_inj' h rfl
      have hq : m / b = n / b := ih (m / b) (Nat.div_lt_self (by omega) hb) hdiv
      have hr : m % b = n % b :=
        digitChar_inj (Nat.lt_of_lt_of_le (Nat.mod_lt m (by omega)) hb')
          (Nat.lt_of_lt_of_le (Nat.mod_lt n (by omega)) hb') (List.cons.inj hmod).1
      rw [← Nat.div_add_mod m b, ← Nat.div_add_mod n b, hq, hr]

theorem toDigits_append_cons_inj (hb : 1 < b) (hb' : b ≤ 16) {c : Char}
    (hc : ∀ d < 16, c ≠ d.digitChar) {m n : Nat} {u v : List Char}
    (h : Nat.toDigits b m ++ c :: u = Nat.toDigits b n ++ c :: v) : m = n ∧ u = v := by
  have hnot : ∀ k, c ∉ Nat.toDigits b k := by
    intro k hk
    obtain ⟨d, hd, rfl⟩ := exists_digit_of_mem_toDigits hb hk
    exact hc d (by omega) rfl
  obtain ⟨hdigits, huv⟩ := append_cons_inj (hnot m) (hnot n) h
  exact ⟨toDigits_injective hb hb' hdigits, huv⟩

end

namespace Text

/-- How quoted text shows a character, whatever the set of those that are shown as they are. -/
def escapeWith (legible : Char → Bool) (c : Char) : List Char :=
  match c with
  | '\x00' => ['\\', '0']
  | '\t' => ['\\', 't']
  | '\r' => ['\\', 'r']
  | '\n' => ['\\', 'n']
  | '"' => ['\\', '"']
  | '\\' => ['\\', '\\']
  | _ => if legible c then [c] else codePointEscape c

def quotedWith (legible : Char → Bool) (s : List Char) : List Char :=
  '"' :: s.flatMap (escapeWith legible) ++ ['"']

def named : Char → Char
  | '0' => '\x00'
  | 't' => '\t'
  | 'r' => '\r'
  | 'n' => '\n'
  | c => c

section

variable (legible : Char → Bool)

theorem escapeWith_cases (c : Char) :
    (∃ e, e ≠ 'u' ∧ named e = c ∧ escapeWith legible c = ['\\', e]) ∨
      (c ≠ '\\' ∧ c ≠ '"' ∧ escapeWith legible c = [c]) ∨
      escapeWith legible c = codePointEscape c := by
  unfold escapeWith
  split
  · exact .inl ⟨'0', by decide, rfl, rfl⟩
  · exact .inl ⟨'t', by decide, rfl, rfl⟩
  · exact .inl ⟨'r', by decide, rfl, rfl⟩
  · exact .inl ⟨'n', by decide, rfl, rfl⟩
  · exact .inl ⟨'"', by decide, rfl, rfl⟩
  · exact .inl ⟨'\\', by decide, rfl, rfl⟩
  · rename_i hquote hbackslash
    split
    · exact .inr (.inl ⟨hbackslash, hquote, rfl⟩)
    · exact .inr (.inr rfl)

theorem codePointEscape_append (c : Char) (u : List Char) :
    codePointEscape c ++ u = '\\' :: 'u' :: '\x7b' :: (Nat.toDigits 16 c.toNat ++ '\x7d' :: u) := by
  rw [codePointEscape, List.append_assoc]
  rfl

theorem prefixFree_codePointEscape : PrefixFree codePointEscape := by
  intro c d u v h
  rw [codePointEscape_append, codePointEscape_append] at h
  simp only [List.cons.injEq, true_and] at h
  obtain ⟨hcode, huv⟩ := toDigits_append_cons_inj (by decide) (by decide) (by decide) h
  exact ⟨Char.toNat_inj.mp hcode, huv⟩

theorem prefixFree_escapeWith : PrefixFree (escapeWith legible) := by
  intro c d u v h
  -- Escapes of two forms differ in one of their first two characters.
  rcases escapeWith_cases legible c with ⟨e, he, rfl, hc⟩ | ⟨hc₁, -, hc⟩ | hc
  · rcases escapeWith_cases legible d with ⟨e', -, rfl, hd⟩ | ⟨hd₁, -, hd⟩ | hd
    · grind
    · grind
    · grind [codePointEscape_append]
  · rcases escapeWith_cases legible d with ⟨e', -, rfl, hd⟩ | ⟨-, -, hd⟩ | hd
    · grind
    · grind
    · grind [codePointEscape_append]
  · rcases escapeWith_cases legible d with ⟨e', he', rfl, hd⟩ | ⟨hd₁, -, hd⟩ | hd
    · grind [codePointEscape_append]
    · grind [codePointEscape_append]
    · rw [hc, hd] at h
      exact prefixFree_codePointEscape c d u v h

theorem escapeWith_append_ne_quote (c : Char) (u v : List Char) :
    escapeWith legible c ++ u ≠ '"' :: v := by
  intro h
  rcases escapeWith_cases legible c with ⟨e, he, rfl, hc⟩ | ⟨hc₁, hc₂, hc⟩ | hc
  · rw [hc] at h
    exact absurd (List.cons.inj h).1 (by decide)
  · rw [hc] at h
    exact hc₂ (List.cons.inj h).1
  · rw [hc] at h
    exact absurd (List.cons.inj h).1 (by decide)

theorem prefixFree_quotedWith : PrefixFree (quotedWith legible) := by
  intro s t u v h
  rw [quotedWith, quotedWith, List.append_assoc, List.append_assoc] at h
  exact flatMap_append_cons_inj (prefixFree_escapeWith legible) (escapeWith_append_ne_quote legible)
    (List.cons.inj h).2

end

end Text

namespace TokenKind

theorem two_le_length_text (k : TokenKind) : 2 ≤ k.text.length := by
  cases k <;> decide

theorem text_ne_nil (k : TokenKind) : k.text ≠ [] := by
  cases k <;> decide

theorem eq_of_take_text {k l : TokenKind} (h : k.text.take 2 = l.text.take 2) : k = l := by
  revert h
  cases k <;> cases l <;> decide

theorem prefixFree_text : PrefixFree text := by
  intro k l u v h
  have htake := congrArg (List.take 2) h
  rw [List.take_append_of_le_length k.two_le_length_text,
    List.take_append_of_le_length l.two_le_length_text] at htake
  obtain rfl := eq_of_take_text htake
  exact ⟨rfl, List.append_cancel_left h⟩

end TokenKind

namespace ParseError

def following : List TokenKind → List Char
  | [] => []
  | [l] => " or ".toList ++ l.text
  | ks => ", ".toList ++ enumeration ks

theorem alternatives_cons (k : TokenKind) (ks : List TokenKind) :
    alternatives (k :: ks) = k.text ++ following ks := by
  rcases ks with _ | ⟨l, _ | ⟨m, ks⟩⟩
  · exact (List.append_nil _).symm
  · rw [alternatives, following, List.append_assoc]
  · exact List.append_assoc ..

theorem enumeration_cons_cons (k l : TokenKind) (ks : List TokenKind) :
    enumeration (k :: l :: ks) = k.text ++ (", ".toList ++ enumeration (l :: ks)) :=
  List.append_assoc ..

theorem enumeration_singleton_ne (k l m : TokenKind) (ks : List TokenKind) :
    enumeration [k] ≠ enumeration (l :: m :: ks) := by
  intro h
  have hhead := congrArg List.head? h
  cases l <;> exact absurd (Option.some.inj hhead) (by decide)

theorem enumeration_injective {k l : TokenKind} {ks ls : List TokenKind}
    (h : enumeration (k :: ks) = enumeration (l :: ls)) : k :: ks = l :: ls := by
  induction ks generalizing k l ls with
  | nil =>
    cases ls with
    | nil =>
      have htext : k.text = l.text := List.append_cancel_left h
      rw [TokenKind.prefixFree_text.injective htext]
    | cons m ls => exact absurd h (enumeration_singleton_ne k l m ls)
  | cons m ks ih =>
    cases ls with
    | nil => exact absurd h.symm (enumeration_singleton_ne l k m ks)
    | cons n ls =>
      rw [enumeration_cons_cons, enumeration_cons_cons] at h
      obtain ⟨rfl, htail⟩ := TokenKind.prefixFree_text k l _ _ h
      rw [ih (List.append_cancel_left htail)]

theorem following_injective : Function.Injective following := by
  intro ks ls h
  -- Nothing follows, or a space, or a comma: whether there are none, one or more is seen at once.
  have hhead := congrArg List.head? h
  rcases ks with _ | ⟨k, _ | ⟨m, ks⟩⟩ <;> rcases ls with _ | ⟨l, _ | ⟨n, ls⟩⟩
  case nil.nil => rfl
  case cons.nil.cons.nil =>
    have htext : k.text = l.text := List.append_cancel_left h
    rw [TokenKind.prefixFree_text.injective htext]
  case cons.cons.cons.cons => exact enumeration_injective (List.append_cancel_left h)
  case cons.nil.cons.cons => exact absurd (Option.some.inj hhead) (by decide)
  case cons.cons.cons.nil => exact absurd (Option.some.inj hhead) (by decide)
  all_goals cases hhead

theorem alternatives_cons_ne_nil (k : TokenKind) (ks : List TokenKind) :
    alternatives (k :: ks) ≠ [] := by
  rw [alternatives_cons]
  exact List.append_ne_nil_of_left_ne_nil k.text_ne_nil _

theorem alternatives_injective : Function.Injective alternatives := by
  intro ks ls h
  cases ks with
  | nil =>
    cases ls with
    | nil => rfl
    | cons l ls => exact absurd h.symm (alternatives_cons_ne_nil l ls)
  | cons k ks =>
    cases ls with
    | nil => exact absurd h (alternatives_cons_ne_nil k ks)
    | cons l ls =>
      rw [alternatives_cons, alternatives_cons] at h
      obtain ⟨rfl, hrest⟩ := TokenKind.prefixFree_text k l _ _ h
      rw [following_injective hrest]

namespace Reason

def initial : Reason → Char
  | .unexpectedToken .. => 'u'
  | .unexpectedString _ => 'e'
  | .unexpectedEnd _ => 'u'
  | .zeroDice => 'd'
  | .numberTooLarge => 'n'

theorem head?_text (r : Reason) : r.text.head? = some r.initial := by
  cases r <;> rfl

theorem text_unexpectedToken (found : TokenKind) (expected : List TokenKind) :
    text (.unexpectedToken found expected) =
      "unexpected token: found ".toList ++
        (found.text ++ (", expected ".toList ++ alternatives expected)) := by
  rw [← List.append_assoc, ← List.append_assoc]
  rfl

theorem text_unexpectedToken_ne (found : TokenKind) (expected expected' : List TokenKind) :
    text (.unexpectedToken found expected) ≠ text (.unexpectedEnd expected') := by
  intro h
  have hletter : some 't' = some 'e' := congrArg (·[11]?) h
  exact absurd hletter (by decide)

theorem text_injective : Function.Injective text := by
  intro q r h
  have hinitial : q.initial = r.initial := by
    have hhead := congrArg List.head? h
    rw [head?_text, head?_text] at hhead
    exact Option.some.inj hhead
  cases q with
  | unexpectedToken found expected =>
    cases r with
    | unexpectedToken found' expected' =>
      rw [text_unexpectedToken, text_unexpectedToken] at h
      obtain ⟨rfl, hrest⟩ := TokenKind.prefixFree_text _ _ _ _ (List.append_cancel_left h)
      rw [alternatives_injective (List.append_cancel_left hrest)]
    | unexpectedEnd expected' => exact absurd h (text_unexpectedToken_ne found expected expected')
    | unexpectedString | zeroDice | numberTooLarge => simp [initial] at hinitial
  | unexpectedEnd expected =>
    cases r with
    | unexpectedToken found' expected' =>
      exact absurd h.symm (text_unexpectedToken_ne found' expected' expected)
    | unexpectedEnd expected' =>
      rw [alternatives_injective (List.append_cancel_left h)]
    | unexpectedString | zeroDice | numberTooLarge => simp [initial] at hinitial
  | unexpectedString expected =>
    cases r with
    | unexpectedString expected' =>
      rw [alternatives_injective (List.append_cancel_left h)]
    | unexpectedToken | unexpectedEnd | zeroDice | numberTooLarge => simp [initial] at hinitial
  | zeroDice => cases r <;> first | rfl | simp [initial] at hinitial
  | numberTooLarge => cases r <;> first | rfl | simp [initial] at hinitial

end Reason

def textWith (legible : Char → Bool) (e : ParseError) : List Char :=
  "error at position ".toList ++ Nat.toDigits 10 e.span.start ++ " (".toList ++
    Text.quotedWith legible e.slice ++ "): ".toList ++ e.reason.text

theorem text_eq (e : ParseError) : e.text = e.textWith Text.isLegible := rfl

theorem textWith_append (legible : Char → Bool) (e : ParseError) :
    e.textWith legible = "error at position ".toList ++ (Nat.toDigits 10 e.span.start ++
      ' ' :: '(' :: (Text.quotedWith legible e.slice ++ ("): ".toList ++ e.reason.text))) := by
  unfold textWith
  simp only [List.append_assoc]
  rfl

theorem textWith_eq_iff {legible : Char → Bool} {d e : ParseError} :
    d.textWith legible = e.textWith legible ↔
      d.reason = e.reason ∧ d.span.start = e.span.start ∧ d.slice = e.slice := by
  constructor
  · intro h
    rw [textWith_append, textWith_append] at h
    obtain ⟨hstart, hparenthesis⟩ :=
      toDigits_append_cons_inj (by decide) (by decide) (by decide) (List.append_cancel_left h)
    obtain ⟨hslice, hend⟩ :=
      Text.prefixFree_quotedWith legible _ _ _ _ (List.cons.inj hparenthesis).2
    exact ⟨Reason.text_injective (List.append_cancel_left hend), hstart, hslice⟩
  · rintro ⟨hreason, hstart, hslice⟩
    rw [textWith_append, textWith_append, hreason, hstart, hslice]

theorem message_identifies :
    (∀ d e : ParseError, d.text = e.text ↔
      d.reason = e.reason ∧ d.span.start = e.span.start ∧ d.slice = e.slice) ∧
    (∀ e : ParseError, e.text = e.textWith Text.isLegible) ∧
    ∀ (legible : Char → Bool) (d e : ParseError), d.textWith legible = e.textWith legible ↔
      d.reason = e.reason ∧ d.span.start = e.span.start ∧ d.slice = e.slice :=
  ⟨fun _ _ => textWith_eq_iff, text_eq, fun _ _ _ => textWith_eq_iff⟩

end ParseError

end Chance
