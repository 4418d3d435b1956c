import Chance.Proofs.Notation.Lexing
import Chance.Number

namespace Chance.Number

inductive Refusal
  | empty
  | notDigit
  | tooLarge

def append (n : Number) (c : Char) : Except Refusal Number :=
  if c.isDigit then
    let longer := 10 * n.val + (c.toNat - '0'.toNat)
    if h : longer < 4294967296 then .ok ⟨longer, h⟩ else .error .tooLarge
  else .error .notDigit

def ofText : List Char → Except Refusal Number
  | [] => .error .empty
  | ['+'] => .error .notDigit
  | '+' :: s => s.foldlM append 0
  | s => s.foldlM append 0

theorem le_ofDigitChars (ds : List Char) (n : Nat) : n ≤ Nat.ofDigitChars 10 ds n := by
  induction ds generalizing n with
  | nil => exact Nat.le_refl n
  | cons c ds ih =>
    have h := ih (10 * n + (c.toNat - '0'.toNat))
    rw [Nat.ofDigitChars_cons]
    omega

theorem foldlM_append {ds : List Char} (hds : Digits ds) (n : Number) :
    ds.foldlM append n =
      if h : Nat.ofDigitChars 10 ds n.val < 4294967296 then .ok ⟨_, h⟩ else .error .tooLarge := by
  induction ds generalizing n with
  | nil =>
    simp only [List.foldlM_nil, Nat.ofDigitChars_nil, n.isLt, dif_pos]
    rfl
  | cons c ds ih =>
    obtain ⟨hc, hrest⟩ := List.forall_mem_cons.mp hds
    simp only [List.foldlM_cons, append, hc, if_true, Nat.ofDigitChars_cons]
    -- A number that is too large stays so, whatever digits follow.
    by_cases hsmall : 10 * n.val + (c.toNat - '0'.toNat) < 4294967296
    · rw [dif_pos hsmall]
      exact ih hrest ⟨_, hsmall⟩
    · have hle := le_ofDigitChars ds (10 * n.val + (c.toNat - '0'.toNat))
      rw [dif_neg hsmall, dif_neg (by omega)]
      rfl

theorem ofText_digits {ds : List Char} (hne : ds ≠ []) (hds : Digits ds) :
    ofText ds = match read? ds with
      | some n => .ok n
      | none => .error .tooLarge := by
  have hfold : ofText ds = ds.foldlM append 0 := by
    obtain ⟨c, ds, rfl⟩ := List.exists_cons_of_ne_nil hne
    have hplus : c ≠ '+' := by
      rintro rfl
      exact absurd (hds '+' List.mem_cons_self) (by decide)
    unfold ofText
    split <;> simp_all
  rw [hfold, foldlM_append hds, read?]
  by_cases h : Nat.ofDigitChars 10 ds 0 < 4294967296
  · simp [h]
  · simp [h]

end Chance.Number
