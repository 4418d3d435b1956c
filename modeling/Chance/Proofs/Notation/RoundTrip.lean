import Chance.Proofs.Notation.Grammar

namespace Chance

theorem numeral_toDigits (n : Nat) : Numeral (Nat.toDigits 10 n) n where
  ne_nil := Nat.toDigits_ne_nil
  digits _ hc := Nat.isDigit_of_mem_toDigits (by decide) (by decide) hc
  value := Nat.ofDigitChars_ten_toDigits

theorem spells_text (t : Term) : Spells t.text t := by
  cases t with
  | dice d => exact .dice (numeral_toDigits _) (numeral_toDigits _)
  | constant n => exact .constant (numeral_toDigits _)

theorem summand_text (t : Term) : Summand t.text t :=
  ⟨[], t.text, [], blank_nil, spells_text t, blank_nil, by simp⟩

theorem written_text (e : Expression) : Written e.text e.terms.toList := by
  refine ⟨e.terms.toList.map Term.text, by simp [NonemptyList.toList], rfl, ?_⟩
  rw [List.forall₂_map_left_iff, List.forall₂_same]
  intro t _
  exact summand_text t

namespace Expression

theorem toList_toString (e : Expression) : (toString e).toList = e.text := String.toList_ofList

theorem parse_toString_eq (e : Expression) : parse (toString e) = .ok e :=
  parse_of_written (toList_toString e ▸ written_text e)

theorem toString_injective {d e : Expression} (h : toString d = toString e) : d = e := by
  have hparse := parse_toString_eq d
  rw [h, parse_toString_eq] at hparse
  exact (Except.ok.inj hparse).symm

theorem reads_back (e : Expression) :
    parse (toString e) = .ok e ∧ ofString (toString e) = .ok e ∧
      ∀ d : Expression, toString d = toString e → d = e := by
  refine ⟨parse_toString_eq e, parse_toString_eq e, ?_⟩
  intro d h
  exact toString_injective h

end Expression

end Chance
