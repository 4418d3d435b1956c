import Chance.Proofs.Notation.NormalForm
import Chance.Proofs.Random.Endings

namespace Chance

namespace Random

variable {σ : Type} [Sampler σ]

theorem dieRoll_state (text : String) (r : Random σ) :
    (r.dieRoll text).state = (r.rollNotation text).state :=
  congrArg Outcome.state (dieRoll_eq text r)

theorem dieRoll_of_parse_eq {a b : String} {e : Expression} (ha : Expression.parse a = .ok e)
    (hb : Expression.parse b = .ok e) (r : Random σ) :
    (r.dieRoll a).answer = (r.dieRoll b).answer ∧ (r.dieRoll a).state = (r.dieRoll b).state := by
  rw [dieRoll_answer, dieRoll_answer, dieRoll_state, dieRoll_state, rollNotation_of_parse ha,
    rollNotation_of_parse hb]
  exact ⟨rfl, rfl⟩

end Random

namespace Expression

theorem display_normalizes :
    (∀ s e, parse s = .ok e → toString e = String.ofList (normalForm s.toList)) ∧
    ∀ a b d e, parse a = .ok d → parse b = .ok e →
      (parse a = parse b ↔ normalForm a.toList = normalForm b.toList) ∧
      (normalForm a.toList = normalForm b.toList → ∀ (σ : Type) [Sampler σ] (r : Random σ),
        (r.dieRoll a).answer = (r.dieRoll b).answer ∧
          (r.dieRoll a).state = (r.dieRoll b).state) := by
  refine ⟨fun s e => toString_of_parse, ?_⟩
  intro a b d e ha hb
  have hiff := parse_eq_iff ha hb
  refine ⟨hiff, ?_⟩
  intro hnormal σ _ r
  have hb' : parse b = .ok d := (hiff.mpr hnormal) ▸ ha
  exact Random.dieRoll_of_parse_eq ha hb' r

theorem display_normalizes_two_spellings :
    let a := "1 +\td06\n"
    let b := "001+01d6"
    let e : Expression := ⟨⟨.constant 1, [.dice ⟨.one, ⟨6, by decide, by decide⟩⟩]⟩⟩
    let r : Random (Script Binary64) := .ofSampler (.ofValues ⟨.half, []⟩)
    (parse a = .ok e ∧ parse b = .ok e ∧ toString e = String.ofList (normalForm a.toList)) ∧
      normalForm a.toList = normalForm b.toList ∧
      (r.dieRoll a).answer = (r.dieRoll b).answer ∧ (r.dieRoll a).state = (r.dieRoll b).state := by
  intro a b e r
  have ha : parse a = .ok e := by decide +kernel
  have hb : parse b = .ok e := by decide +kernel
  obtain ⟨hdisplay, halike⟩ := display_normalizes
  obtain ⟨hiff, hrolled⟩ := halike a b e e ha hb
  have hnormal := hiff.mp (ha.trans hb.symm)
  exact ⟨⟨ha, hb, hdisplay a e ha⟩, hnormal, hrolled hnormal (Script Binary64) r⟩

end Expression

end Chance
