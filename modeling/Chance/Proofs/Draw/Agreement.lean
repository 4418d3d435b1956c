import Chance.Proofs.Draw.Uniformity
import Chance.Proofs.Roll.UnitStream
import Chance.Random

namespace Chance

namespace Binary64

def Fractional (u : Binary64) : Prop := zero.le u ∧ u.lt one

instance (u : Binary64) : Decidable u.Fractional := inferInstanceAs (Decidable (_ ∧ _))

theorem mul_twoPow_lt_overflow {k : Nat} (hk : k ≤ twoPow 53) : k * twoPow 1021 < overflow := by
  have hle : k * twoPow 1021 ≤ stepsPerOne := by
    rw [Draw.stepsPerOne_eq]
    exact Nat.mul_le_mul_right _ hk
  exact Nat.lt_of_le_of_lt hle Draw.stepsPerOne_lt_overflow

theorem position?_grid {k : Nat} (hk : k ≤ twoPow 53) :
    (grid k).position? = some ((k * twoPow 1021 : Nat) : Int) := by
  rw [grid, Draw.nearest_of_short (short_mul_twoPow hk) (mul_twoPow_lt_overflow hk)]
  rfl

theorem position?_zero : zero.position? = some 0 := by
  rw [zero, position?_grid (Nat.zero_le _), Nat.zero_mul]
  rfl

theorem position?_one : one.position? = some (stepsPerOne : Int) := by
  rw [one, position?_grid (Nat.le_refl _), ← Draw.stepsPerOne_eq]

theorem fractional_iff {u : Binary64} :
    u.Fractional ↔ ∃ p, u.position? = some p ∧ 0 ≤ p ∧ p < stepsPerOne := by
  unfold Fractional le lt
  rw [position?_zero, position?_one]
  generalize stepsPerOne = n
  cases u.position? <;> simp

theorem scale_negative_zero (hs : Short 0) (hb : 0 < overflow) (n : Nat) (lo hi : Int) :
    ((finite true 0 hs hb).scale n).floorWithin lo hi =
      ((finite false 0 hs hb).scale n).floorWithin lo hi := by
  rw [scale, scale, Nat.zero_mul, Draw.nearest_of_short hs hb, Draw.nearest_of_short hs hb]
  rfl

theorem Fractional.exists_steps {u : Binary64} (h : u.Fractional) :
    ∃ steps hs hb, steps < stepsPerOne ∧ u.position? = some (steps : Int) ∧
      ∀ n lo hi, (u.scale n).floorWithin lo hi =
        ((Binary64.finite false steps hs hb).scale n).floorWithin lo hi := by
  obtain ⟨p, hp, hpos, hlt⟩ := fractional_iff.mp h
  cases u with
  | nan => cases hp
  | infinite negative =>
    obtain rfl := Option.some.inj hp
    have hone := Draw.stepsPerOne_lt_overflow
    cases negative with
    | false =>
      have hlt' : overflow < stepsPerOne := Int.ofNat_lt.mp hlt
      omega
    | true =>
      have hle : (0 : Int) ≤ -(overflow : Int) := hpos
      omega
  | finite negative steps hs hb =>
    obtain rfl := Option.some.inj hp
    cases negative with
    | false => exact ⟨steps, hs, hb, Int.ofNat_lt.mp hlt, rfl, fun n lo hi => rfl⟩
    | true =>
      have hle : (0 : Int) ≤ -(steps : Int) := hpos
      obtain rfl : steps = 0 := by omega
      exact ⟨0, hs, hb, stepsPerOne_pos, rfl, scale_negative_zero hs hb⟩

end Binary64

namespace Draw

open Binary64

structure Tells (u : Binary64) (steps : Nat) : Prop where
  face : ∀ sides : Positive, faceOf sides u = part sides.value steps + 1
  integer : ∀ {a b : Int}, -2147483648 ≤ a ∧ a < 2147483648 → -2147483648 ≤ b ∧ b < 2147483648 →
    integerOf a b u = min a b + part ((a - b).natAbs + 1) steps
  index : ∀ {upper : Nat}, upper < 4294967296 → indexOf upper u = part (upper + 1) steps

theorem exists_tells {u : Binary64} (h : u.Fractional) :
    ∃ steps : Nat, u.position? = some (steps : Int) ∧ Tells u steps := by
  obtain ⟨steps, hs, hb, hlt, hposition, hfloor⟩ := h.exists_steps
  refine ⟨steps, hposition, ?_, ?_, ?_⟩
  · intro sides
    rw [← faceOf_eq hs hb hlt]
    simp only [faceOf, hfloor]
  · intro a b ha hb'
    rw [← integerOf_eq hs hb hlt ha hb']
    simp only [integerOf, hfloor]
  · intro upper hupper
    rw [← indexOf_eq hs hb hlt hupper]
    simp only [indexOf, hfloor]

theorem ofInt?_value (n : Positive) : Positive.ofInt? n.value = some n := by
  have hn : 0 < (n.value : Int) ∧ (n.value : Int) < 4294967296 := by
    have hpos := n.pos
    have hsmall := n.small
    omega
  exact dif_pos hn

theorem die_eq {σ : Type} [Sampler σ] (n : Positive) (r : Random σ) :
    r.die n.value = .ofPair (r.drawWith fun u => (faceOf n u : Int)) := by
  rw [Random.die, ofInt?_value]

theorem Tells.face_eq_integer {u : Binary64} {steps : Nat} (h : Tells u steps) {n : Positive}
    (hn : n.value < 2147483648) : (faceOf n u : Int) = integerOf 1 n.value u := by
  have hpos := n.pos
  have hwidth : ((1 : Int) - n.value).natAbs + 1 = n.value := by omega
  rw [h.face, h.integer (by omega) (by omega), hwidth]
  omega

theorem Tells.face_eq_index {u : Binary64} {steps : Nat} (h : Tells u steps) (n : Positive) :
    faceOf n u = indexOf (n.value - 1) u + 1 := by
  have hsmall := n.small
  rw [h.face, h.index (by omega), Nat.sub_add_cancel n.pos]

theorem toInt_bounds (c : Int32) : -2147483648 ≤ c.toInt ∧ c.toInt < 2147483648 :=
  ⟨c.le_toInt, c.toInt_lt⟩

theorem Tells.integer_eq_face {u : Binary64} {steps : Nat} (h : Tells u steps) {a b : Int32}
    {m : Positive} (hm : (m.value : Int) = b.toInt - a.toInt + 1) :
    integerOf a.toInt b.toInt u = a.toInt + (faceOf m u - 1) := by
  have hpos := m.pos
  have hwidth : (a.toInt - b.toInt).natAbs + 1 = m.value := by omega
  rw [h.face, h.integer (toInt_bounds a) (toInt_bounds b), hwidth]
  omega

theorem draws_agree {u : Binary64} (hu : u.Fractional) :
    (∀ n : Positive, n.value < 2147483648 → (faceOf n u : Int) = integerOf 1 n.value u ∧
      ∀ (σ : Type) [Sampler σ] (r : Random σ), (Sampler.unit r.sampler).1 = u →
        r.die n.value = .ofPair (r.between 1 n.value) ∧
          (r.die n.value).answer = .ok (faceOf n u : Int)) ∧
    (∀ n : Positive, faceOf n u = indexOf (n.value - 1) u + 1) ∧
    ∀ (a b : Int32) (m : Positive), (m.value : Int) = b.toInt - a.toInt + 1 →
      integerOf a.toInt b.toInt u = a.toInt + (faceOf m u - 1) := by
  obtain ⟨steps, -, htells⟩ := exists_tells hu
  refine ⟨?_, htells.face_eq_index, fun a b m hm => htells.integer_eq_face hm⟩
  intro n hn
  have heq := htells.face_eq_integer hn
  refine ⟨heq, ?_⟩
  rintro σ _ r rfl
  refine ⟨?_, ?_⟩
  · rw [die_eq, Random.between, Random.drawWith, Random.drawWith, Prod.map, Prod.map, heq]
  · rw [die_eq]
    rfl

theorem draws_agree_on_a_rounded_product :
    let u := grid ((twoPow 54 - 1) / 3)
    let n : Positive := ⟨3, by decide, by decide⟩
    let r : Random (Script Binary64) := .ofSampler (.ofValues ⟨u, []⟩)
    u.Fractional ∧ ((faceOf n u : Int) = integerOf 1 3 u ∧ r.die 3 = .ofPair (r.between 1 3) ∧
      (r.die 3).answer = .ok (faceOf n u : Int)) ∧ faceOf n u = indexOf 2 u + 1 ∧
      integerOf (-1) 1 u = -1 + (faceOf n u - 1) := by
  intro u n r
  have hu : u.Fractional := by decide +kernel
  obtain ⟨hinteger, hindex, hface⟩ := draws_agree hu
  obtain ⟨heq, hdie⟩ := hinteger n (by decide)
  have hunit : (Sampler.unit r.sampler).1 = u := Sampler.unit_ofValues u []
  exact ⟨hu, ⟨heq, hdie (Script Binary64) r hunit⟩, hindex n, hface (-1) 1 n (by decide)⟩

end Draw

end Chance
