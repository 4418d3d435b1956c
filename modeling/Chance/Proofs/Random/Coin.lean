import Chance.Proofs.Draw.Agreement
import Mathlib

namespace Chance

namespace Binary64

def value? : Binary64 → Option ℚ
  | .finite negative n _ _ => some ((withSign negative n : ℚ) / stepsPerOne)
  | _ => none

theorem cast_stepsPerOne_pos : (0 : ℚ) < stepsPerOne := Nat.cast_pos.mpr stepsPerOne_pos

theorem exists_position?_of_value? {a : Binary64} {x : ℚ} (h : a.value? = some x) :
    ∃ z : Int, a.position? = some z ∧ x = z / stepsPerOne := by
  cases a with
  | nan => cases h
  | infinite negative => cases h
  | finite negative n hs hb => exact ⟨withSign negative n, rfl, (Option.some.inj h).symm⟩

theorem lt_iff_of_value? {a b : Binary64} {x y : ℚ} (ha : a.value? = some x)
    (hb : b.value? = some y) : a.lt b ↔ x < y := by
  obtain ⟨z, hz, rfl⟩ := exists_position?_of_value? ha
  obtain ⟨w, hw, rfl⟩ := exists_position?_of_value? hb
  rw [div_lt_div_iff_of_pos_right cast_stepsPerOne_pos, Int.cast_lt]
  unfold lt
  rw [hz, hw]
  exact decide_eq_true_iff

theorem le_iff_of_value? {a b : Binary64} {x y : ℚ} (ha : a.value? = some x)
    (hb : b.value? = some y) : a.le b ↔ x ≤ y := by
  obtain ⟨z, hz, rfl⟩ := exists_position?_of_value? ha
  obtain ⟨w, hw, rfl⟩ := exists_position?_of_value? hb
  rw [div_le_div_iff_of_pos_right cast_stepsPerOne_pos, Int.cast_le]
  unfold le
  rw [hz, hw]
  exact decide_eq_true_iff

theorem lt_of_lt_of_le {a b c : Binary64} (hab : a.lt b) (hbc : b.le c) : a.lt c := by
  unfold lt at hab ⊢
  unfold le at hbc
  cases ha : a.position? <;> cases hb : b.position? <;> cases hc : c.position? <;>
    simp only [ha, hb, hc, decide_eq_true_eq, Bool.false_eq_true] at hab hbc ⊢
  exact Int.lt_of_lt_of_le hab hbc

theorem cast_twoPow (k : Nat) : (twoPow k : ℚ) = 2 ^ k := by
  change ((2 ^ k : Nat) : ℚ) = 2 ^ k
  exact Nat.cast_pow 2 k

theorem value?_nearest (negative : Bool) {n : Nat} (hs : Short n) (hb : n < overflow) :
    (nearest negative n).value? = some ((withSign negative n : ℚ) / stepsPerOne) := by
  rw [Draw.nearest_of_short hs hb]
  rfl

theorem value?_nearest_zero (negative : Bool) : (nearest negative 0).value? = some 0 := by
  have hb : 0 < overflow := Nat.lt_trans stepsPerOne_pos Draw.stepsPerOne_lt_overflow
  have hsign : withSign negative 0 = 0 := by cases negative <;> rfl
  rw [value?_nearest negative short_zero hb, hsign, Int.cast_zero, zero_div]

theorem value?_grid {k : Nat} (hk : k ≤ twoPow 53) :
    (grid k).value? = some ((k : ℚ) / 2 ^ 53) := by
  have hb := mul_twoPow_lt_overflow hk
  have hpos : (twoPow 1021 : ℚ) ≠ 0 := Nat.cast_ne_zero.mpr (twoPow_pos _).ne'
  have hsign : withSign false (k * twoPow 1021) = (k * twoPow 1021 : Nat) := rfl
  rw [grid, value?_nearest false (short_mul_twoPow hk) hb, hsign, Draw.stepsPerOne_eq,
    Int.cast_natCast, Nat.cast_mul, Nat.cast_mul, mul_div_mul_right _ _ hpos, cast_twoPow 53]

theorem value?_zero : zero.value? = some 0 := by
  rw [zero, value?_grid (Nat.zero_le _), Nat.cast_zero, zero_div]

theorem value?_one : one.value? = some 1 := by
  rw [one, value?_grid (Nat.le_refl _), cast_twoPow 53, div_self (by norm_num)]

def OutOfRange (p : Binary64) : Prop := p = .nan ∨ p.lt .zero ∨ Binary64.one.lt p

theorem outOfRange_iff {p : Binary64} : p.OutOfRange ↔ ¬ (zero.le p ∧ p.le one) := by
  unfold OutOfRange le lt
  rw [position?_zero, position?_one]
  generalize stepsPerOne = n
  cases p with
  | nan => simp [position?]
  | infinite negative =>
    simp only [position?, reduceCtorEq, decide_eq_true_eq, false_or]
    omega
  | finite negative steps hs hb =>
    simp only [position?, reduceCtorEq, decide_eq_true_eq, false_or]
    omega

theorem not_outOfRange_iff {p : Binary64} :
    ¬ p.OutOfRange ↔ ∃ x : ℚ, p.value? = some x ∧ 0 ≤ x ∧ x ≤ 1 := by
  rw [outOfRange_iff, not_not]
  constructor
  · rintro ⟨hzero, hone⟩
    cases p with
    | nan => exact absurd hone (by simp [le, position?])
    | infinite negative =>
      have hlt := Draw.stepsPerOne_lt_overflow
      unfold le at hzero hone
      rw [position?_zero] at hzero
      rw [position?_one] at hone
      simp only [position?, decide_eq_true_eq] at hzero hone
      cases negative with
      | false =>
        have hle : overflow ≤ stepsPerOne := Int.ofNat_le.mp hone
        omega
      | true =>
        have hle : (0 : Int) ≤ -(overflow : Int) := hzero
        omega
    | finite negative steps hs hb =>
      refine ⟨_, rfl, ?_, ?_⟩
      · exact (le_iff_of_value? value?_zero rfl).mp hzero
      · exact (le_iff_of_value? rfl value?_one).mp hone
  · rintro ⟨x, hx, hpos, hle⟩
    exact ⟨(le_iff_of_value? value?_zero hx).mpr hpos, (le_iff_of_value? hx value?_one).mpr hle⟩

theorem not_outOfRange_negative_zero : ¬ (nearest true 0).OutOfRange :=
  not_outOfRange_iff.mpr ⟨0, value?_nearest_zero true, le_refl 0, zero_le_one⟩

theorem grid_lt_iff {p : Binary64} {x : ℚ} (hx : p.value? = some x) {k : Nat}
    (hk : k < twoPow 53) : (grid k).lt p ↔ k < ⌈x * 2 ^ 53⌉₊ := by
  rw [lt_iff_of_value? (value?_grid hk.le) hx, div_lt_iff₀ (by positivity), Nat.lt_ceil]

end Binary64

namespace Random

variable {σ : Type} [Sampler σ]

theorem flip_of_outOfRange {p : Binary64} (h : p.OutOfRange) (r : Random σ) :
    r.flip p = .fail (.probabilityOutOfRange p) r [] := by
  rw [Binary64.outOfRange_iff, ← Bool.and_eq_true] at h
  exact if_neg h

theorem flip_of_not_outOfRange {p : Binary64} (h : ¬ p.OutOfRange) (r : Random σ) :
    r.flip p =
      .ofPair ((Sampler.unit r.sampler).1.lt p, r.withSampler (Sampler.unit r.sampler).2) := by
  rw [Binary64.outOfRange_iff, not_not, ← Bool.and_eq_true] at h
  exact if_pos h

theorem flip_eq_fail_iff {p : Binary64} {r : Random σ} :
    r.flip p = .fail (.probabilityOutOfRange p) r [] ↔ p.OutOfRange := by
  constructor
  · intro hfail
    by_contra h
    rw [flip_of_not_outOfRange h] at hfail
    exact nomatch congrArg Outcome.answer hfail
  · intro h
    exact flip_of_outOfRange h r

theorem exists_flip_eq_iff {p : Binary64} {r : Random σ} :
    (∃ b, r.flip p = .ofPair (b, r.withSampler (Sampler.unit r.sampler).2)) ↔ ¬ p.OutOfRange := by
  constructor
  · rintro ⟨b, hb⟩ h
    rw [flip_of_outOfRange h] at hb
    exact nomatch congrArg Outcome.answer hb
  · intro h
    exact ⟨_, flip_of_not_outOfRange h r⟩

theorem flip_answer_of_grid {p : Binary64} {x : ℚ} (h : ¬ p.OutOfRange) (hx : p.value? = some x)
    {k : Nat} (hk : k < Binary64.twoPow 53) {r : Random σ}
    (hunit : (Sampler.unit r.sampler).1 = .grid k) :
    (r.flip p).answer = .ok (decide (k < ⌈x * 2 ^ 53⌉₊)) := by
  have hlt : (Binary64.grid k).lt p = decide (k < ⌈x * 2 ^ 53⌉₊) := by
    rw [Bool.eq_iff_iff, Binary64.grid_lt_iff hx hk, decide_eq_true_iff]
  rw [flip_of_not_outOfRange h, hunit, hlt]
  rfl

theorem flip_mono {p q : Binary64} (hpq : p.le q) (hq : ¬ q.OutOfRange) {r : Random σ}
    (h : (r.flip p).answer = .ok true) : (r.flip q).answer = .ok true := by
  by_cases hp : p.OutOfRange
  · rw [flip_of_outOfRange hp] at h
    cases h
  · rw [flip_of_not_outOfRange hp] at h
    have hlt : (Sampler.unit r.sampler).1.lt p = true := Except.ok.inj h
    rw [flip_of_not_outOfRange hq]
    exact congrArg Except.ok (Binary64.lt_of_lt_of_le hlt hpq)

/-- The places on the grid of the units on which a coin of probability `p` comes up true, from
whatever source they are drawn. -/
def heads (p : Binary64) : Set Nat :=
  {k | k < Binary64.twoPow 53 ∧ ∀ (τ : Type) [Sampler τ] (r : Random τ),
    (Sampler.unit r.sampler).1 = .grid k → (r.flip p).answer = .ok true}

def drawing (u : Binary64) : Random (Script Binary64) := .ofSampler (.ofValues ⟨u, []⟩)

theorem unit_drawing (u : Binary64) : (Sampler.unit (drawing u).sampler).1 = u :=
  Sampler.unit_ofValues u []

theorem ceil_le_twoPow {x : ℚ} (hx : x ≤ 1) : ⌈x * 2 ^ 53⌉₊ ≤ Binary64.twoPow 53 := by
  rw [Nat.ceil_le, Binary64.cast_twoPow 53]
  exact mul_le_of_le_one_left (by positivity) hx

theorem heads_eq {p : Binary64} {x : ℚ} (h : ¬ p.OutOfRange) (hx : p.value? = some x)
    (hle : x ≤ 1) : heads p = Set.Iio ⌈x * 2 ^ 53⌉₊ := by
  ext k
  constructor
  · rintro ⟨hk, htrue⟩
    have hanswer := htrue (Script Binary64) (drawing (.grid k)) (unit_drawing _)
    rw [flip_answer_of_grid h hx hk (unit_drawing _)] at hanswer
    exact of_decide_eq_true (Except.ok.inj hanswer)
  · intro hlt
    have hk : k < Binary64.twoPow 53 := Nat.lt_of_lt_of_le hlt (ceil_le_twoPow hle)
    refine ⟨hk, ?_⟩
    intro τ _ r hunit
    rw [flip_answer_of_grid h hx hk hunit]
    exact congrArg Except.ok (decide_eq_true hlt)

theorem flips_exact :
    (∀ k ≤ Binary64.twoPow 53, (Binary64.grid k).value? = some ((k : ℚ) / 2 ^ 53)) ∧
    ¬ (Binary64.nearest true 0).OutOfRange ∧
    (∀ (p : Binary64) (τ : Type) [Sampler τ] (r : Random τ),
      (r.flip p = .fail (.probabilityOutOfRange p) r [] ↔ p.OutOfRange) ∧
      ((∃ b, r.flip p = .ofPair (b, r.withSampler (Sampler.unit r.sampler).2)) ↔
        ¬ p.OutOfRange)) ∧
    (∀ p : Binary64, ¬ p.OutOfRange → ∃ x : ℚ, p.value? = some x ∧ 0 ≤ x ∧ x ≤ 1 ∧
      (∀ k < Binary64.twoPow 53, ∀ (τ : Type) [Sampler τ] (r : Random τ),
        (Sampler.unit r.sampler).1 = .grid k →
          (r.flip p).answer = .ok (decide (k < ⌈x * 2 ^ 53⌉₊))) ∧
      (heads p).ncard = ⌈x * 2 ^ 53⌉₊ ∧
      (x = 0 → heads p = ∅) ∧ (x = 1 → heads p = Set.Iio (Binary64.twoPow 53))) ∧
    ∀ p q : Binary64, p.le q → ¬ q.OutOfRange → ∀ (τ : Type) [Sampler τ] (r : Random τ),
      (r.flip p).answer = .ok true → (r.flip q).answer = .ok true := by
  refine ⟨fun _ => Binary64.value?_grid, Binary64.not_outOfRange_negative_zero, ?_, ?_, ?_⟩
  · intro p τ _ r
    exact ⟨flip_eq_fail_iff, exists_flip_eq_iff⟩
  · intro p h
    obtain ⟨x, hx, hpos, hle⟩ := Binary64.not_outOfRange_iff.mp h
    have hheads := heads_eq h hx hle
    refine ⟨x, hx, hpos, hle, ?_, ?_, ?_, ?_⟩
    · intro k hk τ _ r hunit
      exact flip_answer_of_grid h hx hk hunit
    · rw [hheads, ← Finset.coe_Iio, Set.ncard_coe_finset, Nat.card_Iio]
    · rintro rfl
      rw [hheads, zero_mul, Nat.ceil_zero]
      exact Set.Iio_bot
    · rintro rfl
      rw [hheads, one_mul, ← Binary64.cast_twoPow 53, Nat.ceil_natCast]
  · intro p q hpq hq τ _ r h
    exact flip_mono hpq hq h

theorem flips_exact_between_grid_points :
    let p := Binary64.ofBits 0x3fd3333333333333
    let z := Binary64.nearest true 0
    let k := 2702159776422297
    let r (k : Nat) := drawing (.grid k)
    (k ≤ Binary64.twoPow 53 ∧ (Binary64.grid k).value? = some ((k : ℚ) / 2 ^ 53)) ∧
    (¬ p.OutOfRange ∧ (heads p).ncard = k + 1 ∧
      ((Sampler.unit (r k).sampler).1 = .grid k ∧ ((r k).flip p).answer = .ok true) ∧
      ((Sampler.unit (r (k + 1)).sampler).1 = .grid (k + 1) ∧
        ((r (k + 1)).flip p).answer = .ok false)) ∧
    (¬ z.OutOfRange ∧ z.value? = some 0 ∧ heads z = ∅) ∧
    (¬ Binary64.one.OutOfRange ∧ Binary64.one.value? = some 1 ∧
      heads .one = Set.Iio (Binary64.twoPow 53)) ∧
    p.le .half ∧ ¬ Binary64.half.OutOfRange ∧ ((r k).flip .half).answer = .ok true := by
  intro p z k r
  obtain ⟨grid, hz, -, counts, mono⟩ := flips_exact
  have hrange (q : Binary64) (h : Binary64.zero.le q ∧ q.le .one) : ¬ q.OutOfRange := by
    rwa [Binary64.outOfRange_iff, not_not]
  have hp := hrange p (by decide +kernel)
  have hone := hrange .one (by decide +kernel)
  have hhalf := hrange .half (by decide +kernel)
  have hle : p.le .half := by decide +kernel
  have hk : k ≤ Binary64.twoPow 53 := by decide
  have hpvalue : p.value? = some (5404319552844595 / 2 ^ 54) := by
    have hnearest : p = .nearest false (5404319552844595 * Binary64.twoPow 1020) := by
      decide +kernel
    have hsteps : Binary64.stepsPerOne = Binary64.twoPow 54 * Binary64.twoPow 1020 :=
      Binary64.twoPow_add 54 1020
    have hpos : (Binary64.twoPow 1020 : ℚ) ≠ 0 :=
      Nat.cast_ne_zero.mpr (Binary64.twoPow_pos _).ne'
    have hs : Binary64.Short (5404319552844595 * Binary64.twoPow 1020) :=
      Binary64.short_mul_twoPow (by decide +kernel)
    have hsign : Binary64.withSign false (5404319552844595 * Binary64.twoPow 1020) =
        (5404319552844595 * Binary64.twoPow 1020 : Nat) := rfl
    rw [hnearest, Binary64.value?_nearest false hs (by decide +kernel), hsign, hsteps,
      Int.cast_natCast, Nat.cast_mul, Nat.cast_mul, mul_div_mul_right _ _ hpos,
      Binary64.cast_twoPow 54, Nat.cast_ofNat]
  have hceil : ⌈(5404319552844595 / 2 ^ 54 : ℚ) * 2 ^ 53⌉₊ = 2702159776422298 := by
    rw [Nat.ceil_eq_iff (by decide)]
    norm_num
  obtain ⟨x, hx, -, -, hflip, hcard, -⟩ := counts p hp
  obtain rfl := Option.some.inj (hx.symm.trans hpvalue)
  rw [hceil] at hcard hflip
  obtain ⟨y, hy, -, -, -, -, hnever, -⟩ := counts z hz
  have hyvalue : z.value? = some 0 := Binary64.value?_nearest_zero true
  obtain ⟨w, hw, -, -, -, -, -, halways⟩ := counts .one hone
  have htrue := hflip k (by decide) _ (r k) (unit_drawing _)
  have hfalse := hflip (k + 1) (by decide) _ (r (k + 1)) (unit_drawing _)
  refine ⟨⟨hk, grid k hk⟩, ⟨hp, hcard, ⟨unit_drawing _, htrue⟩, unit_drawing _, hfalse⟩,
    ⟨hz, hyvalue, hnever (Option.some.inj (hy.symm.trans hyvalue))⟩,
    ⟨hone, Binary64.value?_one, halways (Option.some.inj (hw.symm.trans Binary64.value?_one))⟩,
    hle, hhalf, mono p .half hle hhalf _ (r k) htrue⟩

end Random

end Chance
