import Chance.Draw
import Chance.Proofs.Binary64.Rounding

namespace Chance

open Binary64

namespace Draw

def part (n steps : Nat) : Nat := min (round53 (steps * n) / stepsPerOne) (n - 1)

theorem part_lt {n : Nat} (hn : 0 < n) (steps : Nat) : part n steps < n := by
  rw [part]
  omega

theorem part_mono (n : Nat) {j k : Nat} (h : j ≤ k) : part n j ≤ part n k := by
  have hround := round53_mono (Nat.mul_le_mul_right n h)
  have hdiv := Nat.div_le_div_right (c := stepsPerOne) hround
  simp only [part]
  omega

end Draw

namespace Binary64

theorem stepsPerOne_pos : 0 < stepsPerOne := twoPow_pos _

theorem overflow_eq : overflow = twoPow 1024 * stepsPerOne := by
  rw [stepsPerOne, ← twoPow_add]
  rfl

theorem floorWithin_nearest {x : Nat} (h : round53 x < overflow) (lo hi : Int) :
    (nearest false x).floorWithin lo hi = max lo (min hi (round53 x / stepsPerOne : Nat)) := by
  have hdiv : Int.fdiv (round53 x) stepsPerOne = (round53 x / stepsPerOne : Nat) :=
    (Int.ofNat_fdiv _ _).symm
  rw [nearest, dif_pos h]
  simp only [floorWithin, withSign, Bool.false_eq_true, if_false, hdiv]

theorem round53_mul_le {n steps : Nat} (hn : n ≤ 4294967296) (hsteps : steps < stepsPerOne) :
    round53 (steps * n) ≤ stepsPerOne * n := by
  apply round53_le
  · rw [Nat.mul_comm]
    apply short_mul_twoPow
    exact Nat.le_trans hn (by decide)
  · exact Nat.mul_le_mul_right n hsteps.le

theorem round53_mul_div_le {n steps : Nat} (hn : n ≤ 4294967296) (hsteps : steps < stepsPerOne) :
    round53 (steps * n) / stepsPerOne ≤ n :=
  Nat.div_le_of_le_mul (round53_mul_le hn hsteps)

theorem round53_mul_lt_overflow {n steps : Nat} (hn : n ≤ 4294967296)
    (hsteps : steps < stepsPerOne) : round53 (steps * n) < overflow := by
  apply Nat.lt_of_le_of_lt (round53_mul_le hn hsteps)
  rw [overflow_eq, Nat.mul_comm]
  apply Nat.mul_lt_mul_of_pos_right _ stepsPerOne_pos
  apply Nat.lt_of_le_of_lt hn
  have hpow : twoPow 32 = 4294967296 := rfl
  rw [← hpow]
  exact twoPow_lt_twoPow (by decide)

theorem floorWithin_scale {n steps : Nat} (hs : Short steps) (hb : steps < overflow)
    (hn : n ≤ 4294967296) (hsteps : steps < stepsPerOne) {lo hi : Int} (hlo : lo ≤ 0)
    (hhi : n ≤ hi) : ((Binary64.finite false steps hs hb).scale n).floorWithin lo hi =
      (round53 (steps * n) / stepsPerOne : Nat) := by
  have hdiv := round53_mul_div_le hn hsteps
  rw [scale, floorWithin_nearest (round53_mul_lt_overflow hn hsteps)]
  generalize round53 (steps * n) / stepsPerOne = q at hdiv ⊢
  omega

end Binary64

namespace Draw

variable {steps : Nat} (hs : Short steps) (hb : steps < overflow) (hsteps : steps < stepsPerOne)

include hsteps

theorem faceOf_eq (sides : Positive) :
    faceOf sides (.finite false steps hs hb) = part sides.value steps + 1 := by
  have hsmall := sides.small
  rw [faceOf, floorWithin_scale hs hb (by omega) hsteps (by omega) (by omega), Int.toNat_natCast,
    part]

theorem integerOf_eq {a b : Int} (ha : -2147483648 ≤ a ∧ a < 2147483648)
    (hb' : -2147483648 ≤ b ∧ b < 2147483648) :
    integerOf a b (.finite false steps hs hb) = min a b + part ((a - b).natAbs + 1) steps := by
  have hwidth : (max a b - min a b + 1).toNat = (a - b).natAbs + 1 := by omega
  have hdiv := round53_mul_div_le (show (a - b).natAbs + 1 ≤ 4294967296 by omega) hsteps
  simp only [integerOf, hwidth, part]
  rw [floorWithin_scale hs hb (by omega) hsteps (by omega) (by omega)]
  generalize round53 (steps * ((a - b).natAbs + 1)) / stepsPerOne = q at hdiv ⊢
  have hsum : (min a b + (q : Int)).bmod 18446744073709551616 = min a b + q :=
    Int.bmod_eq_of_le (by omega) (by omega)
  rw [hsum, Int.bmod_eq_of_le (by omega) (by omega)]
  omega

theorem indexOf_eq {upper : Nat} (hu : upper < 4294967296) :
    indexOf upper (.finite false steps hs hb) = part (upper + 1) steps := by
  have hpow : twoPow 53 = 9007199254740992 := rfl
  have hupper : round53 upper = upper := round53_of_short (short_of_le (by omega))
  have hwidth : round53 (upper + 1) = upper + 1 := round53_of_short (short_of_le (by omega))
  simp only [indexOf, hupper, hwidth]
  rw [floorWithin_scale hs hb (by omega) hsteps (by omega) (by omega), Int.toNat_natCast, part,
    Nat.add_sub_cancel]

end Draw

end Chance
