namespace Chance.Binary64

def twoPow (k : Nat) : Nat := Nat.pow 2 k

theorem twoPow_add (j k : Nat) : twoPow (j + k) = twoPow j * twoPow k := Nat.pow_add 2 j k

theorem twoPow_pos (k : Nat) : 0 < twoPow k := Nat.two_pow_pos k

theorem twoPow_dvd_twoPow {j k : Nat} (h : j ≤ k) : twoPow j ∣ twoPow k := Nat.pow_dvd_pow 2 h

def excess (n : Nat) : Nat := n.log2 - 52

def Short (n : Nat) : Prop := twoPow (excess n) ∣ n

def divNearest (n d : Nat) : Nat :=
  if d < 2 * (n % d) ∨ 2 * (n % d) = d ∧ n / d % 2 = 1 then n / d + 1 else n / d

/-- The nearest number with at most 53 significant binary digits, a tie to the even one. -/
def round53 (n : Nat) : Nat := divNearest n (twoPow (excess n)) * twoPow (excess n)

theorem short_zero : Short 0 := Nat.dvd_zero _

theorem lt_twoPow_log2 (n : Nat) : n < twoPow (n.log2 + 1) := Nat.lt_log2_self

theorem log2_lt_iff {n k : Nat} (h : n ≠ 0) : n.log2 < k ↔ n < twoPow k := Nat.log2_lt h

theorem log2_twoPow (k : Nat) : (twoPow k).log2 = k := Nat.log2_two_pow

theorem lt_twoPow_excess (n : Nat) : n < twoPow (excess n + 53) := by
  apply Nat.lt_of_lt_of_le (lt_twoPow_log2 n)
  apply Nat.le_of_dvd (twoPow_pos _)
  apply twoPow_dvd_twoPow
  simp only [excess]
  omega

theorem short_mul_twoPow {q s : Nat} (h : q ≤ twoPow 53) : Short (q * twoPow s) := by
  rcases Nat.lt_or_eq_of_le h with hlt | rfl
  · by_cases hz : q * twoPow s = 0
    · rw [hz]
      exact short_zero
    · have hlog : (q * twoPow s).log2 < 53 + s := by
        rw [log2_lt_iff hz, twoPow_add]
        exact (Nat.mul_lt_mul_right (twoPow_pos s)).mpr hlt
      refine Nat.dvd_trans (twoPow_dvd_twoPow ?_) (Nat.dvd_mul_left _ _)
      simp only [excess]
      omega
  · rw [Short, ← twoPow_add, excess, log2_twoPow]
    exact twoPow_dvd_twoPow (Nat.sub_le _ _)

theorem divNearest_le (n d : Nat) : divNearest n d ≤ n / d + 1 := by
  simp only [divNearest]
  split <;> omega

theorem short_round53 (n : Nat) : Short (round53 n) := by
  apply short_mul_twoPow
  apply Nat.le_trans (divNearest_le _ _)
  apply Nat.div_lt_of_lt_mul
  rw [← twoPow_add]
  exact lt_twoPow_excess n

theorem round53_of_short {n : Nat} (h : Short n) : round53 n = n := by
  have hr : n % twoPow (excess n) = 0 := Nat.mod_eq_zero_of_dvd h
  have hp := twoPow_pos (excess n)
  have hq : divNearest n (twoPow (excess n)) = n / twoPow (excess n) := by
    simp only [divNearest, hr]
    rw [if_neg (by omega)]
  rw [round53, hq]
  exact Nat.div_mul_cancel h

end Chance.Binary64
