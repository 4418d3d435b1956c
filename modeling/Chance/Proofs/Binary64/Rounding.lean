import Chance.Binary64.Basic
import Mathlib

namespace Chance.Binary64

theorem log2_eq_iff {n k : Nat} (h : n ≠ 0) : n.log2 = k ↔ twoPow k ≤ n ∧ n < twoPow (k + 1) :=
  Nat.log2_eq_iff h

theorem twoPow_lt_twoPow {j k : Nat} (h : j < k) : twoPow j < twoPow k :=
  Nat.pow_lt_pow_right (by decide) h

theorem twoPow_log2_le {n : Nat} (h : n ≠ 0) : twoPow n.log2 ≤ n := Nat.log2_self_le h

theorem div_le_divNearest (n d : Nat) : n / d ≤ divNearest n d := by
  rw [divNearest]
  split <;> omega

theorem divNearest_mono {m n : Nat} (h : m ≤ n) (d : Nat) : divNearest m d ≤ divNearest n d := by
  rcases Nat.lt_or_eq_of_le (Nat.div_le_div_right (c := d) h) with hlt | heq
  · have hm := divNearest_le m d
    have hn := div_le_divNearest n d
    omega
  · have hm := Nat.div_add_mod m d
    have hn := Nat.div_add_mod n d
    have hrest : m % d ≤ n % d := by
      rw [heq] at hm
      omega
    simp only [divNearest, heq]
    split <;> split <;> omega

theorem divNearest_mul_right (n d : Nat) {c : Nat} (hc : 0 < c) :
    divNearest (n * c) (d * c) = divNearest n d := by
  have hlt : d * c < 2 * (n % d * c) ↔ d < 2 * (n % d) := by
    rw [← Nat.mul_assoc]
    exact Nat.mul_lt_mul_right hc
  have heq : 2 * (n % d * c) = d * c ↔ 2 * (n % d) = d := by
    rw [← Nat.mul_assoc]
    exact Nat.mul_left_inj hc.ne'
  simp only [divNearest, Nat.mul_div_mul_right _ _ hc, Nat.mul_mod_mul_right, hlt, heq]

theorem two_mul_divNearest_le (n d : Nat) : 2 * (divNearest n d * d) ≤ 2 * n + d := by
  have h := Nat.div_add_mod' n d
  rw [divNearest]
  split
  · rw [Nat.add_mul]
    omega
  · omega

theorem two_mul_round53_le (n : Nat) : 2 * round53 n ≤ 2 * n + twoPow (excess n) :=
  two_mul_divNearest_le n (twoPow (excess n))

theorem short_of_le {n : Nat} (h : n ≤ twoPow 53) : Short n := by
  have hs : Short (n * twoPow 0) := short_mul_twoPow h
  rwa [show twoPow 0 = 1 from rfl, Nat.mul_one] at hs

theorem round53_le_twoPow {n k : Nat} (h : n < twoPow k) : round53 n ≤ twoPow k := by
  by_cases hz : n = 0
  · subst hz
    exact Nat.zero_le _
  have hexcess : excess n ≤ k := by
    have hlog := (log2_lt_iff hz).mpr h
    rw [excess]
    omega
  obtain ⟨j, rfl⟩ := Nat.exists_eq_add_of_le' hexcess
  rw [twoPow_add] at h ⊢
  apply Nat.mul_le_mul_right
  have hdiv : n / twoPow (excess n) < twoPow j := Nat.div_lt_of_lt_mul (Nat.mul_comm _ _ ▸ h)
  have hnearest := divNearest_le n (twoPow (excess n))
  omega

theorem twoPow_log2_le_round53 {n : Nat} (h : n ≠ 0) : twoPow n.log2 ≤ round53 n := by
  obtain ⟨j, hj⟩ := Nat.exists_eq_add_of_le' (show excess n ≤ n.log2 from Nat.sub_le _ _)
  have hle := twoPow_log2_le h
  rw [hj, twoPow_add] at hle
  rw [hj, twoPow_add]
  apply Nat.mul_le_mul_right
  apply Nat.le_trans _ (div_le_divNearest _ _)
  exact (Nat.le_div_iff_mul_le (twoPow_pos _)).mpr hle

theorem round53_mono {m n : Nat} (h : m ≤ n) : round53 m ≤ round53 n := by
  by_cases hz : n = 0
  · have hm : m = 0 := Nat.eq_zero_of_le_zero (hz ▸ h)
    rw [hz, hm]
  -- The power of two below `n` either parts the two numbers or gives them the same excess.
  by_cases hlt : m < twoPow n.log2
  · exact Nat.le_trans (round53_le_twoPow hlt) (twoPow_log2_le_round53 hz)
  · have hpos : 0 < m := Nat.lt_of_lt_of_le (twoPow_pos _) (Nat.le_of_not_lt hlt)
    have hlog : m.log2 = n.log2 := by
      apply (log2_eq_iff hpos.ne').mpr
      exact ⟨Nat.le_of_not_lt hlt, Nat.lt_of_le_of_lt h (lt_twoPow_log2 n)⟩
    have hexcess : excess m = excess n := by rw [excess, excess, hlog]
    rw [round53, round53, hexcess]
    exact Nat.mul_le_mul_right _ (divNearest_mono h _)

theorem round53_le {n s : Nat} (hs : Short s) (h : n ≤ s) : round53 n ≤ s := by
  have hmono := round53_mono h
  rwa [round53_of_short hs] at hmono

theorem le_round53 {n s : Nat} (hs : Short s) (h : s ≤ n) : s ≤ round53 n := by
  have hmono := round53_mono h
  rwa [round53_of_short hs] at hmono

theorem log2_mul_twoPow {n : Nat} (h : n ≠ 0) (k : Nat) : (n * twoPow k).log2 = n.log2 + k := by
  have hk := twoPow_pos k
  apply (log2_eq_iff (Nat.mul_ne_zero h hk.ne')).mpr
  rw [Nat.add_right_comm, twoPow_add, twoPow_add (n.log2 + 1)]
  constructor
  · exact Nat.mul_le_mul_right _ (twoPow_log2_le h)
  · exact Nat.mul_lt_mul_of_pos_right (lt_twoPow_log2 n) hk

theorem round53_mul_twoPow (n k : Nat) : round53 (n * twoPow k) = round53 n * twoPow k := by
  by_cases hn : n < twoPow 53
  · rw [round53_of_short (short_of_le hn.le), round53_of_short (short_mul_twoPow hn.le)]
  · have hz : n ≠ 0 := by
      rintro rfl
      exact hn (twoPow_pos 53)
    have hlog : 53 ≤ n.log2 := Nat.le_of_not_lt fun h => hn ((log2_lt_iff hz).mp h)
    have hexcess : excess (n * twoPow k) = excess n + k := by
      rw [excess, excess, log2_mul_twoPow hz]
      omega
    rw [round53, round53, hexcess, twoPow_add, divNearest_mul_right _ _ (twoPow_pos k),
      Nat.mul_assoc]

theorem twoPow_excess_lt {n c : Nat} (hc : 0 < c) (h : n < c * twoPow 53) :
    twoPow (excess n) < 2 * c := by
  by_cases hlog : n.log2 ≤ 52
  · rw [excess, Nat.sub_eq_zero_of_le hlog]
    have hone : twoPow 0 = 1 := rfl
    omega
  · have hz : n ≠ 0 := by
      rintro rfl
      exact hlog (by decide)
    have hsplit : twoPow n.log2 = twoPow (excess n) * twoPow 52 := by
      rw [← twoPow_add, excess]
      congr 1
      omega
    have hle := twoPow_log2_le hz
    have hdouble : twoPow 53 = 2 * twoPow 52 := rfl
    apply Nat.lt_of_mul_lt_mul_right (a := twoPow 52)
    rw [← hsplit, Nat.mul_assoc, Nat.mul_left_comm, ← hdouble]
    omega

theorem round53_lt {n c d : Nat} (hd : 0 < d) (hc : c ≤ d) (h : n + d ≤ c * twoPow 53) :
    round53 n < c * twoPow 53 := by
  have hpos : 0 < c := by
    rcases Nat.eq_zero_or_pos c with rfl | hpos
    · omega
    · exact hpos
  have hexcess := twoPow_excess_lt hpos (show n < c * twoPow 53 by omega)
  have hround := two_mul_round53_le n
  omega

end Chance.Binary64
