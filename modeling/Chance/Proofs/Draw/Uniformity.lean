import Chance.Proofs.Draw.Parts
import Mathlib

/-!
Integer draws from the units that a generator gives, the multiples of `2 ^ -53` below one. Each
outcome of a draw has as many of these units as there are for one of `n` equal shares, up to less
than two, and larger units give larger outcomes. Rounding the product moves the first unit of an
outcome down, but by less than one unit.
-/

namespace Chance.Draw

open Binary64

def hits (draw : Binary64 → Int) (x : Int) : Nat :=
  ((Finset.range (twoPow 53)).filter fun k => draw (grid k) = x).card

/-- On the grid the draw is uniform, up to rounding, on the `n` integers from `low` on. -/
structure Uniform (draw : Binary64 → Int) (low : Int) (n : Nat) : Prop where
  within : ∀ k < twoPow 53, low ≤ draw (grid k) ∧ draw (grid k) < low + n
  monotone : ∀ j k, j ≤ k → k < twoPow 53 → draw (grid j) ≤ draw (grid k)
  attained : ∀ x, low ≤ x → x < low + n → ∃ k < twoPow 53, draw (grid k) = x
  share : ∀ x, low ≤ x → x < low + n → |(hits draw x : ℚ) - 2 ^ 53 / n| < 2

theorem nearest_of_short {negative : Bool} {n : Nat} (hs : Short n) (hb : n < overflow) :
    nearest negative n = .finite negative n hs hb := by
  have hround := round53_of_short hs
  simp only [nearest, hround, hb, dif_pos]

theorem stepsPerOne_eq : stepsPerOne = twoPow 53 * twoPow 1021 := by
  rw [← twoPow_add]
  rfl

theorem grid_steps_lt {k : Nat} (hk : k < twoPow 53) : k * twoPow 1021 < stepsPerOne := by
  rw [stepsPerOne_eq]
  exact Nat.mul_lt_mul_of_pos_right hk (twoPow_pos _)

theorem stepsPerOne_lt_overflow : stepsPerOne < overflow := twoPow_lt_twoPow (by decide)

theorem grid_eq {k : Nat} (hk : k < twoPow 53) :
    ∃ hs hb, grid k = .finite false (k * twoPow 1021) hs hb :=
  ⟨_, _, nearest_of_short (short_mul_twoPow hk.le)
    (Nat.lt_trans (grid_steps_lt hk) stepsPerOne_lt_overflow)⟩

def gridPart (n k : Nat) : Nat := part n (k * twoPow 1021)

theorem gridPart_eq (n k : Nat) : gridPart n k = min (round53 (k * n) / twoPow 53) (n - 1) := by
  rw [gridPart, part, Nat.mul_right_comm, round53_mul_twoPow, stepsPerOne_eq,
    Nat.mul_div_mul_right _ _ (twoPow_pos _)]

-- Rounding moves this unit, which lies below two thirds, into the last of three parts.
example : gridPart 3 ((twoPow 54 - 1) / 3) = 2 := by decide +kernel

theorem gridPart_mono (n : Nat) {j k : Nat} (h : j ≤ k) : gridPart n j ≤ gridPart n k :=
  part_mono n (Nat.mul_le_mul_right _ h)

theorem le_gridPart {n k x : Nat} (hx : x < n) (hn : n ≤ 4294967296)
    (h : x * twoPow 53 ≤ k * n) : x ≤ gridPart n k := by
  have hshort : Short (x * twoPow 53) := by
    apply short_mul_twoPow
    apply Nat.le_trans (Nat.le_trans hx.le hn)
    decide
  have hdiv : x ≤ round53 (k * n) / twoPow 53 := by
    apply (Nat.le_div_iff_mul_le (twoPow_pos _)).mpr
    exact le_round53 hshort h
  rw [gridPart_eq]
  omega

theorem gridPart_lt {n k x : Nat} (hn : 0 < n) (hx : x ≤ n) (h : k * n + n ≤ x * twoPow 53) :
    gridPart n k < x := by
  have hdiv : round53 (k * n) / twoPow 53 < x := by
    apply (Nat.div_lt_iff_lt_mul (twoPow_pos _)).mpr
    exact round53_lt hn hx h
  rw [gridPart_eq]
  omega

theorem exists_gridPart_eq {n x : Nat} (hx : x < n) (hn : n ≤ 4294967296) :
    ∃ k < twoPow 53, gridPart n k = x := by
  have hpow : twoPow 53 = 9007199254740992 := rfl
  have hpos : 0 < n := Nat.zero_lt_of_lt hx
  have hdiv := Nat.div_add_mod' (x * twoPow 53 + (n - 1)) n
  have hmod := Nat.mod_lt (x * twoPow 53 + (n - 1)) hpos
  generalize (x * twoPow 53 + (n - 1)) / n = k at hdiv
  have hlow : x * twoPow 53 ≤ k * n := by omega
  have hhigh : k * n + n ≤ (x + 1) * twoPow 53 := by
    rw [Nat.succ_mul]
    omega
  have hrange : k < twoPow 53 := by
    have hall : (x + 1) * twoPow 53 ≤ n * twoPow 53 := Nat.mul_le_mul_right _ hx
    have hless : k * n < twoPow 53 * n := by
      rw [Nat.mul_comm (twoPow 53)]
      omega
    exact Nat.lt_of_mul_lt_mul_right hless
  refine ⟨k, hrange, ?_⟩
  have hle := le_gridPart hx hn hlow
  have hlt := gridPart_lt hpos hx hhigh
  omega

def below (n x : Nat) : Finset Nat := (Finset.range (twoPow 53)).filter fun k => gridPart n k < x

theorem lt_card_below_mul {n x : Nat} (hn : 0 < n) (hx : x ≤ n) :
    x * twoPow 53 < (below n x).card * n + n := by
  have hsub : Finset.range (x * twoPow 53 / n) ⊆ below n x := by
    intro k hk
    have hfull : (k + 1) * n ≤ x * twoPow 53 :=
      (Nat.le_div_iff_mul_le hn).mp (Finset.mem_range.mp hk)
    have hall : x * twoPow 53 ≤ n * twoPow 53 := Nat.mul_le_mul_right _ hx
    have hrange : k + 1 ≤ twoPow 53 := by
      apply Nat.le_of_mul_le_mul_right _ hn
      rw [Nat.mul_comm (twoPow 53)]
      exact Nat.le_trans hfull hall
    rw [Nat.succ_mul] at hfull
    exact Finset.mem_filter.mpr ⟨Finset.mem_range.mpr hrange, gridPart_lt hn hx hfull⟩
  have hcard := Finset.card_le_card hsub
  rw [Finset.card_range] at hcard
  apply Nat.lt_of_lt_of_le (Nat.lt_div_mul_add hn)
  exact Nat.add_le_add_right (Nat.mul_le_mul_right n hcard) n

theorem card_below_mul_lt {n x : Nat} (hn : 0 < n) (hsize : n ≤ 4294967296) (hx : x ≤ n) :
    (below n x).card * n < x * twoPow 53 + n := by
  -- The last outcome takes what the clamp sends back to it, so all units lie below `n`.
  rcases Nat.lt_or_eq_of_le hx with hlt | rfl
  · have hsub : below n x ⊆ Finset.range ((x * twoPow 53 + (n - 1)) / n) := by
      intro k hk
      have hpart := (Finset.mem_filter.mp hk).2
      have hless : k * n < x * twoPow 53 := by
        by_contra hge
        exact absurd (le_gridPart hlt hsize (Nat.le_of_not_lt hge)) (Nat.not_le_of_lt hpart)
      apply Finset.mem_range.mpr
      apply (Nat.le_div_iff_mul_le hn).mpr
      rw [Nat.succ_mul]
      omega
    have hcard := Finset.card_le_card hsub
    rw [Finset.card_range] at hcard
    have hmul := (Nat.le_div_iff_mul_le hn).mp hcard
    omega
  · have hcard := Finset.card_filter_le (Finset.range (twoPow 53)) fun k => gridPart x k < x
    rw [Finset.card_range] at hcard
    have hmul := Nat.mul_le_mul_right x hcard
    rw [Nat.mul_comm (twoPow 53)] at hmul
    exact Nat.lt_of_le_of_lt hmul (Nat.lt_add_of_pos_right hn)

theorem card_below_succ (n x : Nat) : (below n (x + 1)).card = (below n x).card +
    ((Finset.range (twoPow 53)).filter fun k => gridPart n k = x).card := by
  have hunion : below n (x + 1) =
      below n x ∪ (Finset.range (twoPow 53)).filter fun k => gridPart n k = x := by
    ext k
    simp only [below, Finset.mem_filter, Finset.mem_union, Nat.lt_succ_iff_lt_or_eq, and_or_left]
  rw [hunion]
  apply Finset.card_union_of_disjoint
  apply Finset.disjoint_filter.mpr
  intro k _ hlt heq
  exact absurd heq hlt.ne

section

variable {draw : Binary64 → Int} {low : Int} {n : Nat}
  (hdraw : ∀ k < twoPow 53, draw (grid k) = low + gridPart n k)

include hdraw

theorem hits_eq (x : Nat) :
    hits draw (low + x) = ((Finset.range (twoPow 53)).filter fun k => gridPart n k = x).card := by
  have hiff : ∀ k ∈ Finset.range (twoPow 53), draw (grid k) = low + x ↔ gridPart n k = x := by
    intro k hk
    rw [hdraw k (Finset.mem_range.mp hk)]
    omega
  rw [hits, Finset.filter_congr hiff]

theorem hits_mul_bounds (hn : 0 < n) (hsize : n ≤ 4294967296) {x : Nat} (hx : x < n) :
    hits draw (low + x) * n < twoPow 53 + 2 * n ∧ twoPow 53 < hits draw (low + x) * n + 2 * n := by
  have hsplit := congrArg (· * n) (card_below_succ n x)
  simp only [Nat.add_mul] at hsplit
  rw [hits_eq hdraw]
  have hlow := lt_card_below_mul hn hx.le
  have hlow' := card_below_mul_lt hn hsize hx.le
  have hhigh := lt_card_below_mul hn (show x + 1 ≤ n from hx)
  have hhigh' := card_below_mul_lt hn hsize (show x + 1 ≤ n from hx)
  rw [Nat.add_mul] at hhigh hhigh'
  omega

theorem uniform_of_gridPart (hn : 0 < n) (hsize : n ≤ 4294967296) : Uniform draw low n where
  within k hk := by
    have hlt : gridPart n k < n := part_lt hn _
    rw [hdraw k hk]
    omega
  monotone j k hjk hk := by
    have hmono := gridPart_mono n hjk
    rw [hdraw j (Nat.lt_of_le_of_lt hjk hk), hdraw k hk]
    omega
  attained x hlow hhigh := by
    obtain ⟨y, rfl⟩ : ∃ y : Nat, x = low + y := ⟨(x - low).toNat, by omega⟩
    obtain ⟨k, hk, hpart⟩ := exists_gridPart_eq (show y < n by omega) hsize
    exact ⟨k, hk, by rw [hdraw k hk, hpart]⟩
  share x hlow hhigh := by
    obtain ⟨y, rfl⟩ : ∃ y : Nat, x = low + y := ⟨(x - low).toNat, by omega⟩
    obtain ⟨hupper, hlower⟩ := hits_mul_bounds hdraw hn hsize (show y < n by omega)
    have hn' : (0 : ℚ) < n := Nat.cast_pos.mpr hn
    have hpow : (2 : ℚ) ^ 53 = (twoPow 53 : Nat) := by
      rw [show twoPow 53 = 2 ^ 53 from rfl]
      norm_num
    have hupper' : (hits draw (low + y) : ℚ) * n < twoPow 53 + 2 * n := by exact_mod_cast hupper
    have hlower' : (twoPow 53 : ℚ) < hits draw (low + y) * n + 2 * n := by exact_mod_cast hlower
    rw [hpow, abs_sub_lt_iff]
    constructor
    · rw [sub_lt_comm, lt_div_iff₀ hn', sub_mul]
      linarith
    · rw [sub_lt_iff_lt_add, div_lt_iff₀ hn', add_mul]
      linarith

end

theorem uniform_of_part {draw : Binary64 → Int} {low : Int} {n : Nat} (hn : 0 < n)
    (hsize : n ≤ 4294967296) (hdraw : ∀ {steps : Nat} (hs : Short steps) (hb : steps < overflow),
      steps < stepsPerOne → draw (.finite false steps hs hb) = low + part n steps) :
    Uniform draw low n := by
  apply uniform_of_gridPart _ hn hsize
  intro k hk
  obtain ⟨hs, hb, hgrid⟩ := grid_eq hk
  rw [hgrid, hdraw hs hb (grid_steps_lt hk), gridPart]

theorem gridPart_last {n : Nat} (hn : 0 < n) (hsize : n ≤ 4294967296) :
    gridPart n (twoPow 53 - 1) = n - 1 := by
  have hpow : twoPow 53 = 9007199254740992 := rfl
  have hlt : gridPart n (twoPow 53 - 1) < n := part_lt hn _
  have hle : n - 1 ≤ gridPart n (twoPow 53 - 1) := by
    apply le_gridPart (Nat.sub_one_lt hn.ne') hsize
    rw [hpow]
    omega
  omega

theorem faceOf_grid (sides : Positive) {k : Nat} (hk : k < twoPow 53) :
    faceOf sides (grid k) = gridPart sides.value k + 1 := by
  obtain ⟨hs, hb, hgrid⟩ := grid_eq hk
  rw [hgrid, faceOf_eq hs hb (grid_steps_lt hk), gridPart]

theorem faceOf_grid_zero (sides : Positive) : faceOf sides (grid 0) = 1 := by
  rw [faceOf_grid sides (twoPow_pos 53), gridPart_eq, Nat.zero_mul, round53_of_short short_zero,
    Nat.zero_div, Nat.zero_min]

theorem faceOf_grid_last (sides : Positive) :
    faceOf sides (grid (twoPow 53 - 1)) = sides.value := by
  have hlast : twoPow 53 - 1 < twoPow 53 := Nat.sub_one_lt (twoPow_pos 53).ne'
  rw [faceOf_grid sides hlast, gridPart_last sides.pos sides.small.le]
  exact Nat.sub_add_cancel sides.pos

theorem exists_faceOf_grid_eq (sides : Positive) {face : Nat} (hpos : 1 ≤ face)
    (hle : face ≤ sides.value) : ∃ k < twoPow 53, faceOf sides (grid k) = face := by
  obtain ⟨k, hk, hpart⟩ :=
    exists_gridPart_eq (show face - 1 < sides.value by omega) sides.small.le
  refine ⟨k, hk, ?_⟩
  rw [faceOf_grid sides hk, hpart]
  exact Nat.sub_add_cancel hpos

theorem indexOf_grid {upper k : Nat} (hupper : upper < 4294967296) (hk : k < twoPow 53) :
    indexOf upper (grid k) = gridPart (upper + 1) k := by
  obtain ⟨hs, hb, hgrid⟩ := grid_eq hk
  rw [hgrid, indexOf_eq hs hb (grid_steps_lt hk) hupper, gridPart]

theorem exists_indexOf_grid_eq {upper j : Nat} (hupper : upper < 4294967296) (hj : j ≤ upper) :
    ∃ k < twoPow 53, indexOf upper (grid k) = j := by
  obtain ⟨k, hk, hpart⟩ := exists_gridPart_eq (Nat.lt_succ_of_le hj) hupper
  exact ⟨k, hk, by rw [indexOf_grid hupper hk, hpart]⟩

theorem draws_uniform :
    (∀ sides : Positive, Uniform (fun u => faceOf sides u) 1 sides.value) ∧
    (∀ a b : Int32, Uniform (integerOf a.toInt b.toInt) (min a.toInt b.toInt)
      ((a.toInt - b.toInt).natAbs + 1)) ∧
    (∀ upper : Number, Uniform (fun u => indexOf upper.val u) 0 (upper.val + 1)) := by
  refine ⟨?_, ?_, ?_⟩
  · intro sides
    apply uniform_of_part sides.pos sides.small.le
    intro steps hs hb hsteps
    rw [faceOf_eq hs hb hsteps]
    omega
  · intro a b
    have hwide (c : Int32) : -2147483648 ≤ c.toInt ∧ c.toInt < 2147483648 :=
      ⟨c.le_toInt, c.toInt_lt⟩
    have ha := hwide a
    have hb := hwide b
    apply uniform_of_part (Nat.add_one_pos _) (by omega)
    intro steps hs hfinite hsteps
    exact integerOf_eq hs hfinite hsteps ha hb
  · intro upper
    apply uniform_of_part (Nat.add_one_pos upper.val) upper.isLt
    intro steps hs hb hsteps
    rw [indexOf_eq hs hb hsteps upper.isLt]
    omega

end Chance.Draw
