import Chance.Proofs.Draw.Agreement

namespace Chance.Draw

open Binary64

def within? (low high n : Int) : Option Int := if low ≤ n ∧ n ≤ high then some n else none

def word? (n : Int) : Option Int := within? (-9223372036854775808) 9223372036854775807 n

/-- The draw of an integer whose sums and differences have to fit in 64 bits and whose result has to
fit in 32. -/
def integerOf? (a b : Int) (u : Binary64) : Option Int := do
  let difference ← word? (max a b - min a b)
  let width ← word? (difference + 1)
  let offset := (u.scale width.toNat).floorWithin (-9223372036854775808) 9223372036854775807
  let sum ← word? (min a b + offset)
  within? (-2147483648) 2147483647 (min sum (max a b))

theorem word?_eq {n : Int} (hlow : -9223372036854775808 ≤ n) (hhigh : n ≤ 9223372036854775807) :
    word? n = some n := if_pos ⟨hlow, hhigh⟩

theorem floorWithin_scale_bounds {u : Binary64} (hu : u.Fractional) {n : Nat}
    (hn : n ≤ 4294967296) (lo hi : Int) (hlo : lo ≤ 0) (hhi : n ≤ hi) :
    0 ≤ (u.scale n).floorWithin lo hi ∧ (u.scale n).floorWithin lo hi ≤ n := by
  obtain ⟨steps, hs, hb, hlt, -, hfloor⟩ := hu.exists_steps
  have hle := round53_mul_div_le hn hlt
  rw [hfloor, floorWithin_scale hs hb hn hlt hlo hhi]
  exact ⟨Int.natCast_nonneg _, Int.ofNat_le.mpr hle⟩

theorem integerOf?_eq {u : Binary64} (hu : u.Fractional) (a b : Int32) :
    integerOf? a.toInt b.toInt u = some (integerOf a.toInt b.toInt u) := by
  have ha := toInt_bounds a
  have hb := toInt_bounds b
  generalize hlow : min a.toInt b.toInt = low
  generalize hhigh : max a.toInt b.toInt = high
  have hwidth : (high - low + 1).toNat ≤ 4294967296 := by omega
  have hoffset := floorWithin_scale_bounds hu hwidth (-9223372036854775808) 9223372036854775807
    (by omega) (by omega)
  simp only [integerOf?, integerOf, hlow, hhigh, Option.bind_eq_bind]
  rw [word?_eq (by omega) (by omega), Option.bind_some, word?_eq (by omega) (by omega),
    Option.bind_some]
  generalize (u.scale (high - low + 1).toNat).floorWithin _ _ = offset at hoffset ⊢
  have hsum : (low + offset).bmod 18446744073709551616 = low + offset :=
    Int.bmod_eq_of_le (by omega) (by omega)
  have hresult : (min (low + offset) high).bmod 4294967296 = min (low + offset) high :=
    Int.bmod_eq_of_le (by omega) (by omega)
  rw [word?_eq (by omega) (by omega), Option.bind_some, hsum, hresult]
  exact if_pos ⟨by omega, by omega⟩

/-- What an integer `x` that is drawn with the unit `u` owes to its range. A unit of zero can have
either sign, and the last unit below one is that of `2 ^ 53 - 1` steps of the grid. -/
structure Keeps (a b : Int) (u : Binary64) (x : Int) : Prop where
  within : min a b ≤ x ∧ x ≤ max a b
  lossless : integerOf? a b u = some x
  either_order : integerOf b a u = x
  first : u.le zero → x = min a b
  last : u = grid (twoPow 53 - 1) → x = max a b

theorem part_zero (n : Nat) : part n 0 = 0 := by
  rw [part, Nat.zero_mul, round53_of_short short_zero, Nat.zero_div, Nat.zero_min]

theorem integerOf_comm (a b : Int) (u : Binary64) : integerOf b a u = integerOf a b u := by
  simp only [integerOf, min_comm b a, max_comm b a]

theorem position?_of_le_zero {u : Binary64} (hu : u.Fractional) (h : u.le zero) :
    u.position? = some 0 := by
  obtain ⟨p, hp, hpos, -⟩ := fractional_iff.mp hu
  unfold le at h
  rw [hp, position?_zero] at h
  have hle : p ≤ 0 := of_decide_eq_true h
  rw [hp, Int.le_antisymm hle hpos]

theorem keeps_integerOf {u : Binary64} (hu : u.Fractional) (a b : Int32) :
    Keeps a.toInt b.toInt u (integerOf a.toInt b.toInt u) := by
  obtain ⟨steps, hposition, htells⟩ := exists_tells hu
  have hdraw := htells.integer (toInt_bounds a) (toInt_bounds b)
  refine ⟨?_, integerOf?_eq hu a b, integerOf_comm _ _ u, ?_, ?_⟩
  · have hlt := part_lt (Nat.add_one_pos (a.toInt - b.toInt).natAbs) steps
    rw [hdraw]
    omega
  · intro hzero
    rw [position?_of_le_zero hu hzero] at hposition
    obtain rfl : steps = 0 := by
      have h := Option.some.inj hposition
      omega
    rw [hdraw, part_zero]
    omega
  · intro hlast
    rw [hlast, position?_grid (Nat.sub_le _ _)] at hposition
    have hsteps : (twoPow 53 - 1) * twoPow 1021 = steps :=
      Int.ofNat.inj (Option.some.inj hposition)
    have hsize : (a.toInt - b.toInt).natAbs + 1 ≤ 4294967296 := by
      have ha := toInt_bounds a
      have hb := toInt_bounds b
      omega
    have hpart := gridPart_last (Nat.add_one_pos _) hsize
    rw [gridPart, hsteps] at hpart
    rw [hdraw, hpart]
    omega

theorem between_comm {σ : Type} [Sampler σ] (a b : Int) (r : Random σ) :
    r.between b a = r.between a b := by
  have h : integerOf b a = integerOf a b := funext fun u => integerOf_comm a b u
  rw [Random.between, Random.between, h]

theorem ranges_kept :
    (∀ (a b : Int32) (u : Binary64), u.Fractional →
      Keeps a.toInt b.toInt u (integerOf a.toInt b.toInt u)) ∧
    ∀ (σ : Type) [Sampler σ] (r : Random σ), (Sampler.unit r.sampler).1.Fractional →
      (∀ a b : Int32, Keeps a.toInt b.toInt (Sampler.unit r.sampler).1
          (r.between a.toInt b.toInt).1 ∧
        r.between b.toInt a.toInt = r.between a.toInt b.toInt) ∧
      ∀ n : Int32, r.upTo n.toInt = r.between 0 n.toInt ∧
        Keeps 0 n.toInt (Sampler.unit r.sampler).1 (r.upTo n.toInt).1 := by
  refine ⟨fun a b u hu => keeps_integerOf hu a b, ?_⟩
  intro σ _ r hu
  refine ⟨?_, ?_⟩
  · intro a b
    exact ⟨keeps_integerOf hu a b, between_comm _ _ r⟩
  · intro n
    exact ⟨rfl, keeps_integerOf hu 0 n⟩

theorem ranges_kept_at_the_widest :
    let z := nearest true 0
    let u := grid (twoPow 53 - 1)
    let r : Random (Script Binary64) := .ofSampler (.ofValues ⟨u, []⟩)
    (z.Fractional ∧ z.le zero ∧
      Keeps (-2147483648) 2147483647 z (integerOf (-2147483648) 2147483647 z)) ∧
    (Sampler.unit r.sampler).1.Fractional ∧
      Keeps 2147483647 (-2147483648) (Sampler.unit r.sampler).1
        (r.between 2147483647 (-2147483648)).1 ∧
      r.between (-2147483648) 2147483647 = r.between 2147483647 (-2147483648) ∧
      r.upTo (-2147483648) = r.between 0 (-2147483648) ∧
      Keeps 0 (-2147483648) (Sampler.unit r.sampler).1 (r.upTo (-2147483648)).1 := by
  intro z u r
  have hz : z.Fractional := by decide +kernel
  have hzero : z.le zero := by decide +kernel
  have hu : u.Fractional := by decide +kernel
  have hunit : (Sampler.unit r.sampler).1.Fractional := by
    rw [show (Sampler.unit r.sampler).1 = u from Sampler.unit_ofValues u []]
    exact hu
  obtain ⟨hdrawn, hcalled⟩ := ranges_kept
  obtain ⟨hbetween, hupTo⟩ := hcalled (Script Binary64) r hunit
  refine ⟨⟨hz, hzero, hdrawn Int32.minValue Int32.maxValue z hz⟩, hunit, ?_⟩
  obtain ⟨hkept, hcomm⟩ := hbetween Int32.maxValue Int32.minValue
  obtain ⟨heq, hkept'⟩ := hupTo Int32.minValue
  exact ⟨hkept, hcomm, heq, hkept'⟩

end Chance.Draw
