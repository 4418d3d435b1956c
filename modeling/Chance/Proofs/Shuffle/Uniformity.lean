import Chance.Proofs.Draw.Uniformity
import Chance.Proofs.Shuffle.Order

namespace Chance.Shuffle

open Binary64 Sampler

open scoped Nat ENNReal

/-- Independent places, one for each of `n + 1` places from the last down to the second, and each
uniform among the places up to the one it is drawn for. -/
noncomputable def uniformPlaces : Nat → PMF (List Nat)
  | 0 => PMF.pure []
  | n + 1 => (PMF.uniformOfFintype (Fin (n + 2))).bind fun j => (uniformPlaces n).map (j.val :: ·)

theorem uniformPlaces_cons (m j : Nat) (js : List Nat) :
    uniformPlaces (m + 1) (j :: js) =
      if j ≤ m + 1 then ((m + 2 : Nat) : ℝ≥0∞)⁻¹ * uniformPlaces m js else 0 := by
  have hmap (i : Fin (m + 2)) : (uniformPlaces m).map (i.val :: ·) (j :: js) =
      if i.val = j then uniformPlaces m js else 0 := by
    rw [PMF.map_apply, tsum_eq_single js]
    · simp [eq_comm]
    · intro ks hks
      simp [hks.symm]
  simp only [uniformPlaces, PMF.bind_apply, PMF.uniformOfFintype_apply, Fintype.card_fin, hmap]
  by_cases hj : j ≤ m + 1
  · rw [tsum_eq_single ⟨j, by omega⟩]
    · simp [hj]
    · intro i hi
      have hne : i.val ≠ j := fun h => hi (Fin.ext h)
      simp [hne]
  · have hne (i : Fin (m + 2)) : i.val ≠ j := by omega
    simp [hj, hne]

open scoped Classical in
theorem uniformPlaces_apply (m : Nat) (js : List Nat) :
    uniformPlaces m js = if js ∈ drawable (m + 1) then ((m + 1)! : ℝ≥0∞)⁻¹ else 0 := by
  induction m generalizing js with
  | zero =>
    by_cases h : js = [] <;> simp [uniformPlaces, mem_drawable_one, h]
  | succ m ih =>
    cases js with
    | nil =>
      have hnot : [] ∉ drawable (m + 2) := fun h => absurd h.1 (by simp)
      rw [if_neg hnot]
      simp [uniformPlaces, PMF.map_apply]
    | cons j js =>
      have hfactorial : ((m + 2 : Nat) : ℝ≥0∞)⁻¹ * ((m + 1)! : ℝ≥0∞)⁻¹ = ((m + 2)! : ℝ≥0∞)⁻¹ := by
        rw [Nat.factorial_succ (m + 1), Nat.cast_mul, ENNReal.mul_inv (by simp) (by simp)]
      rw [uniformPlaces_cons, ih]
      simp only [cons_mem_drawable]
      by_cases hj : j ≤ m + 1 <;> by_cases hjs : js ∈ drawable (m + 1) <;>
        simp only [hj, hjs, and_self, and_true, and_false, if_true, if_false, mul_zero, hfactorial]

theorem map_order_uniformPlaces (n : Nat) :
    (uniformPlaces (n - 1)).map (order n) = PMF.uniformOfFintype (Equiv.Perm (Fin n)) := by
  have hfactorial : (n - 1 + 1)! = n ! := by
    cases n <;> rfl
  ext π
  obtain ⟨js, hjs, rfl⟩ := (order_bijOn n).surjOn (Set.mem_univ π)
  rw [PMF.map_apply, tsum_eq_single js]
  · rw [if_pos rfl, uniformPlaces_apply, ← drawable_eq, if_pos hjs, hfactorial,
      PMF.uniformOfFintype_apply, Fintype.card_perm, Fintype.card_fin]
  · intro ks hne
    by_cases hks : ks ∈ drawable n
    · exact if_neg fun heq => hne ((order_bijOn n).injOn hks hjs heq.symm)
    · rw [uniformPlaces_apply, ← drawable_eq, if_neg hks, ite_self]

theorem exists_indices_eq {m : Nat} (hm : m < 4294967296) {js : List Nat}
    (h : js ∈ drawable (m + 1)) : ∃ ks : Nat → Nat, (∀ i, ks i < twoPow 53) ∧
      indices ((List.range m).map fun i => grid (ks i)) = js := by
  induction m generalizing js with
  | zero => exact ⟨fun _ => 0, fun _ => twoPow_pos 53, (mem_drawable_one.mp h).symm⟩
  | succ m ih =>
    obtain ⟨j, js, rfl, hj, hjs⟩ := exists_of_mem_drawable h
    obtain ⟨k, hk, hindex⟩ := Draw.exists_indexOf_grid_eq hm hj
    obtain ⟨ks, hks, hindices⟩ := ih (by omega) hjs
    -- The last place takes the first unit, so those of the other places come one later.
    refine ⟨fun | 0 => k | i + 1 => ks i, ?_, ?_⟩
    · intro i
      cases i with
      | zero => exact hk
      | succ i => exact hks i
    · simp only [List.range_succ_eq_map, List.map_cons, List.map_map, Function.comp_def, indices,
        List.length_map, List.length_range, hindex, hindices]

theorem exists_places_eq {n : Nat} (hn : n ≤ 4294967296) {js : List Nat} (h : js ∈ drawable n) :
    ∃ s : Script Binary64, (∀ i, ∃ k < twoPow 53, stream s i = grid k) ∧ places n s = js := by
  rw [drawable_eq] at h
  obtain ⟨ks, hks, hindices⟩ := exists_indices_eq (show n - 1 < 4294967296 by omega) h
  obtain ⟨s, hgrid, hstream⟩ := exists_script_on_grid hks (n - 1)
  refine ⟨s, hgrid, ?_⟩
  have hunits : (List.range (n - 1)).map (stream s) =
      (List.range (n - 1)).map fun i => grid (ks i) := by
    apply List.map_congr_left
    intro i hi
    exact hstream i (List.mem_range.mp hi)
  rw [places, units_eq, hunits, hindices]

theorem places_correspond_to_orders (n : Nat) :
    (∀ (α : Type) (items : Fin n → α) (js : List Nat),
      (rearrange js (List.ofFn items).toArray).toList = List.ofFn (items ∘ order n js)) ∧
    (∀ (α σ : Type) (_ : Sampler σ) (items : Fin n → α) (s : σ),
      (∀ p < n - 1, (places n s)[p]? = some (Draw.indexOf (n - 1 - p) (stream s p))) ∧
        places n s ∈ drawable n ∧
        (run (List.ofFn items) s).1 = List.ofFn (items ∘ order n (places n s))) ∧
    (n ≤ 4294967296 → ∀ js ∈ drawable n, ∃ s : Script Binary64,
      (∀ i, ∃ k < twoPow 53, stream s i = grid k) ∧ places n s = js) ∧
    Set.BijOn (order n) (drawable n) Set.univ ∧
    (drawable n).ncard = n ! ∧
    (uniformPlaces (n - 1)).map (order n) = PMF.uniformOfFintype (Equiv.Perm (Fin n)) := by
  refine ⟨?_, ?_, ?_, order_bijOn n, ncard_drawable n, map_order_uniformPlaces n⟩
  · intro α items js
    rw [List.toArray_ofFn, rearrange_ofFn, Array.toList_ofFn]
  · intro α σ _ items s
    exact ⟨fun p hp => getElem?_places s hp, places_mem_drawable n s, run_ofFn items s⟩
  · intro hn js hjs
    exact exists_places_eq hn hjs

theorem places_correspond_to_orders_of_three_items :
    let s : Script Binary64 := .ofValues ⟨grid 0, [grid (3 * twoPow 51)]⟩
    places 3 s = [0, 1] ∧ (run ['a', 'b', 'c'] s).1 = ['c', 'b', 'a'] ∧
    ∃ s : Script Binary64, (∀ i, ∃ k < twoPow 53, stream s i = grid k) ∧ places 3 s = [2, 0] := by
  intro s
  obtain ⟨-, drawn, attained, -, -, -⟩ := places_correspond_to_orders 3
  obtain ⟨-, -, hrun⟩ := drawn Char _ inferInstance !['a', 'b', 'c'] s
  have hplaces : places 3 s = [0, 1] := by decide +kernel
  have hdrawable : [2, 0] ∈ drawable 3 := by
    rw [cons_mem_drawable, cons_mem_drawable, mem_drawable_one]
    decide
  refine ⟨hplaces, ?_, attained (by decide) [2, 0] hdrawable⟩
  rw [hplaces] at hrun
  exact hrun

end Chance.Shuffle
