import Chance.Proofs.Roll.UnitStream
import Chance.Shuffle
import Mathlib

/-!
Shuffles as permutations of places. Each drawn place exchanges two places, and the drawn places
together give an order of all of them. The places that can be drawn and the orders correspond one
to one: the item that comes to the last place tells which place was drawn for it.
-/

namespace Chance.Shuffle

open scoped Nat

variable {α σ : Type} {n : Nat}

def exchange (n i j : Nat) : Equiv.Perm (Fin n) :=
  if h : i < n ∧ j < n then Equiv.swap ⟨i, h.1⟩ ⟨j, h.2⟩ else 1

/-- Where the item in each place comes from. -/
def order (n : Nat) : List Nat → Equiv.Perm (Fin n)
  | [] => 1
  | j :: js => exchange n (js.length + 1) j * order n js

theorem swapIfInBounds_ofFn (items : Fin n → α) (i j : Nat) :
    (Array.ofFn items).swapIfInBounds i j = Array.ofFn (items ∘ exchange n i j) := by
  by_cases h : i < n ∧ j < n
  · apply Array.ext
    · simp
    · intro p hp _
      simp only [Array.size_swapIfInBounds, Array.size_ofFn] at hp
      simp only [Array.getElem_swapIfInBounds, Array.getElem_ofFn, Array.size_ofFn, exchange, h,
        and_self, and_true, ↓reduceDIte, Function.comp_apply, Equiv.swap_apply_def, Fin.mk.injEq]
      split_ifs <;> rfl
  · have hsame : (Array.ofFn items).swapIfInBounds i j = Array.ofFn items := by
      simp only [Array.swapIfInBounds_def, Array.size_ofFn]
      split_ifs <;> simp_all
    rw [hsame, exchange, dif_neg h]
    rfl

theorem rearrange_ofFn (js : List Nat) (items : Fin n → α) :
    rearrange js (Array.ofFn items) = Array.ofFn (items ∘ order n js) := by
  induction js generalizing items with
  | nil => rfl
  | cons j js ih =>
    rw [rearrange, swapIfInBounds_ofFn, ih]
    rfl

example : List.ofFn (order 3 [0, 1]) = [2, 1, 0] := by decide

/-- The places that can be drawn for `n` items: one for each place from the last down to the
second, and none beyond the place that it is drawn for. -/
def drawable (n : Nat) : Set (List Nat) :=
  {js | js.length = n - 1 ∧ ∀ p j, js[p]? = some j → j ≤ n - 1 - p}

theorem mem_drawable_one {js : List Nat} : js ∈ drawable 1 ↔ js = [] := by
  constructor
  · rintro ⟨hlen, -⟩
    exact List.eq_nil_of_length_eq_zero hlen
  · rintro rfl
    exact ⟨rfl, by simp⟩

theorem cons_mem_drawable {m j : Nat} {js : List Nat} :
    j :: js ∈ drawable (m + 2) ↔ j ≤ m + 1 ∧ js ∈ drawable (m + 1) := by
  constructor
  · rintro ⟨hlen, hbound⟩
    refine ⟨hbound 0 j rfl, by simpa using hlen, ?_⟩
    intro p k hk
    have hlater := hbound (p + 1) k (by simpa using hk)
    omega
  · rintro ⟨hj, hlen, hbound⟩
    refine ⟨by simpa using hlen, ?_⟩
    intro p k hk
    cases p with
    | zero =>
      obtain rfl : j = k := by simpa using hk
      omega
    | succ p =>
      have hlater := hbound p k (by simpa using hk)
      omega

theorem exists_of_mem_drawable {m : Nat} {js : List Nat} (h : js ∈ drawable (m + 2)) :
    ∃ j ks, js = j :: ks ∧ j ≤ m + 1 ∧ ks ∈ drawable (m + 1) := by
  cases js with
  | nil => exact absurd h.1 (by simp)
  | cons j ks => exact ⟨j, ks, rfl, cons_mem_drawable.mp h⟩

theorem indices_mem_drawable (us : List Binary64) : indices us ∈ drawable (us.length + 1) := by
  induction us with
  | nil => exact mem_drawable_one.mpr rfl
  | cons u us ih => exact cons_mem_drawable.mpr ⟨Nat.min_le_right _ _, ih⟩

theorem getElem?_indices (us : List Binary64) (p : Nat) :
    (indices us)[p]? = us[p]?.map (Draw.indexOf (us.length - p)) := by
  induction us generalizing p with
  | nil => rfl
  | cons u us ih =>
    cases p with
    | zero => rfl
    | succ p =>
      rw [indices, List.getElem?_cons_succ, ih, List.getElem?_cons_succ, List.length_cons,
        Nat.add_sub_add_right]

def places [Sampler σ] (n : Nat) (s : σ) : List Nat := indices (Sampler.units (n - 1) s).1

theorem places_mem_drawable [Sampler σ] (n : Nat) (s : σ) : places n s ∈ drawable n := by
  cases n with
  | zero => exact ⟨rfl, by simp [places, Sampler.units, indices]⟩
  | succ m =>
    have h := indices_mem_drawable (Sampler.units m s).1
    rwa [Sampler.length_units] at h

theorem getElem?_places [Sampler σ] {p : Nat} (s : σ) (hp : p < n - 1) :
    (places n s)[p]? = some (Draw.indexOf (n - 1 - p) (Sampler.stream s p)) := by
  rw [places, getElem?_indices, Sampler.length_units, Sampler.units_eq, List.getElem?_map,
    List.getElem?_range hp]
  rfl

theorem run_ofFn [Sampler σ] (items : Fin n → α) (s : σ) :
    (run (List.ofFn items) s).1 = List.ofFn (items ∘ order n (places n s)) := by
  simp only [run, List.length_ofFn, Prod.map_fst, permute, List.toArray_ofFn, rearrange_ofFn,
    Array.toList_ofFn]
  rfl

theorem exchange_apply_left {i j : Nat} (hi : i < n) (hj : j < n) :
    exchange n i j ⟨i, hi⟩ = ⟨j, hj⟩ := by
  rw [exchange, dif_pos ⟨hi, hj⟩]
  exact Equiv.swap_apply_left _ _

theorem exchange_apply_of_lt {i j : Nat} (hj : j ≤ i) {x : Fin n} (hx : i < x) :
    exchange n i j x = x := by
  rw [exchange]
  split_ifs with h
  · apply Equiv.swap_apply_of_ne_of_ne
    · exact Fin.ne_of_gt hx
    · exact Fin.ne_of_gt (Nat.lt_of_le_of_lt hj hx)
  · rfl

theorem exchange_mul_self (n i j : Nat) : exchange n i j * exchange n i j = 1 := by
  rw [exchange]
  split_ifs
  · exact Equiv.swap_mul_self _ _
  · rfl

def KeepsBeyond (m : Nat) (π : Equiv.Perm (Fin n)) : Prop := ∀ x : Fin n, m < x → π x = x

theorem keepsBeyond_order {m : Nat} {js : List Nat} (h : js ∈ drawable (m + 1)) :
    KeepsBeyond m (order n js) := by
  intro x hx
  induction m generalizing js with
  | zero =>
    obtain rfl := mem_drawable_one.mp h
    rfl
  | succ m ih =>
    obtain ⟨j, ks, rfl, hj, hks⟩ := exists_of_mem_drawable h
    have hlen : ks.length + 1 = m + 1 := by simpa using hks.1
    rw [order, Equiv.Perm.mul_apply, ih hks (by omega), hlen, exchange_apply_of_lt hj hx]

theorem order_cons_apply {m j : Nat} {js : List Nat} (hj : j ≤ m + 1) (h : js ∈ drawable (m + 1))
    (hm : m + 1 < n) : order n (j :: js) ⟨m + 1, hm⟩ = ⟨j, by omega⟩ := by
  have hlen : js.length + 1 = m + 1 := by simpa using h.1
  rw [order, Equiv.Perm.mul_apply, keepsBeyond_order h _ (Nat.lt_succ_self m), hlen]
  exact exchange_apply_left hm _

theorem order_injOn {m : Nat} (hm : m < n) : Set.InjOn (order n) (drawable (m + 1)) := by
  induction m with
  | zero =>
    intro js hjs ks hks _
    rw [mem_drawable_one.mp hjs, mem_drawable_one.mp hks]
  | succ m ih =>
    intro js hjs ks hks heq
    obtain ⟨j, js', rfl, hj, hjs'⟩ := exists_of_mem_drawable hjs
    obtain ⟨k, ks', rfl, hk, hks'⟩ := exists_of_mem_drawable hks
    have hlast := congrArg (fun π : Equiv.Perm (Fin n) => π ⟨m + 1, hm⟩) heq
    simp only [order_cons_apply hj hjs', order_cons_apply hk hks', Fin.mk.injEq] at hlast
    have hlen : js'.length = ks'.length := hjs'.1.trans hks'.1.symm
    have hrest : order n js' = order n ks' := by
      simp only [order, hlen, hlast] at heq
      exact mul_left_cancel heq
    rw [hlast, ih (by omega) hjs' hks' hrest]

theorem KeepsBeyond.apply_le {m : Nat} {π : Equiv.Perm (Fin n)} (h : KeepsBeyond m π)
    (hm : m < n) : π ⟨m, hm⟩ ≤ m := by
  by_contra hlt
  have hfixed : π ⟨m, hm⟩ = ⟨m, hm⟩ := π.injective (h _ (Nat.lt_of_not_le hlt))
  rw [hfixed] at hlt
  exact hlt (Nat.le_refl m)

theorem KeepsBeyond.eq_one {π : Equiv.Perm (Fin n)} (h : KeepsBeyond 0 π) : π = 1 := by
  ext x
  by_cases hx : 0 < x.val
  · rw [h x hx]
    rfl
  · have hle := h.apply_le (Nat.zero_lt_of_lt x.isLt)
    have hzero : x = ⟨0, Nat.zero_lt_of_lt x.isLt⟩ := Fin.ext (Nat.eq_zero_of_not_pos hx)
    rw [hzero]
    exact Nat.eq_zero_of_le_zero hle

theorem KeepsBeyond.exchange_mul {m : Nat} {π : Equiv.Perm (Fin n)} (h : KeepsBeyond (m + 1) π)
    (hm : m + 1 < n) : KeepsBeyond m (exchange n (m + 1) (π ⟨m + 1, hm⟩) * π) := by
  intro x hx
  rw [Equiv.Perm.mul_apply]
  by_cases hlast : x = ⟨m + 1, hm⟩
  · have hback := congrArg (· ⟨m + 1, hm⟩) (exchange_mul_self n (m + 1) (π ⟨m + 1, hm⟩))
    simp only [Equiv.Perm.mul_apply, exchange_apply_left hm (Fin.isLt _)] at hback
    rw [hlast]
    exact hback
  · have hbeyond : m + 1 < x.val := by
      have hne : x.val ≠ m + 1 := fun heq => hlast (Fin.ext heq)
      omega
    rw [h x hbeyond, exchange_apply_of_lt (h.apply_le hm) hbeyond]

theorem exists_order_eq {m : Nat} (hm : m < n) {π : Equiv.Perm (Fin n)} (h : KeepsBeyond m π) :
    ∃ js ∈ drawable (m + 1), order n js = π := by
  induction m generalizing π with
  | zero => exact ⟨[], mem_drawable_one.mpr rfl, h.eq_one.symm⟩
  | succ m ih =>
    obtain ⟨js, hjs, horder⟩ := ih (by omega) (h.exchange_mul hm)
    have hlen : js.length + 1 = m + 1 := by simpa using hjs.1
    refine ⟨π ⟨m + 1, hm⟩ :: js, cons_mem_drawable.mpr ⟨h.apply_le hm, hjs⟩, ?_⟩
    rw [order, hlen, horder, ← mul_assoc, exchange_mul_self, one_mul]

theorem drawable_zero : drawable 0 = drawable 1 := by
  ext js
  simp [drawable]

theorem drawable_eq (n : Nat) : drawable n = drawable (n - 1 + 1) := by
  cases n with
  | zero => exact drawable_zero
  | succ m => rfl

theorem order_bijOn (n : Nat) : Set.BijOn (order n) (drawable n) Set.univ := by
  cases n with
  | zero =>
    rw [drawable_zero]
    refine ⟨fun _ _ => Set.mem_univ _, ?_, ?_⟩
    · intro js hjs ks hks _
      rw [mem_drawable_one.mp hjs, mem_drawable_one.mp hks]
    · intro π _
      exact ⟨[], mem_drawable_one.mpr rfl, Subsingleton.elim _ _⟩
  | succ m =>
    refine ⟨fun _ _ => Set.mem_univ _, order_injOn (Nat.lt_succ_self m), ?_⟩
    intro π _
    apply exists_order_eq (Nat.lt_succ_self m)
    intro x hx
    omega

theorem ncard_drawable (n : Nat) : (drawable n).ncard = n ! := by
  rw [(order_bijOn n).ncard_eq, Set.ncard_univ, Nat.card_perm, Nat.card_fin]

end Chance.Shuffle
