import Chance.Call
import Chance.Proofs.Shuffle.Order

namespace Chance.Shuffle

open Sampler

variable {α β σ : Type}

def rearrange? : List Nat → Array α → Option (Array α)
  | [], items => some items
  | j :: js, items =>
    if h : js.length + 1 < items.size ∧ j < items.size then
      rearrange? js (items.swap (js.length + 1) j h.1 h.2)
    else none

theorem rearrange?_of_lt {m : Nat} {js : List Nat} (h : js ∈ drawable (m + 1)) {items : Array α}
    (hm : m < items.size) : rearrange? js items = some (rearrange js items) := by
  induction m generalizing js items with
  | zero =>
    obtain rfl := mem_drawable_one.mp h
    rfl
  | succ m ih =>
    obtain ⟨j, ks, rfl, hj, hks⟩ := exists_of_mem_drawable h
    have hlen : ks.length + 1 = m + 1 := by simpa using hks.1
    have hplaces : ks.length + 1 < items.size ∧ j < items.size := by omega
    have hswap : items.swapIfInBounds (ks.length + 1) j =
        items.swap (ks.length + 1) j hplaces.1 hplaces.2 := by
      rw [Array.swapIfInBounds_def, dif_pos hplaces.1, dif_pos hplaces.2]
    rw [rearrange?, dif_pos hplaces, rearrange, hswap]
    apply ih hks
    rw [Array.size_swap]
    omega

theorem rearrange?_of_drawable {js : List Nat} {items : Array α} (h : js ∈ drawable items.size) :
    rearrange? js items = some (rearrange js items) := by
  cases hsize : items.size with
  | zero =>
    rw [hsize, drawable_zero] at h
    obtain rfl := mem_drawable_one.mp h
    rfl
  | succ m =>
    rw [hsize] at h
    exact rearrange?_of_lt h (by omega)

def arrangement (n : Nat) (us : Fin (n - 1) → Binary64) : Equiv.Perm (Fin n) :=
  order n (indices (List.ofFn us))

theorem exists_eq_ofFn (items : List α) : ∃ n, ∃ f : Fin n → α, items = List.ofFn f :=
  ⟨_, items.get, (List.ofFn_get items).symm⟩

variable [Sampler σ]

theorem order_places (n : Nat) (s : σ) :
    order n (places n s) = arrangement n fun k => stream s k := by
  have hunits : (List.range (n - 1)).map (stream s) =
      List.ofFn fun k : Fin (n - 1) => stream s k := by
    apply List.ext_getElem
    · simp
    · intro k _ _
      simp
  rw [places, units_eq, hunits, arrangement]

theorem run_eq (items : List α) (s : σ) :
    (run items s).1 =
      List.ofFn (items.get ∘ arrangement items.length fun k => stream s k) := by
  have h := run_ofFn items.get s
  rwa [List.ofFn_get, order_places] at h

theorem run_perm (items : List α) (s : σ) : (run items s).1.Perm items := by
  obtain ⟨n, f, rfl⟩ := exists_eq_ofFn items
  rw [run_ofFn]
  exact Equiv.Perm.ofFn_comp_perm _ f

theorem run_map (f : α → β) (items : List α) (s : σ) :
    (run (items.map f) s).1 = (run items s).1.map f := by
  obtain ⟨n, g, rfl⟩ := exists_eq_ofFn items
  rw [List.map_ofFn, run_ofFn, run_ofFn, List.map_ofFn]
  rfl

theorem shuffle_moves_places_only {σ : Type} [Sampler σ] (r : Random σ) {α : Type}
    (items : List α) :
    (r.shuffle items).1 =
      List.ofFn (items.get ∘ arrangement items.length fun k => stream r.sampler k) ∧
    rearrange? (places items.length r.sampler) items.toArray =
      some (r.shuffle items).1.toArray ∧
    (r.shuffle items).1.Perm items ∧
    (∀ (β : Type) (f : α → β), (r.shuffle (items.map f)).1 = (r.shuffle items).1.map f) ∧
    ((Call.shuffle items).run r).answer = .ok (.items (r.shuffle items).1) ∧
    ((Call.shuffled items).run r).answer = .ok (.copy (r.shuffle items).1 items) := by
  refine ⟨run_eq items r.sampler, ?_, run_perm items r.sampler, ?_, rfl, rfl⟩
  · exact rearrange?_of_drawable (places_mem_drawable items.length r.sampler)
  · intro β f
    exact run_map f items r.sampler

end Chance.Shuffle
