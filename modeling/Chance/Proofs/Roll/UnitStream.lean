import Chance.Sampler

namespace Chance.Sampler

variable {σ : Type} [Sampler σ]

def after : Nat → σ → σ
  | 0, s => s
  | n + 1, s => after n (unit s).2

def stream (s : σ) (k : Nat) : Binary64 := (unit (after k s)).1

theorem after_after (m n : Nat) (s : σ) : after n (after m s) = after (m + n) s := by
  induction m generalizing s with
  | zero => rw [Nat.zero_add, after]
  | succ m ih => rw [Nat.succ_add, after, after, ih]

theorem stream_after (m : Nat) (s : σ) : stream (after m s) = fun k => stream s (m + k) := by
  funext k
  rw [stream, stream, after_after]

theorem units_eq (n : Nat) (s : σ) : units n s = ((List.range n).map (stream s), after n s) := by
  induction n generalizing s with
  | zero => rfl
  | succ n ih =>
    have htail : stream (unit s).2 = fun k => stream s (k + 1) := by
      funext k
      rfl
    simp only [units, ih, htail, List.range_succ_eq_map, List.map_cons, List.map_map]
    rfl

theorem after_counted (n : Nat) (s : Counted σ) :
    after n s = ⟨after n s.source, s.draws + n⟩ := by
  induction n generalizing s with
  | zero => rfl
  | succ n ih =>
    have hunit : (unit s).2 = ⟨(unit s.source).2, s.draws + 1⟩ := rfl
    rw [after, hunit, ih, Nat.add_assoc, Nat.add_comm 1]
    rfl

theorem stream_counted (s : Counted σ) : stream s = stream s.source := by
  funext k
  rw [stream, after_counted]
  rfl

theorem stream_of_unit_eq {s : σ} {u : Binary64} (h : unit s = (u, s)) (k : Nat) :
    stream s k = u := by
  have hafter : after k s = s := by
    induction k with
    | zero => rfl
    | succ k ih => rw [after, h, ih]
  rw [stream, hafter, h]

theorem stream_repeating (u : Binary64) (k : Nat) :
    stream (⟨⟨u, []⟩, []⟩ : Script Binary64) k = u :=
  stream_of_unit_eq rfl k

theorem unit_ofValues (u : Binary64) (us : List Binary64) :
    (unit (Script.ofValues ⟨u, us⟩)).1 = u := rfl

theorem stream_script {s : Script Binary64} {k : Nat} {u : Binary64}
    (h : s.pending[k]? = some u) : stream s k = u := by
  induction k generalizing s with
  | zero =>
    obtain ⟨values, _ | ⟨v, vs⟩⟩ := s
    · simp at h
    · exact Option.some.inj h
  | succ k ih =>
    obtain ⟨values, _ | ⟨v, vs⟩⟩ := s
    · simp at h
    · exact ih (s := ⟨values, vs⟩) h

theorem stream_script_mem {s : Script Binary64} (h : s.pending ⊆ s.values.toList) (k : Nat) :
    stream s k ∈ s.values.toList := by
  induction k generalizing s with
  | zero =>
    obtain ⟨values, _ | ⟨v, vs⟩⟩ := s
    · exact List.mem_cons_self
    · exact h List.mem_cons_self
  | succ k ih =>
    obtain ⟨values, _ | ⟨v, vs⟩⟩ := s
    · exact ih (s := ⟨values, values.tail⟩) (List.subset_cons_self _ _)
    · exact ih (s := ⟨values, vs⟩) (List.subset_of_cons_subset h)

theorem exists_script_on_grid {ks : Nat → Nat} (hks : ∀ i, ks i < Binary64.twoPow 53) (n : Nat) :
    ∃ s : Script Binary64, (∀ i, ∃ k < Binary64.twoPow 53, stream s i = .grid k) ∧
      ∀ i < n, stream s i = .grid (ks i) := by
  let values : NonemptyList Binary64 :=
    ⟨.grid (ks 0), (List.range n).map fun i => .grid (ks (i + 1))⟩
  have hvalues : values.toList = (List.range (n + 1)).map fun i => .grid (ks i) := by
    simp only [values, NonemptyList.toList, List.range_succ_eq_map, List.map_cons, List.map_map,
      Function.comp_def]
  refine ⟨.ofValues values, ?_, ?_⟩
  · intro i
    have hmem := stream_script_mem (s := .ofValues values) (List.Subset.refl _) i
    obtain ⟨j, -, hj⟩ := List.mem_map.mp (hvalues ▸ hmem)
    exact ⟨ks j, hks j, hj.symm⟩
  · intro i hi
    apply stream_script
    have hrange : i < n + 1 := Nat.lt_succ_of_lt hi
    change values.toList[i]? = _
    rw [hvalues, List.getElem?_map, List.getElem?_range hrange]
    rfl

theorem length_units (n : Nat) (s : σ) : (units n s).1.length = n := by
  simp [units_eq]

end Chance.Sampler
