import Chance.Proofs.Roll.Overflow

namespace Chance

open Binary64 Sampler

theorem exists_sum_facesOn_eq (ss : List Positive) {total : Nat} (hlow : ss.length ≤ total)
    (hhigh : total ≤ (ss.map Positive.value).sum) :
    ∃ ks : Nat → Nat, (∀ i, ks i < twoPow 53) ∧ (facesOn ss fun i => grid (ks i)).sum = total := by
  induction ss generalizing total with
  | nil =>
    obtain rfl : total = 0 := Nat.eq_zero_of_le_zero hhigh
    exact ⟨fun _ => 0, fun _ => twoPow_pos 53, rfl⟩
  | cons n ss ih =>
    rw [List.length_cons] at hlow
    rw [List.map_cons, List.sum_cons] at hhigh
    have hpos := n.pos
    -- The first die shows as much as it can while each of the others still shows one.
    obtain ⟨face, hface⟩ : ∃ face, face = min n.value (total - ss.length) := ⟨_, rfl⟩
    obtain ⟨k, hk, hroll⟩ :=
      Draw.exists_faceOf_grid_eq n (show 1 ≤ face by omega) (show face ≤ n.value by omega)
    have hrest : ss.length ≤ (ss.map Positive.value).sum :=
      Nat.le_trans (length_le_sum_facesOn ss fun _ => zero) (sum_facesOn_le ss _)
    obtain ⟨ks, hks, hsum⟩ := ih (show ss.length ≤ total - face by omega) (by omega)
    refine ⟨fun i => i.casesOn k ks, ?_, ?_⟩
    · intro i
      cases i with
      | zero => exact hk
      | succ i => exact hks i
    · rw [facesOn_cons, List.sum_cons]
      change Draw.faceOf n (grid k) + (facesOn ss fun i => grid (ks i)).sum = total
      rw [hroll, hsum]
      omega

namespace Expression

variable {σ : Type} [Sampler σ]

def RollsTo (e : Expression) (s : σ) (total : Int) : Prop :=
  ∃ r, (e.roll none s).answer = .ok r ∧ r.total = total

theorem rollsTo_totalOn {e : Expression} (h : e.highest ≤ Total.limit) (s : σ) :
    e.RollsTo s (e.totalOn (stream s)) := by
  have hfit := Nat.le_trans (e.totalOn_le_highest (stream s)) h
  refine ⟨e.rollOn (stream s), ?_, rfl⟩
  rw [roll_of_admitted e.admitted_none s hfit]

theorem lowest_le_highest (e : Expression) : e.lowest ≤ e.highest :=
  Nat.le_trans (e.lowest_le_totalOn fun _ => zero) (e.totalOn_le_highest _)

theorem exists_totalOn_eq {e : Expression} {total : Nat} (hlow : e.lowest ≤ total)
    (hhigh : total ≤ e.highest) :
    ∃ ks : Nat → Nat, (∀ i, ks i < twoPow 53) ∧ e.totalOn (fun i => grid (ks i)) = total := by
  rw [lowest, ← length_sides] at hlow
  rw [highest] at hhigh
  generalize hfixed : (e.terms.toList.map Term.fixed).sum = fixed at hlow hhigh
  obtain ⟨ks, hks, hsum⟩ := exists_sum_facesOn_eq e.sides
    (show e.sides.length ≤ total - fixed by omega) (by omega)
  refine ⟨ks, hks, ?_⟩
  rw [totalOn, hsum, hfixed]
  omega

theorem totalOn_eq_lowest {us : Nat → Binary64}
    (h : ∀ (n : Positive) (k : Nat), Draw.faceOf n (us k) = 1) (e : Expression) :
    e.totalOn us = e.lowest := by
  rw [totalOn, facesOn_eq_map h, lowest, ← length_sides, List.map_const', List.sum_replicate_nat,
    Nat.mul_one]

theorem every_total_rolled (e : Expression) (h : e.highest ≤ Total.limit) :
    (∀ total : Int, e.minTotal ≤ total → total ≤ e.maxTotal →
      ∃ s : Script Binary64, (∀ i, ∃ k < twoPow 53, stream s i = grid k) ∧ e.RollsTo s total) ∧
    (∀ (σ : Type) (_ : Sampler σ) (s : σ),
      ((∀ i, stream s i = grid 0) → e.RollsTo s e.minTotal) ∧
      ((∀ i, stream s i = grid (twoPow 53 - 1)) → e.RollsTo s e.maxTotal)) := by
  have hmin : e.minTotal = e.lowest :=
    e.minTotal_eq.trans (Nat.min_eq_left (Nat.le_trans e.lowest_le_highest h))
  have hmax : e.maxTotal = e.highest := e.maxTotal_eq.trans (Nat.min_eq_left h)
  rw [hmin, hmax]
  constructor
  · intro total hlow hhigh
    obtain ⟨n, rfl⟩ : ∃ n : Nat, total = n := ⟨total.toNat, by omega⟩
    obtain ⟨ks, hks, htotal⟩ := exists_totalOn_eq (by omega) (show n ≤ e.highest by omega)
    obtain ⟨s, hgrid, hstream⟩ := exists_script_on_grid hks e.diceCount
    refine ⟨s, hgrid, ?_⟩
    have hrolls := rollsTo_totalOn h s
    rwa [totalOn_congr hstream, htotal] at hrolls
  · intro σ _ s
    constructor
    · intro hzero
      have hrolls := rollsTo_totalOn h s
      rwa [totalOn_eq_lowest fun n k => by rw [hzero, Draw.faceOf_grid_zero]] at hrolls
    · intro hlast
      have hrolls := rollsTo_totalOn h s
      rwa [totalOn_eq_highest fun n k => by rw [hlast, Draw.faceOf_grid_last]] at hrolls

theorem every_total_rolled_with_uneven_dice :
    let pair : Dice := ⟨⟨2, by decide, by decide⟩, ⟨6, by decide, by decide⟩⟩
    let large : Dice := ⟨.one, ⟨4294967295, by decide, by decide⟩⟩
    let e : Expression := ⟨⟨.dice pair, [.dice large, .constant 5]⟩⟩
    let same (u : Binary64) : Script Binary64 := ⟨⟨u, []⟩, []⟩
    e.highest ≤ Total.limit ∧
    (∃ s : Script Binary64,
      (∀ i, ∃ k < twoPow 53, stream s i = grid k) ∧ e.RollsTo s 3000000007) ∧
    e.RollsTo (same (grid 0)) 8 ∧ e.RollsTo (same (grid (twoPow 53 - 1))) 4294967312 := by
  intro pair large e same
  have hsame (u : Binary64) (i : Nat) : stream (same u) i = u := stream_of_unit_eq rfl i
  have hfits : e.highest ≤ Total.limit := by decide +kernel
  have hmin : e.minTotal = 8 := by decide +kernel
  have hmax : e.maxTotal = 4294967312 := by decide +kernel
  obtain ⟨rolled, extremes⟩ := every_total_rolled e hfits
  rw [hmin, hmax] at rolled extremes
  refine ⟨hfits, rolled 3000000007 (by decide) (by decide), ?_, ?_⟩
  · exact (extremes _ _ (same (grid 0))).1 (hsame _)
  · exact (extremes _ _ (same (grid (twoPow 53 - 1)))).2 (hsame _)

end Expression

end Chance
