import Mathlib
import MirrorPool.Library.Grouping

/-!
# Entropy of groups

The Shannon entropy of a list of keys is the mean surprise of its items: an item
whose key occurs {lit}`c` times among {lit}`n` has the surprise {lit}`log n - log c`.
Seen from the items, merging groups lowers every summand, and the bounds of the
entropy are those of the counters.

Main results:

- Theorem {lit}`Entropy.sum_groups_eq`: the sum over the groups is the mean
  surprise of the items.
- Theorem {lit}`Entropy.entropy_add_log_le`: a smallest group leaves less entropy.
- Theorem {lit}`Entropy.entropy_le_log_card`: the entropy is at most that of as
  many groups of one size.
- Theorems {lit}`Entropy.entropy_eq_zero_iff` and
  {lit}`Entropy.entropy_eq_log_iff`: the two extremes.
- Theorem {lit}`Entropy.entropy_le_of_merges`: merging groups does not raise the
  entropy.
-/

namespace Entropy

universe u

variable {κ : Type u} {keys : List κ} {key : κ}

theorem length_pos (hkey : key ∈ keys) : (0 : ℝ) < keys.length :=
  Nat.cast_pos.mpr (List.length_pos_of_mem hkey)

/-- A bound of every summand bounds the mean. -/
theorem mean_le {f : κ → ℝ} {c : ℝ} (hne : keys ≠ []) (hle : ∀ k ∈ keys, f k ≤ c) :
    (keys.map f).sum / keys.length ≤ c := by
  have hpos : (0 : ℝ) < keys.length := Nat.cast_pos.mpr (List.length_pos_iff.mpr hne)
  rw [div_le_iff₀ hpos]
  calc (keys.map f).sum ≤ (keys.map fun _ => c).sum := List.sum_le_sum hle
    _ = c * keys.length := by
      rw [List.map_const', List.sum_replicate, nsmul_eq_mul, mul_comm]

variable [LinearOrder κ]

/-- How much rarer a key is than one that all items have. -/
noncomputable def surprise (keys : List κ) (key : κ) : ℝ :=
  Real.log keys.length - Real.log (keys.count key)

/-- The mean surprise of the items. -/
noncomputable def entropy (keys : List κ) : ℝ :=
  (keys.map (surprise keys)).sum / keys.length

/-! ## Surprise -/

theorem count_pos (hkey : key ∈ keys) : (0 : ℝ) < keys.count key :=
  Nat.cast_pos.mpr (List.count_pos_iff.mpr hkey)

/-- No key surprises by less than nothing. -/
theorem surprise_nonneg (hkey : key ∈ keys) : 0 ≤ surprise keys key := by
  have hle : (keys.count key : ℝ) ≤ keys.length := Nat.cast_le.mpr List.count_le_length
  exact sub_nonneg.mpr (Real.log_le_log (count_pos hkey) hle)

/-- An item of a large group is no great surprise. -/
theorem surprise_add_log_le {k : ℕ} (hk : 0 < k) (hcount : k ≤ keys.count key) :
    surprise keys key + Real.log k ≤ Real.log keys.length := by
  have hlog : Real.log k ≤ Real.log (keys.count key) :=
    Real.log_le_log (Nat.cast_pos.mpr hk) (Nat.cast_le.mpr hcount)
  rw [surprise]
  linarith

/-- A key does not surprise when all keys are the same. -/
theorem surprise_eq_zero_iff (hkey : key ∈ keys) :
    surprise keys key = 0 ↔ keys.count key = keys.length := by
  rw [surprise, sub_eq_zero]
  constructor
  · intro hlog
    have hsame := Real.log_injOn_pos (Set.mem_Ioi.mpr (length_pos hkey))
      (Set.mem_Ioi.mpr (count_pos hkey)) hlog
    exact (Nat.cast_injective hsame).symm
  · intro hcount
    rw [hcount]

/-! ## Bounds -/

/-- Entropy is not negative. -/
theorem entropy_nonneg (keys : List κ) : 0 ≤ entropy keys := by
  apply div_nonneg _ (Nat.cast_nonneg _)
  apply List.sum_nonneg
  intro x hx
  rcases List.mem_map.mp hx with ⟨key, hkey, rfl⟩
  exact surprise_nonneg hkey

/-- Groups of at least some size leave less entropy. -/
theorem entropy_add_log_le {k : ℕ} (hne : keys ≠ []) (hk : 0 < k)
    (hcount : ∀ key ∈ keys, k ≤ keys.count key) :
    entropy keys + Real.log k ≤ Real.log keys.length := by
  have hmean : entropy keys ≤ Real.log keys.length - Real.log k :=
    mean_le hne fun key hkey =>
      le_sub_iff_add_le.mpr (surprise_add_log_le hk (hcount key hkey))
  linarith

/-- The entropy is at most that of different keys. -/
theorem entropy_le_log (hne : keys ≠ []) : entropy keys ≤ Real.log keys.length := by
  have hle := entropy_add_log_le hne Nat.one_pos fun key hkey => List.count_pos_iff.mpr hkey
  rwa [Nat.cast_one, Real.log_one, add_zero] at hle

/-- Every key takes a share of one in the sum over its items. -/
theorem sum_inv_count (keys : List κ) :
    (keys.map fun key => (keys.count key : ℝ)⁻¹).sum = keys.dedup.length := by
  rw [Finset.sum_list_map_count, ← List.card_toFinset, Finset.card_eq_sum_ones, Nat.cast_sum]
  refine Finset.sum_congr rfl fun key hkey => ?_
  have hpos := count_pos (List.mem_toFinset.mp hkey)
  rw [nsmul_eq_mul, mul_inv_cancel₀ hpos.ne', Nat.cast_one]

theorem dedup_length_pos (hne : keys ≠ []) : (0 : ℝ) < keys.dedup.length := by
  rw [Nat.cast_pos, List.length_pos_iff, ne_eq, List.dedup_eq_nil]
  exact hne

/-- The entropy is at most that of as many groups of one size. -/
theorem entropy_le_log_card (hne : keys ≠ []) : entropy keys ≤ Real.log keys.dedup.length := by
  have hlength : (0 : ℝ) < keys.length := Nat.cast_pos.mpr (List.length_pos_iff.mpr hne)
  have hdedup := dedup_length_pos hne
  -- the logarithm of a summand is at most the summand less one
  have hitem : ∀ key ∈ keys, surprise keys key ≤ Real.log keys.dedup.length - 1 +
      keys.length / keys.dedup.length * (keys.count key : ℝ)⁻¹ := by
    intro key hkey
    have hcount := count_pos hkey
    have hlog := Real.log_le_sub_one_of_pos
      (div_pos (div_pos hlength hdedup) hcount)
    rw [Real.log_div (div_pos hlength hdedup).ne' hcount.ne',
      Real.log_div hlength.ne' hdedup.ne', div_eq_mul_inv _ (keys.count key : ℝ)] at hlog
    rw [surprise]
    linarith
  have hsum := List.sum_le_sum hitem
  rw [List.sum_map_add, List.map_const', List.sum_replicate, nsmul_eq_mul, List.sum_map_mul_left,
    sum_inv_count, div_mul_cancel₀ _ hdedup.ne'] at hsum
  rw [entropy, div_le_iff₀ hlength]
  linarith

/-! ## Extremes -/

/-- There is no entropy exactly when all items have one key. -/
theorem entropy_eq_zero_iff (hne : keys ≠ []) :
    entropy keys = 0 ↔ ∀ key ∈ keys, keys.count key = keys.length := by
  have hlength : (keys.length : ℝ) ≠ 0 :=
    Nat.cast_ne_zero.mpr fun h => hne (List.length_eq_zero_iff.mp h)
  rw [entropy, div_eq_zero_iff, or_iff_left hlength]
  constructor
  · intro hsum key hkey
    refine (surprise_eq_zero_iff hkey).mp ?_
    refine List.all_zero_of_le_zero_le_of_sum_eq_zero (fun x hx => ?_) hsum
      (List.mem_map_of_mem hkey)
    rcases List.mem_map.mp hx with ⟨other, hother, rfl⟩
    exact surprise_nonneg hother
  · intro hcount
    apply List.sum_eq_zero
    intro x hx
    rcases List.mem_map.mp hx with ⟨key, hkey, rfl⟩
    exact (surprise_eq_zero_iff hkey).mpr (hcount key hkey)

/-- The entropy is that of as many keys as items exactly when no two items have
one key. -/
theorem entropy_eq_log_iff (hne : keys ≠ []) :
    entropy keys = Real.log keys.length ↔ keys.Nodup := by
  have hlength : (0 : ℝ) < keys.length := Nat.cast_pos.mpr (List.length_pos_iff.mpr hne)
  have hgap : entropy keys = Real.log keys.length ↔
      (keys.map fun key => Real.log (keys.count key)).sum = 0 := by
    have hboth : (keys.map (surprise keys)).sum +
        (keys.map fun key => Real.log (keys.count key)).sum =
          Real.log keys.length * keys.length := by
      rw [← List.sum_map_add]
      simp only [surprise, sub_add_cancel]
      rw [List.map_const', List.sum_replicate, nsmul_eq_mul, mul_comm]
    rw [entropy, div_eq_iff hlength.ne', ← hboth, left_eq_add]
  rw [hgap, List.nodup_iff_count_eq_one]
  constructor
  · intro hsum key hkey
    have hzero : Real.log (keys.count key) = 0 := by
      refine List.all_zero_of_le_zero_le_of_sum_eq_zero (fun x hx => ?_) hsum
        (List.mem_map_of_mem (f := fun key => Real.log (keys.count key)) hkey)
      rcases List.mem_map.mp hx with ⟨other, hother, rfl⟩
      exact Real.log_natCast_nonneg _
    exact_mod_cast Real.eq_one_of_pos_of_log_eq_zero (count_pos hkey) hzero
  · intro hcount
    apply List.sum_eq_zero
    intro x hx
    rcases List.mem_map.mp hx with ⟨key, hkey, rfl⟩
    rw [hcount key hkey, Nat.cast_one, Real.log_one]

/-! ## Groups -/

/-- The sum over the groups is the mean surprise of the items. -/
theorem sum_groups_eq {groups : List (κ × ℕ)} (hcounts : Grouping.Counts groups keys) :
    (groups.map fun g => -((g.2 : ℝ) / keys.length * Real.log ((g.2 : ℝ) / keys.length))).sum =
      entropy keys := by
  let share (key : κ) : ℝ :=
    -((keys.count key : ℝ) / keys.length * Real.log ((keys.count key : ℝ) / keys.length))
  have hgroups : (groups.map fun g =>
      -((g.2 : ℝ) / keys.length * Real.log ((g.2 : ℝ) / keys.length))) =
        (groups.map Prod.fst).map share := by
    rw [List.map_map]
    refine List.map_congr_left fun g hg => ?_
    rw [Function.comp_apply, (hcounts.mem_iff.mp hg).2]
  have hkeys : keys.dedup.toFinset = keys.toFinset := by
    ext key
    rw [List.mem_toFinset, List.mem_toFinset, List.mem_dedup]
  rw [hgroups, (hcounts.map_fst_perm.map share).sum_eq,
    ← List.sum_toFinset share keys.nodup_dedup, hkeys, entropy, Finset.sum_list_map_count,
    Finset.sum_div]
  refine Finset.sum_congr rfl fun key hkey => ?_
  have hcount := count_pos (List.mem_toFinset.mp hkey)
  have hlength := length_pos (List.mem_toFinset.mp hkey)
  show -(_ * Real.log _) = _
  rw [Real.log_div hcount.ne' hlength.ne', nsmul_eq_mul, surprise]
  ring

section Merging

variable {κ' : Type u} [LinearOrder κ'] {pairs : List (κ × κ')}

/-- Merging groups does not raise the entropy. -/
theorem entropy_le_of_merges (hmerges : Grouping.Merges pairs) :
    entropy (pairs.map Prod.snd) ≤ entropy (pairs.map Prod.fst) := by
  simp only [entropy, List.map_map, List.length_map]
  apply div_le_div_of_nonneg_right _ (Nat.cast_nonneg _)
  apply List.sum_le_sum
  intro x hx
  have hcount : (0 : ℝ) < (pairs.map Prod.fst).count x.1 := count_pos (List.mem_map_of_mem hx)
  have hlog := Real.log_le_log hcount (Nat.cast_le.mpr (hmerges.count_le hx))
  simp only [Function.comp_apply, surprise, List.length_map]
  linarith

end Merging

end Entropy
