import Mathlib.Algebra.BigOperators.Group.List.Basic
import Mathlib.Algebra.Order.BigOperators.Group.List
import Mathlib.Algebra.Order.Field.Basic
import Mathlib.Data.List.ProdSigma
import Mathlib.Data.Multiset.Bind
import Mathlib.Tactic.NormNum

/-!
# Rank statistics

The rank statistic of two lists is the share of pairs in which the first score is
the larger one, where a pair of close scores counts one half.  The comparison is
made before the test for closeness, so that a close pair counts one half only
when its first score is not the larger one.

Main results:

- Theorems {lit}`statistic_nonneg` and {lit}`statistic_le_one`: the statistic is
  a share.
- Theorem {lit}`statistic_add_swap`: the statistics of two lists in both orders
  add up to one and the share of the pairs that count in both.
- Theorem {lit}`statistic_swap_iff`: they add up to one exactly when no two
  different scores are close.
-/

namespace RankStatistic

universe u v

variable {α : Type u} {K : Type v} [Field K] [LinearOrder K] [IsStrictOrderedRing K]

/-- A sum over all pairs. -/
def total (f : α → α → K) (xs ys : List α) : K :=
  ((xs ×ˢ ys).map fun pair => f pair.1 pair.2).sum

/-- What a pair of scores counts. -/
def credit (ε x y : K) : K :=
  if y < x then 1 else if |x - y| < ε then 1 / 2 else 0

/-- What a pair counts in both orders together, beyond one. -/
def excess (ε x y : K) : K :=
  if x ≠ y ∧ |x - y| < ε then 1 / 2 else 0

/-- The share of pairs that the first list wins. -/
def statistic (ε : K) (score : α → K) (xs ys : List α) : K :=
  total (fun x y => credit ε (score x) (score y)) xs ys / (xs.length * ys.length : Nat)

/-! ## Sums over pairs -/

section Sums

variable {f g : α → α → K} {xs ys : List α}

omit [LinearOrder K] [IsStrictOrderedRing K] in
/-- The sum over the pairs in order. -/
theorem total_eq (f : α → α → K) (xs ys : List α) :
    total f xs ys = (xs.flatMap fun x => ys.map fun y => f x y).sum := by
  have hpairs : (xs ×ˢ ys : List (α × α)) = xs.flatMap fun x => ys.map (Prod.mk x) := rfl
  rw [total, hpairs, List.map_flatMap]
  simp only [List.map_map, Function.comp_def]

omit [LinearOrder K] [IsStrictOrderedRing K] in
/-- The sum of two terms. -/
theorem total_add (f g : α → α → K) (xs ys : List α) :
    total (fun x y => f x y + g x y) xs ys = total f xs ys + total g xs ys :=
  List.sum_map_add

omit [LinearOrder K] [IsStrictOrderedRing K] in
/-- A map of the items goes into the terms. -/
theorem total_map (f : α → α → K) (g : α → α) (xs ys : List α) :
    total f (xs.map g) (ys.map g) = total (fun x y => f (g x) (g y)) xs ys := by
  simp only [total_eq, List.flatMap_map, List.map_map, Function.comp_def]

omit [LinearOrder K] [IsStrictOrderedRing K] in
/-- The pairs may be taken in the other order. -/
theorem total_swap (f : α → α → K) (xs ys : List α) :
    total f ys xs = total (fun x y => f y x) xs ys := by
  have hpairs : (ys ×ˢ xs : List (α × α)).Perm ((xs ×ˢ ys).map Prod.swap) := by
    rw [← Multiset.coe_eq_coe, ← Multiset.map_coe, ← Multiset.coe_product,
      ← Multiset.coe_product, Multiset.map_swap_product]
  unfold total
  rw [(hpairs.map _).sum_eq, List.map_map]
  rfl

/-- A sum of terms that are not negative is not negative. -/
theorem total_nonneg (hf : ∀ x y, 0 ≤ f x y) : 0 ≤ total f xs ys := by
  refine List.sum_nonneg ?_
  simp only [List.forall_mem_map]
  exact fun pair _ => hf pair.1 pair.2

/-- A sum of terms that are at most one is at most the number of pairs. -/
theorem total_le (hf : ∀ x y, f x y ≤ 1) : total f xs ys ≤ (xs.length * ys.length : Nat) := by
  have hle : total f xs ys ≤ ((xs ×ˢ ys).map fun pair => f pair.1 pair.2).length • (1 : K) := by
    refine List.sum_le_card_nsmul _ 1 ?_
    simp only [List.forall_mem_map]
    exact fun pair _ => hf pair.1 pair.2
  rwa [List.length_map, List.length_product, nsmul_one] at hle

omit [LinearOrder K] [IsStrictOrderedRing K] in
/-- Counting one for each pair counts the pairs. -/
theorem total_one (xs ys : List α) :
    total (fun _ _ => (1 : K)) xs ys = (xs.length * ys.length : Nat) := by
  rw [total, List.map_const', List.sum_replicate, List.length_product, nsmul_one]

/-- A sum of terms that are not negative vanishes when each of them does. -/
theorem total_eq_zero_iff (hf : ∀ x y, 0 ≤ f x y) :
    total f xs ys = 0 ↔ ∀ x ∈ xs, ∀ y ∈ ys, f x y = 0 := by
  have hterms : ∀ term ∈ (xs ×ˢ ys).map fun pair => f pair.1 pair.2, 0 ≤ term := by
    simp only [List.forall_mem_map]
    exact fun pair _ => hf pair.1 pair.2
  constructor
  · intro hzero x hx y hy
    have hmem : f x y ∈ (xs ×ˢ ys).map fun pair => f pair.1 pair.2 :=
      List.mem_map.mpr ⟨(x, y), List.mem_product.mpr ⟨hx, hy⟩, rfl⟩
    exact List.all_zero_of_le_zero_le_of_sum_eq_zero hterms hzero hmem
  · intro hall
    refine List.sum_eq_zero ?_
    rintro term hterm
    rcases List.mem_map.mp hterm with ⟨⟨x, y⟩, hpair, rfl⟩
    rcases List.mem_product.mp hpair with ⟨hx, hy⟩
    exact hall x hx y hy

end Sums

/-! ## Pairs -/

section Pairs

variable {ε x y : K}

/-- A pair never counts less than zero. -/
theorem credit_nonneg (ε x y : K) : 0 ≤ credit ε x y := by
  unfold credit
  split
  · exact zero_le_one
  · split <;> norm_num

/-- A pair never counts more than one. -/
theorem credit_le_one (ε x y : K) : credit ε x y ≤ 1 := by
  unfold credit
  split
  · exact le_refl 1
  · split <;> norm_num

/-- The excess of a pair is not negative. -/
theorem excess_nonneg (ε x y : K) : 0 ≤ excess ε x y := by
  unfold excess
  split <;> norm_num

/-- There is no excess unless the scores are close and different. -/
theorem excess_eq_zero_iff : excess ε x y = 0 ↔ x ≠ y → ε ≤ |x - y| := by
  unfold excess
  split
  · rename_i hclose
    simp [hclose.1, hclose.2]
  · rename_i hfar
    simp only [true_iff]
    exact fun hne => not_lt.mp fun hlt => hfar ⟨hne, hlt⟩

/-- A tie counts one half. -/
theorem credit_self (hε : 0 < ε) : credit ε x x = 1 / 2 := by
  rw [credit, if_neg (lt_irrefl x), sub_self, abs_zero, if_pos hε]

/-- A pair counts one in both orders together, and one half more when its scores
are close and different. -/
theorem credit_add_credit (hε : 0 < ε) (x y : K) :
    credit ε x y + credit ε y x = 1 + excess ε x y := by
  rcases lt_trichotomy x y with hlt | rfl | hgt
  · rw [credit, credit, excess, if_neg (not_lt.mpr hlt.le), if_pos hlt]
    simp only [ne_eq, hlt.ne, not_false_eq_true, true_and]
    exact add_comm _ _
  · rw [credit_self hε, excess, if_neg (fun h => h.1 rfl)]
    norm_num
  · rw [credit, credit, excess, if_pos hgt, if_neg (not_lt.mpr hgt.le), abs_sub_comm y x]
    simp only [ne_eq, hgt.ne', not_false_eq_true, true_and]

/-- When no two different scores are close, close scores count one half. -/
theorem credit_of_close (hε : 0 < ε) (hapart : x ≠ y → ε ≤ |x - y|) (hclose : |x - y| < ε) :
    credit ε x y = 1 / 2 := by
  by_cases hne : x = y
  · rw [hne, credit_self hε]
  · exact absurd hclose (not_lt.mpr (hapart hne))

end Pairs

/-! ## The statistic -/

section Statistic

variable {ε : K} {score : α → K} {xs ys : List α}

/-- The statistic is not negative. -/
theorem statistic_nonneg (ε : K) (score : α → K) (xs ys : List α) :
    0 ≤ statistic ε score xs ys :=
  div_nonneg (total_nonneg fun x y => credit_nonneg ε (score x) (score y)) (Nat.cast_nonneg _)

/-- The statistic is at most one. -/
theorem statistic_le_one (ε : K) (score : α → K) (xs ys : List α) :
    statistic ε score xs ys ≤ 1 :=
  div_le_one_of_le₀ (total_le fun x y => credit_le_one ε (score x) (score y)) (Nat.cast_nonneg _)

omit [IsStrictOrderedRing K] in
/-- Only the scores matter. -/
theorem statistic_map (ε : K) (g : α → α) (hscore : ∀ x, score (g x) = score x) (xs ys : List α) :
    statistic ε score (xs.map g) (ys.map g) = statistic ε score xs ys := by
  simp only [statistic, total_map, hscore, List.length_map]

omit [LinearOrder K] in
/-- Items on both sides make pairs. -/
theorem pairs_ne_zero [CharZero K] (hxs : xs ≠ []) (hys : ys ≠ []) :
    ((xs.length * ys.length : Nat) : K) ≠ 0 := by
  rw [Nat.cast_ne_zero, Nat.mul_ne_zero_iff]
  exact ⟨mt List.length_eq_zero_iff.mp hxs, mt List.length_eq_zero_iff.mp hys⟩

/-- The statistics in both orders add up to one and the excess of the pairs. -/
theorem statistic_add_swap (hε : 0 < ε) (hxs : xs ≠ []) (hys : ys ≠ []) :
    statistic ε score xs ys + statistic ε score ys xs =
      1 + total (fun x y => excess ε (score x) (score y)) xs ys /
        (xs.length * ys.length : Nat) := by
  have hpairs : ((xs.length * ys.length : Nat) : K) ≠ 0 := pairs_ne_zero hxs hys
  have hboth : total (fun x y => credit ε (score x) (score y)) xs ys +
      total (fun x y => credit ε (score x) (score y)) ys xs =
        (xs.length * ys.length : Nat) +
          total (fun x y => excess ε (score x) (score y)) xs ys := by
    rw [total_swap _ xs ys, ← total_add, ← total_one xs ys, ← total_add]
    simp only [credit_add_credit hε]
  rw [statistic, statistic, Nat.mul_comm ys.length, ← add_div, hboth, add_div, div_self hpairs]

/-- The statistics in both orders add up to one exactly when no two different
scores are close. -/
theorem statistic_swap_iff (hε : 0 < ε) (hxs : xs ≠ []) (hys : ys ≠ []) :
    statistic ε score ys xs = 1 - statistic ε score xs ys ↔
      ∀ x ∈ xs, ∀ y ∈ ys, score x ≠ score y → ε ≤ |score x - score y| := by
  have hpairs : ((xs.length * ys.length : Nat) : K) ≠ 0 := pairs_ne_zero hxs hys
  rw [eq_sub_iff_add_eq', statistic_add_swap hε hxs hys, add_eq_left, div_eq_zero_iff,
    or_iff_left hpairs, total_eq_zero_iff fun x y => excess_nonneg ε (score x) (score y)]
  simp only [excess_eq_zero_iff]

end Statistic

end RankStatistic
