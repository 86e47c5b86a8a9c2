import MirrorPool.Library.Entropy
import MirrorPool.Simulator.Ablation
import MirrorPool.Simulator.WindowBounds

/-!
# What the metrics say

In exact arithmetic the metrics of a list of observations fit together: rates lie
between zero and one, the harmonic mean lies between its two sides, and the
percentiles are ordered.  The effective set is that of the fingerprints, not that
of the participants behind them: it is largest when every participant can be told
from every other one.

Main results:

- Definition {lit}`Simulator.realFloat`: the operations of the simulator on real
  numbers.
- Theorem {lit}`Simulator.metrics_coherent`: the metrics are there and fit
  together.
- Theorem {lit}`Simulator.effective_set_measures_distinction`: the two extremes of
  the effective set, and its product with the smallest group.
- Theorem {lit}`Simulator.ablation_lowers_entropy`: fewer features leave no larger
  effective set.
-/

namespace MirrorPool

open Fallible Sessions

namespace Simulator

/-! ## Exact arithmetic -/

/-- Real numbers in place of doubles.  The metrics do not print numbers.  Bounds
that hold here may fail in doubles by a rounding: there, the normalized entropy of
five different fingerprints is just above one. -/
noncomputable def realFloat : Float64 ℝ where
  ofRat x := x
  ofNat n := n
  add := (· + ·)
  sub := (· - ·)
  mul := (· * ·)
  div := (· / ·)
  abs x := |x|
  ln := Real.log
  exp := Real.exp
  lt x y := decide (x < y)
  le x y := decide (x ≤ y)
  roundToIndex x := (round x).toNat
  json _ := []

/-- A rate lies between zero and one. -/
theorem ratio_mem_unit {a b : ℝ} (ha : 0 ≤ a) (hab : a ≤ b) :
    ratio realFloat a b ∈ Set.Icc (0 : ℝ) 1 := by
  unfold ratio
  split
  · exact ⟨div_nonneg ha (ha.trans hab), div_le_one_of_le₀ hab (ha.trans hab)⟩
  · simp [realFloat]

/-- Dividing by zero gives zero, so a rate is a quotient. -/
theorem ratio_realFloat {a b : ℝ} (hb : 0 ≤ b) : ratio realFloat a b = a / b := by
  unfold ratio
  split
  · rfl
  · rename_i hlt
    have hzero : b = 0 := le_antisymm (not_lt.mp (by simpa [realFloat] using hlt)) hb
    simp [realFloat, hzero]

/-! ## Confusion and areas -/

section Rates

variable {obs : List (Observation ℝ)}

/-- No number of the confusion is negative. -/
structure Confusion.Nonneg (c : Confusion ℝ) : Prop where
  tp : 0 ≤ c.tp
  fp : 0 ≤ c.fp
  tn : 0 ≤ c.tn
  fn : 0 ≤ c.fn

theorem confusion_nonneg (obs : List (Observation ℝ)) (threshold : ℝ) :
    (confusion realFloat obs threshold).Nonneg := by
  have hone {x : ℝ} (hx : 0 ≤ x) : 0 ≤ realFloat.add x (realFloat.ofRat 1) :=
    add_nonneg hx (by simp [realFloat])
  induction obs using List.reverseRecOn with
  | nil => constructor <;> simp [confusion, realFloat]
  | append_singleton obs o ih =>
      rcases ih with ⟨htp, hfp, htn, hfn⟩
      rw [confusion, List.foldl_append, List.foldl_cons, List.foldl_nil, ← confusion]
      rcases realFloat.le threshold o.score with - | - <;> rcases o.trueLink with - | -
      · exact ⟨htp, hfp, hone htn, hfn⟩
      · exact ⟨htp, hfp, htn, hone hfn⟩
      · exact ⟨htp, hone hfp, htn, hfn⟩
      · exact ⟨hone htp, hfp, htn, hfn⟩

/-- A pair wins at most one. -/
theorem pairWin_mem_unit (p n : Observation ℝ) : pairWin realFloat p n ∈ Set.Icc (0 : ℝ) 1 := by
  unfold pairWin
  split
  · simp [realFloat]
  · split
    · constructor <;> norm_num [realFloat]
    · simp [realFloat]

/-- The area lies between zero and one. -/
theorem auc_mem_unit (obs : List (Observation ℝ)) : auc realFloat obs ∈ Set.Icc (0 : ℝ) 1 := by
  let positives := obs.filter (·.trueLink)
  let negatives := obs.filter (!·.trueLink)
  let wins := positives.flatMap fun p => negatives.map fun n => pairWin realFloat p n
  by_cases hempty : positives = [] ∨ negatives = []
  · have hauc : auc realFloat obs = realFloat.ofRat (1 / 2) := if_pos hempty
    rw [hauc]
    constructor <;> norm_num [realFloat]
  · have hauc : auc realFloat obs = realFloat.div (wins.foldl realFloat.add (realFloat.ofRat 0))
        (realFloat.ofNat (positives.length * negatives.length)) := if_neg hempty
    have hfold : wins.foldl realFloat.add (realFloat.ofRat 0) = wins.sum := by
      rw [List.sum_eq_foldl]
      simp only [realFloat, Rat.cast_zero]
    have hunit : ∀ win ∈ wins, 0 ≤ win ∧ win ≤ 1 := by
      intro win hwin
      simp only [wins, List.mem_flatMap, List.mem_map] at hwin
      rcases hwin with ⟨p, -, n, -, rfl⟩
      exact pairWin_mem_unit p n
    have hlength : wins.length = positives.length * negatives.length := by
      simp [wins, List.length_flatMap]
    have hsum : wins.sum ≤ (positives.length * negatives.length : ℕ) := by
      have hle := List.sum_le_card_nsmul wins 1 fun win hwin => (hunit win hwin).2
      rwa [hlength, nsmul_one] at hle
    rw [hauc, hfold]
    exact ⟨div_nonneg (List.sum_nonneg fun win hwin => (hunit win hwin).1) (Nat.cast_nonneg _),
      div_le_one_of_le₀ hsum (Nat.cast_nonneg _)⟩

end Rates

/-- The harmonic mean lies between its two sides. -/
theorem harmonic_between {x y : ℝ} (hx : 0 ≤ x) (hy : 0 ≤ y) :
    min x y ≤ (if realFloat.lt (realFloat.ofRat 0) (realFloat.add x y) then
        realFloat.div (realFloat.mul (realFloat.mul (realFloat.ofRat 2) x) y) (realFloat.add x y)
      else realFloat.ofRat 0) ∧
      (if realFloat.lt (realFloat.ofRat 0) (realFloat.add x y) then
        realFloat.div (realFloat.mul (realFloat.mul (realFloat.ofRat 2) x) y) (realFloat.add x y)
      else realFloat.ofRat 0) ≤ max x y := by
  simp only [realFloat, Rat.cast_zero, Rat.cast_ofNat, decide_eq_true_eq]
  split
  · rename_i hpos
    rw [le_div_iff₀ hpos, div_le_iff₀ hpos]
    rcases le_total x y with hle | hle
    · rw [min_eq_left hle, max_eq_right hle]
      constructor <;> nlinarith
    · rw [min_eq_right hle, max_eq_left hle]
      constructor <;> nlinarith
  · rename_i hnot
    have hzero : x = 0 := by linarith
    rw [hzero]
    exact ⟨min_le_left 0 y, le_max_left 0 y⟩

/-- Two complementary rates add up to one unless there is nothing to share. -/
theorem ratio_add_ratio {x y : ℝ} (hx : 0 ≤ x) (hy : 0 ≤ y) :
    ratio realFloat x (x + y) + ratio realFloat y (y + x) = 1 ∨
      (ratio realFloat x (x + y) = 0 ∧ ratio realFloat y (y + x) = 0) := by
  rw [ratio_realFloat (add_nonneg hx hy), ratio_realFloat (add_nonneg hy hx), add_comm y x]
  by_cases hzero : x + y = 0
  · rw [hzero, div_zero, div_zero]
    exact Or.inr ⟨rfl, rfl⟩
  · rw [← add_div, div_self hzero]
    exact Or.inl rfl

/-! ## Percentiles -/

/-- The index at a fraction of a list. -/
noncomputable def indexAt (deviations : List UInt64) (q : ℚ) : ℕ :=
  (round (((deviations.length - 1 : ℕ) : ℝ) * q)).toNat

theorem indexAt_lt {deviations : List UInt64} (hne : deviations ≠ []) {q : ℚ} (hlow : 0 ≤ q)
    (hhigh : q ≤ 1) : indexAt deviations q < deviations.length := by
  have hlength := List.length_pos_iff.mpr hne
  have hcast : ((deviations.length - 1 : ℕ) : ℝ) = deviations.length - 1 := by
    rw [Nat.cast_sub hlength, Nat.cast_one]
  have hq : (0 : ℝ) ≤ q ∧ (q : ℝ) ≤ 1 := ⟨by exact_mod_cast hlow, by exact_mod_cast hhigh⟩
  have hlast : (0 : ℝ) ≤ (deviations.length - 1 : ℕ) := Nat.cast_nonneg _
  have hprod := mul_le_of_le_one_right hlast hq.2
  have hhalf : (0 : ℝ) ≤ (deviations.length - 1 : ℕ) * q + 1 / 2 := by
    have := mul_nonneg hlast hq.1
    linarith
  rw [indexAt, round_eq, Int.floor_toNat, Nat.floor_lt hhalf]
  linarith

theorem indexAt_mono (deviations : List UInt64) {p q : ℚ} (hle : p ≤ q) :
    indexAt deviations p ≤ indexAt deviations q := by
  have hcast : (p : ℝ) ≤ q := by exact_mod_cast hle
  have hlast : (0 : ℝ) ≤ (deviations.length - 1 : ℕ) := Nat.cast_nonneg _
  rw [indexAt, indexAt, round_eq, round_eq]
  refine Int.toNat_le_toNat (Int.floor_le_floor ?_)
  have := mul_le_mul_of_nonneg_left hcast hlast
  linarith

/-- The percentile of some deviations is the one at the index. -/
theorem percentile_realFloat {deviations : List UInt64} (hne : deviations ≠ []) {q : ℚ}
    (hindex : indexAt deviations q < deviations.length) :
    percentile realFloat deviations q =
      .ok (deviations[indexAt deviations q].toNat : ℝ) := by
  rw [percentile, if_neg hne]
  have hat : deviations[realFloat.roundToIndex (realFloat.mul
      (realFloat.ofNat (deviations.length - 1)) (realFloat.ofRat q))]? =
        some deviations[indexAt deviations q] := List.getElem?_eq_getElem hindex
  simp only [hat]
  rfl

/-- Two percentiles are there, and the later one is not smaller. -/
theorem exists_percentiles (executed : List (Observation ℝ)) {p q : ℚ} (hlow : 0 ≤ p)
    (hle : p ≤ q) (hhigh : q ≤ 1) :
    ∃ x y, percentile realFloat (deviations executed) p = .ok x ∧
      percentile realFloat (deviations executed) q = .ok y ∧ x ≤ y := by
  by_cases hne : deviations executed = []
  · have hzero (q : ℚ) : percentile realFloat (deviations executed) q =
        .ok (realFloat.ofRat 0) := if_pos hne
    exact ⟨_, _, hzero p, hzero q, le_refl (realFloat.ofRat 0)⟩
  · have hp := indexAt_lt hne hlow (hle.trans hhigh)
    have hq := indexAt_lt hne (hlow.trans hle) hhigh
    refine ⟨_, _, percentile_realFloat hne hp, percentile_realFloat hne hq, ?_⟩
    have hsorted : (deviations executed).Pairwise (· ≤ ·) := List.pairwise_insertionSort _ _
    have horder : (deviations executed)[indexAt (deviations executed) p] ≤
        (deviations executed)[indexAt (deviations executed) q] := by
      rcases (indexAt_mono (deviations executed) hle).eq_or_lt with hsame | hlt
      · simp only [hsame]
        exact UInt64.le_refl _
      · exact List.pairwise_iff_getElem.mp hsorted _ _ hp hq hlt
    exact_mod_cast UInt64.le_iff_toNat_le.mp horder

/-! ## Entropy -/

/-- What is taken away one after another is a sum. -/
theorem foldl_sub {α : Type} (f : α → ℝ) (start : ℝ) (items : List α) :
    items.foldl (fun sum item => sum - f item) start =
      start + (items.map fun item => -f item).sum := by
  induction items generalizing start with
  | nil => simp
  | cons item items ih =>
      rw [List.foldl_cons, ih, List.map_cons, List.sum_cons]
      ring

/-- The entropy is that of the fingerprints. -/
theorem entropy_realFloat {executed : List (Observation ℝ)} {groups : List (String × ℕ)}
    (hcounts : Grouping.Counts groups (executed.map (·.fingerprint)))
    (hlength : executed.length < 2 ^ 32) :
    entropy realFloat (observedCohortSize executed) groups =
      Entropy.entropy (executed.map (·.fingerprint)) := by
  have hobserved : observedCohortSize executed = executed.length :=
    Nat.min_eq_left (Nat.le_sub_one_of_lt hlength)
  have hfold : entropy realFloat (observedCohortSize executed) groups =
      (groups.map fun g => -((g.2 : ℝ) / (max executed.length 1 : ℕ) *
        Real.log ((g.2 : ℝ) / (max executed.length 1 : ℕ)))).sum := by
    rw [← zero_add (List.sum _), ← foldl_sub, entropy, hobserved]
    simp only [realFloat, Rat.cast_zero]
  rw [hfold]
  by_cases hne : executed = []
  · subst hne
    simp [hcounts.eq_nil, Entropy.entropy]
  · have hone : max executed.length 1 = (executed.map (·.fingerprint)).length := by
      rw [List.length_map]
      exact Nat.max_eq_left (List.length_pos_iff.mpr hne)
    rw [hone]
    exact Entropy.sum_groups_eq hcounts

/-- What the metrics say of the fingerprints of the participants that executed. -/
structure DescribesKeys (m : EvaluationMetrics ℝ) (keys : List String) : Prop where
  observed : m.observedCohortSize = keys.length
  entropy : m.shannonEntropy = Entropy.entropy keys
  effective : m.effectiveAnonymitySet = Real.exp (Entropy.entropy keys)
  normalized : m.normalizedEntropy =
    if 1 < keys.length then Entropy.entropy keys / Real.log keys.length else 0
  groups : ∃ groups, Grouping.Counts groups keys ∧
    m.minimumKAnonymity = Grouping.smallest groups ∧
    m.uniqueFingerprintRate = (uniqueGroups groups : ℝ) / keys.length

theorem describesKeys_of_metrics {obs : List (Observation ℝ)} {announced : UInt32}
    {m : EvaluationMetrics ℝ} (hlength : obs.length < 2 ^ 32)
    (hmetrics : metrics realFloat obs announced = .ok m) :
    DescribesKeys m ((executedOf obs).map (·.fingerprint)) := by
  have hexecuted : (executedOf obs).length < 2 ^ 32 := (List.length_filter_le ..).trans_lt hlength
  have hobserved : observedCohortSize (executedOf obs) = (executedOf obs).length :=
    Nat.min_eq_left (Nat.le_sub_one_of_lt hexecuted)
  rcases exists_fingerprintGroups hexecuted with ⟨groups, hgroups, hcounts⟩
  have hentropy := entropy_realFloat hcounts hexecuted
  simp only [metrics, Fallible.bind_eq_ok, Fallible.pure_eq_ok] at hmetrics
  rcases hmetrics with ⟨_, hsame, median, -, p95, -, rfl⟩
  rcases Except.ok.inj (hgroups.symm.trans hsame) with rfl
  constructor
  case observed => rw [List.length_map, ← hobserved]
  case entropy => exact hentropy
  case effective => exact congrArg Real.exp hentropy
  case normalized =>
    show (if _ then realFloat.div _ (realFloat.ln (realFloat.ofNat _)) else _) = _
    rw [hentropy, hobserved, List.length_map]
    simp [realFloat]
  case groups =>
    refine ⟨groups, hcounts, rfl, ?_⟩
    show ratio realFloat (realFloat.ofNat _) (realFloat.ofNat _) = _
    rw [hobserved, List.length_map]
    exact ratio_realFloat (Nat.cast_nonneg _)

section Keys

variable {m : EvaluationMetrics ℝ} {keys : List String}

/-- The smallest group is at most as large as the group of any participant. -/
theorem DescribesKeys.minimum_le_count (hkeys : DescribesKeys m keys) {key : String}
    (hkey : key ∈ keys) : 0 < m.minimumKAnonymity ∧ m.minimumKAnonymity ≤ keys.count key := by
  rcases hkeys.groups with ⟨groups, hcounts, hsmallest, -⟩
  have hmem : (key, keys.count key) ∈ groups := hcounts.mem_iff.mpr ⟨hkey, rfl⟩
  rw [hsmallest]
  refine ⟨?_, Grouping.smallest_le hmem⟩
  rcases Grouping.exists_smallest (List.ne_nil_of_mem hmem) with ⟨g, hg, hsize⟩
  rw [← hsize]
  exact hcounts.positive g hg

/-- The effective set and the smallest group share the participants. -/
theorem DescribesKeys.effective_mul_le (hkeys : DescribesKeys m keys) :
    m.effectiveAnonymitySet * m.minimumKAnonymity ≤ m.observedCohortSize := by
  rw [hkeys.effective, hkeys.observed]
  by_cases hne : keys = []
  · subst hne
    rcases hkeys.groups with ⟨groups, hcounts, hsmallest, -⟩
    rw [hsmallest, hcounts.eq_nil]
    simp [Grouping.smallest]
  · rcases List.exists_mem_of_ne_nil keys hne with ⟨key, hkey⟩
    have hpos := (hkeys.minimum_le_count hkey).1
    have hle := Entropy.entropy_add_log_le hne hpos fun key hkey =>
      (hkeys.minimum_le_count hkey).2
    have hexp := Real.exp_le_exp.mpr hle
    rwa [Real.exp_add, Real.exp_log (Nat.cast_pos.mpr hpos),
      Real.exp_log (Entropy.length_pos hkey)] at hexp

/-- The normalized entropy lies between zero and one. -/
theorem DescribesKeys.normalized_mem_unit (hkeys : DescribesKeys m keys) :
    m.normalizedEntropy ∈ Set.Icc (0 : ℝ) 1 := by
  rw [hkeys.normalized]
  split
  · rename_i hmany
    have hne : keys ≠ [] := by
      rintro rfl
      exact absurd hmany (by decide)
    have hle := Entropy.entropy_le_log hne
    have hnonneg := Entropy.entropy_nonneg keys
    exact ⟨div_nonneg hnonneg (hnonneg.trans hle), div_le_one_of_le₀ hle (hnonneg.trans hle)⟩
  · simp

/-- The share of participants that are alone in their group is a rate. -/
theorem DescribesKeys.unique_mem_unit (hkeys : DescribesKeys m keys) :
    m.uniqueFingerprintRate ∈ Set.Icc (0 : ℝ) 1 := by
  rcases hkeys.groups with ⟨groups, hcounts, -, hunique⟩
  have hsum : ∀ groups : List (String × ℕ), (∀ g ∈ groups, 0 < g.2) →
      groups.length ≤ (groups.map Prod.snd).sum := by
    intro groups hpos
    induction groups with
    | nil => exact le_refl _
    | cons g groups ih =>
        rw [List.forall_mem_cons] at hpos
        have hrest := ih hpos.2
        rw [List.length_cons, List.map_cons, List.sum_cons]
        omega
  have hle : uniqueGroups groups ≤ keys.length :=
    List.countP_le_length.trans ((hsum groups hcounts.positive).trans (le_of_eq hcounts.sum_eq))
  rw [hunique]
  exact ⟨div_nonneg (Nat.cast_nonneg _) (Nat.cast_nonneg _),
    div_le_one_of_le₀ (Nat.cast_le.mpr hle) (Nat.cast_nonneg _)⟩

end Keys

/-! ## Coherent metrics -/

/-- The metrics of a report fit together. -/
structure Coherent (m : EvaluationMetrics ℝ) : Prop where
  observed : m.observedCohortSize ≤ m.announcedCohortSize.toNat
  completion : m.completionRate ∈ Set.Icc (0 : ℝ) 1
  timing : m.medianTimingDeviation ≤ m.p95TimingDeviation
  unique : m.uniqueFingerprintRate ∈ Set.Icc (0 : ℝ) 1
  entropy : 0 ≤ m.shannonEntropy
  normalized : m.normalizedEntropy ∈ Set.Icc (0 : ℝ) 1
  effective : 1 ≤ m.effectiveAnonymitySet
  shared : m.effectiveAnonymitySet * m.minimumKAnonymity ≤ m.observedCohortSize
  precision : m.linkagePrecision ∈ Set.Icc (0 : ℝ) 1
  sensitivity : m.linkageRecall ∈ Set.Icc (0 : ℝ) 1
  f1 : min m.linkagePrecision m.linkageRecall ≤ m.linkageF1 ∧
    m.linkageF1 ≤ max m.linkagePrecision m.linkageRecall
  area : m.rocAuc ∈ Set.Icc (0 : ℝ) 1
  falsePositive : m.falsePositiveRate ∈ Set.Icc (0 : ℝ) 1
  falseNegative : m.falseNegativeRate ∈ Set.Icc (0 : ℝ) 1
  misses : m.linkageRecall + m.falseNegativeRate = 1 ∨
    (m.linkageRecall = 0 ∧ m.falseNegativeRate = 0)

/-- The metrics are there, with the percentiles in order. -/
theorem exists_metrics_realFloat {obs : List (Observation ℝ)} (hlength : obs.length < 2 ^ 32)
    (announced : UInt32) : ∃ m, metrics realFloat obs announced = .ok m ∧
      m.medianTimingDeviation ≤ m.p95TimingDeviation := by
  have hexecuted : (executedOf obs).length < 2 ^ 32 := (List.length_filter_le ..).trans_lt hlength
  rcases exists_fingerprintGroups hexecuted with ⟨groups, hgroups, -⟩
  rcases exists_percentiles (executedOf obs) (p := 1 / 2) (q := 95 / 100) (by norm_num)
    (by norm_num) (by norm_num) with ⟨median, p95, hmedian, hp95, horder⟩
  simp only [metrics, Fallible.bind_eq_ok, Fallible.pure_eq_ok]
  exact ⟨_, ⟨groups, hgroups, median, hmedian, p95, hp95, rfl⟩, horder⟩

/-- The metrics of at most as many observations as are announced are there and
fit together. -/
theorem metrics_coherent (obs : List (Observation ℝ)) (announced : UInt32)
    (hsize : obs.length ≤ announced.toNat) :
    ∃ m, metrics realFloat obs announced = .ok m ∧ Coherent m := by
  have hlength : obs.length < 2 ^ 32 := hsize.trans_lt announced.toNat_lt
  rcases exists_metrics_realFloat hlength announced with ⟨m, hmetrics, horder⟩
  refine ⟨m, hmetrics, ?_⟩
  have hkeys := describesKeys_of_metrics hlength hmetrics
  have hcohort : m.observedCohortSize ≤ announced.toNat := by
    rw [hkeys.observed, List.length_map]
    exact (List.length_filter_le ..).trans hsize
  have hconfusion := confusion_nonneg (executedOf obs) (realFloat.ofRat (1 / 2))
  simp only [metrics, Fallible.bind_eq_ok, Fallible.pure_eq_ok] at hmetrics
  rcases hmetrics with ⟨_, -, median, -, p95, -, rfl⟩
  constructor
  case observed => exact hcohort
  case completion => exact ratio_mem_unit (Nat.cast_nonneg _) (Nat.cast_le.mpr hcohort)
  case timing => exact horder
  case unique => exact hkeys.unique_mem_unit
  case entropy => exact hkeys.entropy ▸ Entropy.entropy_nonneg _
  case normalized => exact hkeys.normalized_mem_unit
  case effective => exact hkeys.effective ▸ Real.one_le_exp (Entropy.entropy_nonneg _)
  case shared => exact hkeys.effective_mul_le
  case precision => exact ratio_mem_unit hconfusion.tp (le_add_of_nonneg_right hconfusion.fp)
  case sensitivity => exact ratio_mem_unit hconfusion.tp (le_add_of_nonneg_right hconfusion.fn)
  case f1 =>
    have hprecision := ratio_mem_unit hconfusion.tp (le_add_of_nonneg_right hconfusion.fp)
    have hsensitivity := ratio_mem_unit hconfusion.tp (le_add_of_nonneg_right hconfusion.fn)
    exact harmonic_between hprecision.1 hsensitivity.1
  case area => exact auc_mem_unit _
  case falsePositive => exact ratio_mem_unit hconfusion.fp (le_add_of_nonneg_right hconfusion.tn)
  case falseNegative => exact ratio_mem_unit hconfusion.fn (le_add_of_nonneg_right hconfusion.tp)
  case misses => exact ratio_add_ratio hconfusion.tp hconfusion.fn

/-- Three observations, two of which share their fingerprint. -/
noncomputable def pairAndSingle : List (Observation ℝ) :=
  [⟨0, true, 10000, "0:0:0:0:0:0", 0, true⟩, ⟨1, true, 10001, "0:0:0:0:0:0", 1, false⟩,
    ⟨2, true, 10002, "1:0:0:0:0:0", 0, true⟩]

theorem metrics_coherent_demo :
    ∃ m, metrics realFloat pairAndSingle 4 = .ok m ∧ Coherent m :=
  metrics_coherent pairAndSingle 4 (by decide)

/-! ## The effective set -/

/-- The effective set is that of the fingerprints.  It is as large as the cohort
exactly when no two participants look alike, and one exactly when all of them do;
the larger the smallest group, the smaller it is. -/
theorem effective_set_measures_distinction {obs : List (Observation ℝ)} {announced : UInt32}
    {m : EvaluationMetrics ℝ} (hlength : obs.length < 2 ^ 32)
    (hmetrics : metrics realFloat obs announced = .ok m) (hsome : executedOf obs ≠ []) :
    (m.effectiveAnonymitySet = m.observedCohortSize ↔
        ((executedOf obs).map (·.fingerprint)).Nodup) ∧
      (m.effectiveAnonymitySet = 1 ↔
        ∀ o ∈ executedOf obs, ∀ o' ∈ executedOf obs, o.fingerprint = o'.fingerprint) ∧
      m.effectiveAnonymitySet ≤ ((executedOf obs).map (·.fingerprint)).dedup.length ∧
      m.effectiveAnonymitySet * m.minimumKAnonymity ≤ m.observedCohortSize := by
  have hkeys := describesKeys_of_metrics hlength hmetrics
  have hne : (executedOf obs).map (·.fingerprint) ≠ [] := mt List.map_eq_nil_iff.mp hsome
  have hlengthPos : (0 : ℝ) < ((executedOf obs).map (·.fingerprint)).length :=
    Nat.cast_pos.mpr (List.length_pos_iff.mpr hne)
  refine ⟨?_, ?_, ?_, hkeys.effective_mul_le⟩
  · rw [hkeys.effective, hkeys.observed, ← Entropy.entropy_eq_log_iff hne]
    exact ⟨fun hexp => by rw [← hexp, Real.log_exp],
      fun hlog => by rw [hlog, Real.exp_log hlengthPos]⟩
  · rw [hkeys.effective, Real.exp_eq_one_iff, Entropy.entropy_eq_zero_iff hne]
    simp only [List.count_eq_length, List.forall_mem_map]
  · have hle := Real.exp_le_exp.mpr (Entropy.entropy_le_log_card hne)
    rwa [Real.exp_log (Entropy.dedup_length_pos hne), ← hkeys.effective] at hle

/-- Three participants with two fingerprints. -/
theorem effective_set_measures_distinction_demo :
    ∃ m, metrics realFloat pairAndSingle 4 = .ok m ∧
      (m.effectiveAnonymitySet = m.observedCohortSize ↔
        ((executedOf pairAndSingle).map (·.fingerprint)).Nodup) ∧
      (m.effectiveAnonymitySet = 1 ↔ ∀ o ∈ executedOf pairAndSingle,
        ∀ o' ∈ executedOf pairAndSingle, o.fingerprint = o'.fingerprint) ∧
      m.effectiveAnonymitySet ≤
        ((executedOf pairAndSingle).map (·.fingerprint)).dedup.length ∧
      m.effectiveAnonymitySet * m.minimumKAnonymity ≤ m.observedCohortSize := by
  have hlength : pairAndSingle.length < 2 ^ 32 := by decide
  rcases exists_metrics_realFloat hlength 4 with ⟨m, hmetrics, -⟩
  exact ⟨m, hmetrics, effective_set_measures_distinction hlength hmetrics (by
    simp [executedOf, pairAndSingle])⟩

/-! ## Fewer features -/

/-- The second metrics tell the participants apart no better than the first. -/
structure LessDistinct (m m' : EvaluationMetrics ℝ) : Prop where
  entropy : m'.shannonEntropy ≤ m.shannonEntropy
  effective : m'.effectiveAnonymitySet ≤ m.effectiveAnonymitySet
  normalized : m'.normalizedEntropy ≤ m.normalizedEntropy
  unique : m'.uniqueFingerprintRate ≤ m.uniqueFingerprintRate
  smallest : m.minimumKAnonymity ≤ m'.minimumKAnonymity

/-- Merged fingerprints tell the participants apart no better. -/
theorem lessDistinct_of_merges {pairs : List (String × String)} {m m' : EvaluationMetrics ℝ}
    (hmerges : Grouping.Merges pairs) (hkeys : DescribesKeys m (pairs.map Prod.fst))
    (hkeys' : DescribesKeys m' (pairs.map Prod.snd)) : LessDistinct m m' := by
  have hentropy := Entropy.entropy_le_of_merges hmerges
  rcases hkeys.groups with ⟨groups, hcounts, hsmallest, hunique⟩
  rcases hkeys'.groups with ⟨groups', hcounts', hsmallest', hunique'⟩
  constructor
  case entropy => rwa [hkeys.entropy, hkeys'.entropy]
  case effective =>
    rw [hkeys.effective, hkeys'.effective]
    exact Real.exp_le_exp.mpr hentropy
  case normalized =>
    rw [hkeys.normalized, hkeys'.normalized, List.length_map, List.length_map]
    split
    · exact div_le_div_of_nonneg_right hentropy (Real.log_natCast_nonneg _)
    · exact le_refl (0 : ℝ)
  case unique =>
    rw [hunique, hunique', List.length_map, List.length_map]
    apply div_le_div_of_nonneg_right _ (Nat.cast_nonneg _)
    refine Nat.cast_le.mpr (hcounts.countP_le hcounts' hmerges (P := (· == 1)) ?_)
    intro m n hpos hle hone
    simp only [beq_iff_eq] at hone ⊢
    omega
  case smallest =>
    rw [hsmallest, hsmallest']
    exact hcounts.smallest_le hcounts' hmerges

/-- Taking features away from the observer aborts both evaluations alike, or the
second report has no more entropy, no larger effective set and no smaller group. -/
theorem ablation_lowers_entropy {D : Type} (h : Blake3 D) (rng : Generator ℝ) (s : Scenario)
    {features : ObserverFeatures} (hincludes : s.observerFeatures.Includes features) :
    (∃ stop, evaluate h realFloat rng s = .error stop ∧
        evaluate h realFloat rng { s with observerFeatures := features } = .error stop) ∨
      ∃ report report', evaluate h realFloat rng s = .ok report ∧
        evaluate h realFloat rng { s with observerFeatures := features } = .ok report' ∧
        LessDistinct report.metrics report'.metrics := by
  have haligned : Aligned (Observation.Coarsens features) (observations realFloat rng s)
      (observations realFloat rng { s with observerFeatures := features }) :=
    aligned_observations rfl rfl (lockstep_ablation hincludes)
  have hsame : ({ s with observerFeatures := features } : Scenario).validate = s.validate := rfl
  cases hvalid : s.validate with
  | error error =>
      refine Or.inl ⟨.failed error, ?_, ?_⟩
      · rw [evaluate, hvalid]
        rfl
      · rw [evaluate, hsame, hvalid]
        rfl
  | ok _ =>
      rcases haligned with ⟨stop, hleft, hright⟩ | ⟨obs, obs', hleft, hright, hcoarsens⟩
      · refine Or.inl ⟨stop, ?_, ?_⟩
        · rw [evaluate, hvalid, hleft]
          rfl
        · rw [evaluate, hsame, hvalid, hright]
          rfl
      · have hlength := length_observations_lt hleft
        have hlength' : obs'.length < 2 ^ 32 := hcoarsens.length_eq ▸ hlength
        rcases exists_metrics_realFloat hlength s.participantCount with ⟨m, hmetrics, -⟩
        rcases exists_metrics_realFloat hlength' s.participantCount with ⟨m', hmetrics', -⟩
        rcases exists_evaluate (h := h) hvalid hleft hmetrics with ⟨report, hreport, rfl⟩
        rcases exists_evaluate (h := h) (hsame.trans hvalid) hright hmetrics' with
          ⟨report', hreport', rfl⟩
        have hcoarser := coarser_of_coarsens hlength hcoarsens
        have hpaired : (executedOf obs').length = (executedOf obs).length := by
          simpa using congrArg List.length hcoarser.participants
        refine Or.inr ⟨report, report', hreport, hreport',
          lessDistinct_of_merges hcoarser.merges ?_ ?_⟩
        · rw [fingerprintPairs, List.map_fst_zip (by simp [hpaired])]
          exact describesKeys_of_metrics hlength hmetrics
        · rw [fingerprintPairs, List.map_snd_zip (by simp [hpaired])]
          exact describesKeys_of_metrics hlength' hmetrics'

/-- A report describes the fingerprints of the participants that executed. -/
theorem describesKeys_of_evaluate {D : Type} {h : Blake3 D} {rng : Generator ℝ} {s : Scenario}
    {report : EvaluationReport ℝ D} {keys : List String}
    (hkeys : (observations realFloat rng s).map
      (fun obs => (executedOf obs).map (·.fingerprint)) = .ok keys)
    (hreport : evaluate h realFloat rng s = .ok report) : DescribesKeys report.metrics keys := by
  simp only [evaluate, Fallible.bind_eq_ok, mapError_eq_ok, Fallible.pure_eq_ok] at hreport
  rcases hreport with ⟨_, -, obs, hobs, m, hmetrics, rfl⟩
  have hlength := length_observations_lt hobs
  rw [hobs] at hkeys
  rw [← Except.ok.inj hkeys]
  exact describesKeys_of_metrics hlength hmetrics

/-- A scenario whose window fits has a report. -/
theorem exists_report {D : Type} (h : Blake3 D) {rng : Generator ℝ} {s : Scenario}
    (hvalid : s.validate = .ok ()) (hfits : WindowFits s) (hrng : rng.InRange) :
    ∃ report, evaluate h realFloat rng s = .ok report := by
  rcases exists_observations realFloat hrng hfits with ⟨obs, hobs, -⟩
  have hlength := length_observations_lt hobs
  rcases exists_metrics_realFloat hlength s.participantCount with ⟨m, hmetrics, -⟩
  rcases exists_evaluate (h := h) hvalid hobs hmetrics with ⟨report, hreport, -⟩
  exact ⟨report, hreport⟩

/-- The small experiment without dropout. -/
def steadyScenario : Scenario :=
  { demoScenario with dropoutRate := 0 }

/-- The small experiment without dropout, of which the timing alone is seen. -/
def timingScenario : Scenario :=
  { steadyScenario with observerFeatures := ⟨true, false, false, false, false, false⟩ }

/-- The fingerprints under all features, and under the timing alone. -/
theorem steady_fingerprints :
    (observations realFloat (topmost ℝ) steadyScenario).map
        (fun obs => (executedOf obs).map (·.fingerprint)) =
      .ok ["3:0:0:0:0:0", "3:1:1:1:1:0", "3:2:2:2:2:0", "3:3:0:3:3:0", "3:4:1:4:0:0",
        "3:0:2:5:1:0"] ∧
    (observations realFloat (topmost ℝ) timingScenario).map
        (fun obs => (executedOf obs).map (·.fingerprint)) =
      .ok (List.replicate 6 "3:0:0:0:0:0") := by
  constructor
  · decide +kernel
  · decide +kernel

/-- Without dropout all features tell all six participants apart, and the timing
alone tells none of them from another one. -/
theorem ablation_lowers_entropy_demo :
    ∃ report report',
      evaluate Blake3.checksum realFloat (topmost ℝ) steadyScenario = .ok report ∧
      evaluate Blake3.checksum realFloat (topmost ℝ) timingScenario = .ok report' ∧
      LessDistinct report.metrics report'.metrics ∧
      report.metrics.effectiveAnonymitySet = 6 ∧ report'.metrics.effectiveAnonymitySet = 1 := by
  have hincludes :
      steadyScenario.observerFeatures.Includes timingScenario.observerFeatures :=
    ⟨fun _ => rfl, fun _ => rfl, fun _ => rfl, fun _ => rfl, fun _ => rfl, fun _ => rfl⟩
  have hvalid : steadyScenario.validate = .ok () := by decide +kernel
  rcases exists_report Blake3.checksum hvalid nofun topmost_inRange with ⟨report, hreport⟩
  rcases ablation_lowers_entropy Blake3.checksum (topmost ℝ) steadyScenario hincludes with
    ⟨stop, hstopped, -⟩ | ⟨_, report', hsame, hreport', hless⟩
  · exact absurd (hreport.symm.trans hstopped) (by simp)
  rcases Except.ok.inj (hreport.symm.trans hsame) with rfl
  refine ⟨report, report', hreport, hreport', hless, ?_, ?_⟩
  · have hkeys := describesKeys_of_evaluate steady_fingerprints.1 hreport
    rw [hkeys.effective, (Entropy.entropy_eq_log_iff (by simp)).mpr (by decide)]
    exact Real.exp_log (by norm_num)
  · have hkeys := describesKeys_of_evaluate steady_fingerprints.2 hreport'
    rw [hkeys.effective, (Entropy.entropy_eq_zero_iff (by simp)).mpr (by decide), Real.exp_zero]

end Simulator

end MirrorPool
