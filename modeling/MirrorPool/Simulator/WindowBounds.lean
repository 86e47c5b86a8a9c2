import MirrorPool.Simulator.Evaluation

/-!
# The release window

A slot lies behind the release by a draw of the generator, at most as far as the
window of the strategy.  Three strategies have short windows.  The randomized
strategy takes the window of the scenario, which the validation does not bound
from above: a window within 10000 of the largest slot has draws whose slot
overflows, and the evaluation is aborted.

Doubles are used for one index, that of a percentile.  It stays within the list,
because a product with a fraction is not rounded past a factor that is exact.

Main results:

- Theorem {lit}`Simulator.exists_percentile`: the index of a percentile is in
  range.
- Theorem {lit}`Simulator.returns_observe`: a participant is observed within the
  window, when the window fits.
- Theorem {lit}`Simulator.evaluate_inWindow_iff`: every evaluation stays within
  its window exactly when the window fits.
-/

namespace MirrorPool

open Fallible Sessions

/-- The values of a generator for slots lie in the requested range. -/
def Generator.InRange {F : Type} (rng : Generator F) : Prop :=
  ∀ upper state, (rng.genRange upper state).1 ≤ upper

/-- Double-precision numbers that are not negative and at most 2 ^ 53: whole
numbers are exact, and a constant or a product is the exact one rounded to a
double.  Rounding is monotone and keeps whole numbers.  The index is the nearest
whole number, upwards from one half. -/
structure Float64.Rounds {F : Type} (fl : Float64 F) (value : F → Option Rat)
    (round : Rat → Rat) : Prop where
  round_mono : ∀ x y, x ≤ y → round x ≤ round y
  round_natCast : ∀ n : Nat, n ≤ 2 ^ 53 → round n = n
  value_ofNat : ∀ n : Nat, n ≤ 2 ^ 53 → value (fl.ofNat n) = some (n : Rat)
  value_ofRat : ∀ x, 0 ≤ x → x ≤ 2 ^ 53 → value (fl.ofRat x) = some (round x)
  value_mul : ∀ a b x y, value a = some x → value b = some y → 0 ≤ x * y → x * y ≤ 2 ^ 53 →
    value (fl.mul a b) = some (round (x * y))
  roundToIndex_eq : ∀ a x, value a = some x → 0 ≤ x → x ≤ 2 ^ 53 →
    fl.roundToIndex a = ⌊x + 1 / 2⌋₊

namespace Simulator

variable {F D : Type} {fl : Float64 F} {rng : Generator F} {s : Scenario}

/-! ## Percentiles -/

section Percentiles

variable {value : F → Option Rat} {round : Rat → Rat}

/-- A fraction of a whole number is rounded to an index up to this number. -/
theorem roundToIndex_le (hfl : fl.Rounds value round) {n : Nat} (hn : n ≤ 2 ^ 53) {q : Rat}
    (hlow : 0 ≤ q) (hhigh : q ≤ 1) :
    fl.roundToIndex (fl.mul (fl.ofNat n) (fl.ofRat q)) ≤ n := by
  have hbound : (n : Rat) ≤ 2 ^ 53 := by exact_mod_cast hn
  have hzero : round 0 = 0 := by simpa using hfl.round_natCast 0 (Nat.zero_le _)
  have hone : round 1 = 1 := by simpa using hfl.round_natCast 1 (by norm_num)
  have hfraction : 0 ≤ round q ∧ round q ≤ 1 :=
    ⟨hzero ▸ hfl.round_mono 0 q hlow, hone ▸ hfl.round_mono q 1 hhigh⟩
  have hproduct : 0 ≤ n * round q ∧ n * round q ≤ n :=
    ⟨mul_nonneg (Nat.cast_nonneg n) hfraction.1,
      mul_le_of_le_one_right (Nat.cast_nonneg n) hfraction.2⟩
  have hrounded : 0 ≤ round (n * round q) ∧ round (n * round q) ≤ n :=
    ⟨hzero ▸ hfl.round_mono 0 _ hproduct.1,
      (hfl.round_mono _ n hproduct.2).trans_eq (hfl.round_natCast n hn)⟩
  have hvalue : value (fl.mul (fl.ofNat n) (fl.ofRat q)) = some (round (n * round q)) :=
    hfl.value_mul _ _ _ _ (hfl.value_ofNat n hn)
      (hfl.value_ofRat q hlow (hhigh.trans (by norm_num))) hproduct.1
      (hproduct.2.trans hbound)
  rw [hfl.roundToIndex_eq _ _ hvalue hrounded.1 (hrounded.2.trans hbound), ← Nat.lt_succ_iff,
    Nat.floor_lt (by linarith [hrounded.1])]
  push_cast
  linarith [hrounded.2]

/-- The index of a percentile is in range. -/
theorem exists_percentile (hfl : fl.Rounds value round) {deviations : List UInt64}
    (hlength : deviations.length ≤ 2 ^ 53) (fraction : Rat) (hlow : 0 ≤ fraction)
    (hhigh : fraction ≤ 1) : ∃ x, percentile fl deviations fraction = .ok x := by
  unfold percentile
  split
  · exact ⟨_, rfl⟩
  · rename_i hne
    have hpositive : 0 < deviations.length := List.length_pos_iff.mpr hne
    have hindex : fl.roundToIndex (fl.mul (fl.ofNat (deviations.length - 1))
        (fl.ofRat fraction)) < deviations.length := by
      have hle := roundToIndex_le hfl (n := deviations.length - 1) (by omega) hlow hhigh
      omega
    dsimp only
    generalize fl.roundToIndex (fl.mul (fl.ofNat (deviations.length - 1)) (fl.ofRat fraction)) =
      index at hindex ⊢
    refine ⟨fl.ofNat deviations[index].toNat, ?_⟩
    rw [List.getElem?_eq_getElem hindex]
    rfl

end Percentiles

/-! ## Slots -/

/-- How far behind the release the strategy lets a slot lie. -/
def windowWidth (s : Scenario) : UInt64 :=
  match s.releaseStrategy with
  | .fixedSlot => 0
  | .narrowWindow => min s.executionWindowSlots 3
  | .randomizedWithinWindow => s.executionWindowSlots
  | .latencyAware => min s.executionWindowSlots 2

/-- The slot lies in the window of the scenario. -/
def SlotInWindow (s : Scenario) (slot : UInt64) : Prop :=
  targetSlot.toNat ≤ slot.toNat ∧ slot.toNat ≤ targetSlot.toNat + (windowWidth s).toNat

/-- The randomized window ends at the largest slot or before. -/
def WindowFits (s : Scenario) : Prop :=
  s.releaseStrategy = .randomizedWithinWindow →
    s.executionWindowSlots.toNat ≤ 2 ^ 64 - 1 - 10000

theorem min_toNat_le (a b : UInt64) : (min a b).toNat ≤ b.toNat := by
  show (if a ≤ b then a else b).toNat ≤ b.toNat
  split
  · rename_i hle
    exact UInt64.le_iff_toNat_le.mp hle
  · exact le_refl b.toNat

/-- The other windows are short, so only the randomized one can be too long. -/
theorem windowFits_iff : WindowFits s ↔ targetSlot.toNat + (windowWidth s).toNat < 2 ^ 64 := by
  have htarget : targetSlot.toNat = 10000 := rfl
  unfold WindowFits windowWidth
  cases s.releaseStrategy with
  | fixedSlot => simp [htarget]
  | narrowWindow =>
      have hle := min_toNat_le s.executionWindowSlots 3
      have hthree : (3 : UInt64).toNat = 3 := rfl
      simp only [reduceCtorEq, false_implies, true_iff]
      omega
  | randomizedWithinWindow =>
      simp only [true_implies]
      omega
  | latencyAware =>
      have hle := min_toNat_le s.executionWindowSlots 2
      have htwo : (2 : UInt64).toNat = 2 := rfl
      simp only [reduceCtorEq, false_implies, true_iff]
      omega

theorem returns_draw {σ α : Type} {P : α → Prop} {next : σ → α × σ}
    (hnext : ∀ state, P (next state).1) : Returns P (draw next) :=
  fun state => ⟨(next state).1, (next state).2, rfl, hnext state⟩

/-- A slot is drawn within a bound that does not reach past the largest slot. -/
theorem returns_slotWithin (hrng : rng.InRange) {upper : UInt64}
    (hfits : targetSlot.toNat + upper.toNat < 2 ^ 64) :
    Returns (fun slot : UInt64 => targetSlot.toNat ≤ slot.toNat ∧
      slot.toNat ≤ targetSlot.toNat + upper.toNat) (slotWithin rng upper) := by
  refine (returns_draw (P := fun offset => offset ≤ upper) fun state => hrng upper state).bind ?_
  intro offset hoffset
  have hle := UInt64.le_iff_toNat_le.mp hoffset
  have hsum : (targetSlot + offset).toNat = targetSlot.toNat + offset.toNat := by
    rw [UInt64.toNat_add]
    exact Nat.mod_eq_of_lt (by omega)
  refine returns_lift (okOr_eq_ok.mpr (add64_eq_some.mpr hsum)) ?_
  rw [hsum]
  omega

/-- The slot of a participant lies in a window that fits. -/
theorem returns_releaseSlot (hrng : rng.InRange) (hfits : WindowFits s) :
    Returns (SlotInWindow s) (releaseSlot rng s) := by
  rw [windowFits_iff] at hfits
  unfold SlotInWindow releaseSlot
  unfold windowWidth at hfits ⊢
  cases hstrategy : s.releaseStrategy with
  | fixedSlot => exact returns_pure ⟨le_refl _, Nat.le_add_right _ _⟩
  | _ =>
      rw [hstrategy] at hfits
      exact returns_slotWithin hrng hfits

/-- A participant is observed in a window that fits. -/
theorem returns_observe (hrng : rng.InRange) (hfits : WindowFits s) (participant : UInt32) :
    Returns (fun o : Observation F => SlotInWindow s o.slot) (observe fl rng s participant) := by
  have hanything {α : Type} (next : rng.State → α × rng.State) :
      Returns (fun _ => True) (draw next) := returns_draw fun _ => trivial
  have hdropped : Returns (fun _ => True) (genBool rng s.dropoutRate) :=
    (hanything rng.nextU64).bind fun _ _ => returns_pure trivial
  refine hdropped.bind fun dropped _ => ?_
  refine (returns_releaseSlot hrng hfits).bind fun slot hslot => ?_
  rcases (Signals.small_ofParticipant s participant slot).exists_total with ⟨signal, hsignal⟩
  refine (returns_lift (P := fun _ => True) (okOr_eq_ok.mpr hsignal) trivial).bind fun _ _ => ?_
  exact (hanything _).bind fun _ _ => returns_pure hslot

/-- All participants are observed in a window that fits. -/
theorem exists_observations (fl : Float64 F) (hrng : rng.InRange) (hfits : WindowFits s) :
    ∃ obs, observations fl rng s = .ok obs ∧ ∀ o ∈ obs, SlotInWindow s o.slot := by
  have hloop : Returns (fun obs => ∀ o ∈ obs, SlotInWindow s o.slot)
      (collect (observe fl rng s) (participants s)) :=
    Returns.collect fun participant _ => returns_observe hrng hfits participant
  rcases hloop (rng.seedFromU64 s.seed) with ⟨obs, state, hrun, hslots⟩
  exact ⟨obs, congrArg Prod.fst hrun, hslots⟩

/-! ## Evaluations -/

/-- The spread of slots in the window is at most the window. -/
theorem executionSpread_le {executed : List (Observation F)}
    (hslots : ∀ o ∈ executed, SlotInWindow s o.slot) :
    (executionSpread executed).toNat ≤ (windowWidth s).toNat := by
  by_cases hne : executed = []
  · rw [hne, executionSpread_nil]
    exact Nat.zero_le _
  · rcases executionSpread_spec hne with ⟨first, last, hfirst, hlast, -, hspread⟩
    rcases List.mem_map.mp hfirst with ⟨o, ho, rfl⟩
    rcases List.mem_map.mp hlast with ⟨o', ho', rfl⟩
    have hlow := (hslots o ho).1
    have hhigh := (hslots o' ho').2
    omega

/-- The linked and unlinked participants of a cohort have fewer than 2 ^ 32
pairs. -/
theorem pairs_lt {executed : List (Observation F)} (hlength : executed.length ≤ 100000) :
    (executed.filter (·.trueLink)).length * (executed.filter (!·.trueLink)).length < 2 ^ 32 := by
  have hsplit : (executed.filter (·.trueLink)).length + (executed.filter (!·.trueLink)).length =
      executed.length := (List.length_eq_length_filter_add _).symm
  have hsum : (executed.filter (·.trueLink)).length + (executed.filter (!·.trueLink)).length ≤
      100000 := hsplit ▸ hlength
  nlinarith [sq_nonneg (((executed.filter (·.trueLink)).length : Int) -
    (executed.filter (!·.trueLink)).length)]

/-- The metrics of few enough observations are computed. -/
theorem exists_metrics {value : F → Option Rat} {round : Rat → Rat} (hfl : fl.Rounds value round)
    {obs : List (Observation F)} (hlength : obs.length < 2 ^ 32) (announced : UInt32) :
    ∃ m, metrics fl obs announced = .ok m := by
  have hexecuted : (executedOf obs).length < 2 ^ 32 := (List.length_filter_le ..).trans_lt hlength
  have hdeviations : (deviations (executedOf obs)).length ≤ 2 ^ 53 := by
    rw [deviations, List.length_insertionSort, List.length_map]
    omega
  rcases exists_fingerprintGroups hexecuted with ⟨groups, hgroups, -⟩
  rcases exists_percentile hfl hdeviations (1 / 2) (by norm_num) (by norm_num) with
    ⟨median, hmedian⟩
  rcases exists_percentile hfl hdeviations (95 / 100) (by norm_num) (by norm_num) with
    ⟨p95, hp95⟩
  simp only [metrics, hgroups, hmedian, hp95]
  exact ⟨_, rfl⟩

/-- An evaluation stays in its window: it returns a report, every slot lies in the
window and the spread is at most the window, the groups of fingerprints hold the
observed cohort, which is at most the announced one, and no count leaves its 32
bits. -/
structure InWindow (h : Blake3 D) (fl : Float64 F) (rng : Generator F) (s : Scenario)
    (obs : List (Observation F)) (report : EvaluationReport F D) : Prop where
  observed : observations fl rng s = .ok obs
  evaluated : evaluate h fl rng s = .ok report
  slots : ∀ o ∈ obs, SlotInWindow s o.slot
  spread : report.metrics.executionSpreadSlots.toNat ≤ (windowWidth s).toNat
  groups : ∃ groups, fingerprintGroups (executedOf obs) = .ok groups ∧
    (groups.map Prod.snd).sum = report.metrics.observedCohortSize
  cohort : report.metrics.observedCohortSize ≤ s.participantCount.toNat
  pairs : ((executedOf obs).filter (·.trueLink)).length *
    ((executedOf obs).filter (!·.trueLink)).length < 2 ^ 32

/-- An accepted scenario whose window fits is evaluated within its window. -/
theorem exists_inWindow (h : Blake3 D) {value : F → Option Rat} {round : Rat → Rat}
    (hfl : fl.Rounds value round) (hvalid : s.validate = .ok ()) (hfits : WindowFits s)
    (hrng : rng.InRange) : ∃ obs report, InWindow h fl rng s obs report := by
  rcases exists_observations fl hrng hfits with ⟨obs, hobs, hslots⟩
  have hcount : s.participantCount.toNat ≤ 100000 :=
    UInt32.le_iff_toNat_le.mp (Scenario.validate_eq_ok.mp hvalid).2.2.1
  have hlength := length_observations hobs
  have hexecuted : (executedOf obs).length ≤ s.participantCount.toNat :=
    hlength ▸ List.length_filter_le ..
  have hobsSize : obs.length < 2 ^ 32 := by omega
  have hsize : (executedOf obs).length < 2 ^ 32 := by omega
  rcases exists_metrics hfl hobsSize s.participantCount with ⟨m, hmetrics⟩
  have hdescribes := describes_of_metrics hmetrics
  rcases exists_evaluate (h := h) hvalid hobs hmetrics with ⟨report, hevaluate, hsame⟩
  have hobserved : report.metrics.observedCohortSize = (executedOf obs).length := by
    rw [hsame, hdescribes.observed, observedCohortSize]
    omega
  rcases exists_fingerprintGroups hsize with ⟨groups, hgroups, hcounts⟩
  refine ⟨obs, report, hobs, hevaluate, hslots, ?_, ⟨groups, hgroups, ?_⟩, ?_, ?_⟩
  · rw [hsame, hdescribes.spread]
    exact executionSpread_le fun o ho => hslots o (List.mem_of_mem_filter ho)
  · rw [hcounts.sum_eq, hobserved, List.length_map]
  · rw [hobserved]
    exact hexecuted
  · exact pairs_lt (hexecuted.trans hcount)

/-! ## Windows that are too long -/

/-- A generator of the largest slots. -/
def topmost (F : Type) : Generator F where
  State := Unit
  seedFromU64 _ := ()
  nextU64 _ := (0, ())
  genRange upper _ := (upper, ())
  genRangeF64 low _ _ := (low, ())

theorem topmost_inRange : (topmost F).InRange :=
  fun upper _ => UInt64.le_refl upper

/-- The largest slot of a window that is too long overflows. -/
theorem observe_topmost (hlong : ¬WindowFits s) (participant : UInt32) :
    observe fl (topmost F) s participant () = (.error .overflow, ()) := by
  have hstrategy : s.releaseStrategy = .randomizedWithinWindow := by
    by_contra hother
    exact hlong fun hsame => absurd hsame hother
  rw [windowFits_iff, windowWidth, hstrategy] at hlong
  have hoverflow : add64 targetSlot s.executionWindowSlots = none := if_neg hlong
  have hslot : releaseSlot (topmost F) s () = (.error .overflow, ()) := by
    rw [releaseSlot, hstrategy]
    show (okOr (add64 targetSlot s.executionWindowSlots) EvaluationStop.overflow, ()) = _
    rw [hoverflow]
    rfl
  have hdropped : genBool (topmost F) s.dropoutRate () =
      (.ok (decide ((0 : UInt64).toNat < boolThreshold s.dropoutRate)), ()) := rfl
  exact (bind_of_eq_ok hdropped).trans (bind_of_eq_error hslot)

/-- A generator of the largest slots aborts the evaluation of a window that is
too long. -/
theorem observations_topmost (hvalid : s.validate = .ok ()) (hlong : ¬WindowFits s) :
    observations fl (topmost F) s = .error .overflow := by
  have htwo : 2 ≤ s.participantCount.toNat :=
    UInt32.le_iff_toNat_le.mp (Scenario.validate_eq_ok.mp hvalid).2.1
  rcases Nat.exists_eq_add_of_le' htwo with ⟨rest, hrest⟩
  have hparticipants : participants s =
      UInt32.ofNat 0 :: ((List.range (rest + 1)).map Nat.succ).map UInt32.ofNat := by
    rw [participants, hrest, List.range_succ_eq_map, List.map_cons]
  rw [observations, hparticipants]
  exact congrArg Prod.fst (collect_cons_eq_error (observe_topmost hlong _))

theorem evaluate_topmost (h : Blake3 D) (hvalid : s.validate = .ok ()) (hlong : ¬WindowFits s) :
    evaluate h fl (topmost F) s = .error .overflow := by
  simp only [evaluate, hvalid, observations_topmost hvalid hlong]
  rfl

/-- Every evaluation of an accepted scenario stays in its window, whatever the
generator returns within the requested ranges, exactly when the randomized window
ends at the largest slot or before. -/
theorem evaluate_inWindow_iff (h : Blake3 D) (fl : Float64 F) {value : F → Option Rat}
    {round : Rat → Rat} (hfl : fl.Rounds value round) (s : Scenario)
    (hvalid : s.validate = .ok ()) :
    (∀ rng : Generator F, rng.InRange → ∃ obs report, InWindow h fl rng s obs report) ↔
      WindowFits s := by
  constructor
  · intro hall
    by_contra hlong
    rcases hall (topmost F) topmost_inRange with ⟨obs, report, hwindow⟩
    have hobserved := hwindow.observed
    rw [observations_topmost hvalid hlong] at hobserved
    cases hobserved
  · exact fun hfits rng hrng => exists_inWindow h hfl hvalid hfits hrng

/-- Exact numbers are rounded to themselves. -/
theorem exactFloat_rounds : exactFloat.Rounds some id where
  round_mono _ _ hle := hle
  round_natCast _ _ := rfl
  value_ofNat _ _ := rfl
  value_ofRat _ _ _ := rfl
  value_mul := by
    rintro a b x y ⟨⟩ ⟨⟩ - -
    rfl
  roundToIndex_eq := by
    rintro a x ⟨⟩ - -
    rfl

/-- The small experiment has a short window. -/
theorem evaluate_inWindow_iff_demo : demoScenario.validate = .ok () ∧
    ((∀ rng : Generator Rat, rng.InRange →
        ∃ obs report, InWindow Blake3.checksum exactFloat rng demoScenario obs report) ↔
      WindowFits demoScenario) ∧ WindowFits demoScenario := by
  have hvalid : demoScenario.validate = .ok () := by decide +kernel
  refine ⟨hvalid, ?_, ?_⟩
  · exact evaluate_inWindow_iff Blake3.checksum exactFloat exactFloat_rounds demoScenario hvalid
  · intro hrandomized
    cases hrandomized

/-- The small experiment with the largest window, drawn at random. -/
def wideScenario : Scenario :=
  { demoScenario with
    releaseStrategy := .randomizedWithinWindow
    executionWindowSlots := 18446744073709551615 }

/-- The validation accepts the largest window, and its largest draw aborts the
evaluation. -/
theorem not_inWindow_wide : wideScenario.validate = .ok () ∧ (topmost Rat).InRange ∧
    evaluate Blake3.checksum exactFloat (topmost Rat) wideScenario = .error .overflow ∧
    ¬∃ obs report, InWindow Blake3.checksum exactFloat (topmost Rat) wideScenario obs report := by
  have hvalid : wideScenario.validate = .ok () := by decide +kernel
  have hlong : ¬WindowFits wideScenario := by
    intro hfits
    exact absurd (hfits rfl) (by decide)
  have haborted : evaluate Blake3.checksum exactFloat (topmost Rat) wideScenario =
      .error .overflow := evaluate_topmost Blake3.checksum hvalid hlong
  refine ⟨hvalid, topmost_inRange, haborted, ?_⟩
  rintro ⟨obs, report, hwindow⟩
  have hevaluated := hwindow.evaluated
  rw [haborted] at hevaluated
  cases hevaluated

end Simulator

end MirrorPool
