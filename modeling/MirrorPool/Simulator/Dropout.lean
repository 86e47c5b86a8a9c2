import MirrorPool.Simulator.Evaluation

/-!
# Dropout

A higher dropout rate consumes the same draws: the rate only decides how many
values of the first draw of a participant make it drop out.  So the runs of two
rates stay aligned, and fewer participants execute under the higher one.

Main results:

- Structure {lit}`Observation.Drops`: what a higher rate does to an observation.
- Theorem {lit}`Simulator.lockstep_dropout`: the runs of two rates are aligned.
- Theorem {lit}`Simulator.dropout_monotone`: a higher rate does not enlarge the
  observed cohort or its spread.
-/

namespace MirrorPool

open Fallible Sessions

/-- A participant under a higher dropout rate: it may have dropped out, and
nothing else changed. -/
structure Observation.Drops {F : Type} (o o' : Observation F) : Prop where
  participant : o'.participant = o.participant
  slot : o'.slot = o.slot
  fingerprint : o'.fingerprint = o.fingerprint
  score : o'.score = o.score
  trueLink : o'.trueLink = o.trueLink
  executed : o'.executed = true → o.executed = true

namespace Simulator

variable {F D : Type} {fl : Float64 F} {rng : Generator F} {s : Scenario} {p q : Rat}

/-! ## Alignment -/

theorem boolThreshold_mono (hrate : p ≤ q) : boolThreshold p ≤ boolThreshold q :=
  Nat.floor_mono (mul_le_mul_of_nonneg_right hrate (by norm_num))

/-- A more likely event happens on every draw on which the other one does. -/
theorem lockstep_genBool (hrate : p ≤ q) :
    Lockstep (fun b b' => b = true → b' = true) (genBool rng p) (genBool rng q) := by
  refine (lockstep_refl (draw rng.nextU64)).bind ?_
  rintro value _ rfl
  apply lockstep_pure
  simp only [decide_eq_true_iff]
  exact fun hbelow => hbelow.trans_le (boolThreshold_mono hrate)

/-- The observations of a participant under two dropout rates. -/
theorem lockstep_dropout (hrate : s.dropoutRate ≤ q) (participant : UInt32) :
    Lockstep Observation.Drops (observe fl rng s participant)
      (observe fl rng { s with dropoutRate := q } participant) := by
  refine (lockstep_genBool hrate).bind fun dropped dropped' hdropped => ?_
  refine (lockstep_refl (releaseSlot rng s)).bind ?_
  rintro slot _ rfl
  refine (lockstep_refl _).bind ?_
  rintro signal _ rfl
  refine (lockstep_refl _).bind ?_
  rintro noise _ rfl
  refine lockstep_pure ⟨rfl, rfl, rfl, rfl, rfl, ?_⟩
  cases dropped with
  | false => exact fun _ => rfl
  | true => simp [hdropped rfl]

/-! ## Fewer observations -/

/-- The slots that are observed under a higher rate are among the others. -/
theorem sublist_of_drops {obs obs' : List (Observation F)}
    (hdrops : List.Forall₂ Observation.Drops obs obs') :
    ((executedOf obs').map (·.slot)).Sublist ((executedOf obs).map (·.slot)) := by
  induction hdrops with
  | nil => exact .slnil
  | @cons o o' obs obs' hdrop _ ih =>
      rw [executedOf, executedOf, List.filter_cons, List.filter_cons]
      split
      · rename_i hexecuted
        rw [if_pos (hdrop.executed hexecuted), List.map_cons, List.map_cons, hdrop.slot]
        exact ih.cons_cons _
      · split
        · exact ih.trans (List.sublist_cons_self ..)
        · exact ih

/-- Fewer slots are spread less. -/
theorem executionSpread_mono {executed executed' : List (Observation F)}
    (hsublist : (executed'.map (·.slot)).Sublist (executed.map (·.slot))) :
    executionSpread executed' ≤ executionSpread executed := by
  by_cases hne' : executed' = []
  · rw [hne', executionSpread_nil]
    exact UInt64.zero_le
  · have hne : executed ≠ [] := by
      rintro rfl
      exact hne' (List.map_eq_nil_iff.mp (List.sublist_nil.mp hsublist))
    rcases executionSpread_spec hne with ⟨first, last, -, -, hbounds, hspread⟩
    rcases executionSpread_spec hne' with ⟨first', last', hfirst', hlast', -, hspread'⟩
    have hfirst := UInt64.le_iff_toNat_le.mp (hbounds first' (hsublist.subset hfirst')).1
    have hlast := UInt64.le_iff_toNat_le.mp (hbounds last' (hsublist.subset hlast')).2
    rw [UInt64.le_iff_toNat_le, hspread, hspread']
    omega

theorem observedCohortSize_mono {executed executed' : List (Observation F)}
    (hsublist : (executed'.map (·.slot)).Sublist (executed.map (·.slot))) :
    observedCohortSize executed' ≤ observedCohortSize executed := by
  have hlength := hsublist.length_le
  rw [List.length_map, List.length_map] at hlength
  exact min_le_min_right _ hlength

/-- What a higher rate does not enlarge. -/
theorem cohort_le_of_drops {obs obs' : List (Observation F)}
    (hdrops : List.Forall₂ Observation.Drops obs obs') :
    observedCohortSize (executedOf obs') ≤ observedCohortSize (executedOf obs) ∧
      executionSpread (executedOf obs') ≤ executionSpread (executedOf obs) :=
  ⟨observedCohortSize_mono (sublist_of_drops hdrops),
    executionSpread_mono (sublist_of_drops hdrops)⟩

/-- Of two scenarios that differ in the dropout rate, either both are aborted, or
the observations differ only in that fewer participants execute under the higher
rate.  The observed cohort and its spread are then no larger, in the observations
and in the reports. -/
theorem dropout_monotone (h : Blake3 D) (fl : Float64 F) (rng : Generator F) (s : Scenario)
    {q : Rat} (hrate : s.dropoutRate ≤ q) :
    Aligned Observation.Drops (observations fl rng s)
        (observations fl rng { s with dropoutRate := q }) ∧
      (∀ obs obs', observations fl rng s = .ok obs →
        observations fl rng { s with dropoutRate := q } = .ok obs' →
        observedCohortSize (executedOf obs') ≤ observedCohortSize (executedOf obs) ∧
          executionSpread (executedOf obs') ≤ executionSpread (executedOf obs)) ∧
      ∀ report report', evaluate h fl rng s = .ok report →
        evaluate h fl rng { s with dropoutRate := q } = .ok report' →
        report'.metrics.observedCohortSize ≤ report.metrics.observedCohortSize ∧
          report'.metrics.executionSpreadSlots ≤ report.metrics.executionSpreadSlots := by
  have haligned : Aligned Observation.Drops (observations fl rng s)
      (observations fl rng { s with dropoutRate := q }) :=
    aligned_observations rfl rfl (lockstep_dropout hrate)
  have hobs : ∀ obs obs', observations fl rng s = .ok obs →
      observations fl rng { s with dropoutRate := q } = .ok obs' →
      observedCohortSize (executedOf obs') ≤ observedCohortSize (executedOf obs) ∧
        executionSpread (executedOf obs') ≤ executionSpread (executedOf obs) := by
    intro obs obs' hleft hright
    rw [hleft, hright] at haligned
    exact cohort_le_of_drops haligned.forall₂
  refine ⟨haligned, hobs, fun report report' hreport hreport' => ?_⟩
  rcases evaluate_eq_ok hreport with ⟨-, obs, hleft, hdescribes⟩
  rcases evaluate_eq_ok hreport' with ⟨-, obs', hright, hdescribes'⟩
  rw [hdescribes.observed, hdescribes.spread, hdescribes'.observed, hdescribes'.spread]
  exact hobs obs obs' hleft hright

/-- Four of six participants execute at a rate of one tenth, and three of them at
a rate of one half. -/
theorem dropout_monotone_demo :
    Aligned Observation.Drops (observations exactFloat congruential demoScenario)
        (observations exactFloat congruential { demoScenario with dropoutRate := 1 / 2 }) ∧
      (observations exactFloat congruential demoScenario).toOption.map
        (fun obs => observedCohortSize (executedOf obs)) = some 4 ∧
      (observations exactFloat congruential { demoScenario with dropoutRate := 1 / 2 }).toOption.map
        (fun obs => observedCohortSize (executedOf obs)) = some 3 := by
  have hrate : demoScenario.dropoutRate ≤ 1 / 2 := by decide +kernel
  refine ⟨(dropout_monotone Blake3.checksum exactFloat congruential demoScenario hrate).1, ?_, ?_⟩
  · decide +kernel
  · decide +kernel

end Simulator

end MirrorPool
