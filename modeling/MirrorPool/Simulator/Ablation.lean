import MirrorPool.Simulator.Evaluation

/-!
# Ablation

An observer with fewer features sees a fingerprint with some values replaced by
zero.  The draws are the same, and a fingerprint determines its six values, so
taking features away merges groups of participants and never splits one.

Main results:

- Theorem {lit}`Signals.fingerprint_injective`: a fingerprint determines its
  values.
- Theorem {lit}`Simulator.lockstep_ablation`: the runs for two observers are
  aligned.
- Theorem {lit}`Simulator.ablation_coarsens`: fewer features leave the timing as
  it is, no more groups, and no smaller one.
-/

namespace MirrorPool

open Fallible Sessions

/-- The second features are among the first ones. -/
structure ObserverFeatures.Includes (features features' : ObserverFeatures) : Prop where
  timing : features'.timing = true → features.timing = true
  instructionShape : features'.instructionShape = true → features.instructionShape = true
  feeBehavior : features'.feeBehavior = true → features.feeBehavior = true
  fundingGraph : features'.fundingGraph = true → features.fundingGraph = true
  amountBucket : features'.amountBucket = true → features.amountBucket = true
  historicalBehavior : features'.historicalBehavior = true → features.historicalBehavior = true

namespace Signals

/-! ## Values -/

/-- The values that are left with some features. -/
def restrict (features : ObserverFeatures) (signals : Signals) : Signals where
  timing := if features.timing then signals.timing else 0
  shape := if features.instructionShape then signals.shape else 0
  fee := if features.feeBehavior then signals.fee else 0
  funding := if features.fundingGraph then signals.funding else 0
  amount := if features.amountBucket then signals.amount else 0
  history := if features.historicalBehavior then signals.history else 0

/-- Fewer features show what they leave of the values. -/
theorem ofParticipant_restrict {s : Scenario} {features : ObserverFeatures}
    (hincludes : s.observerFeatures.Includes features) (participant : UInt32) (slot : UInt64) :
    ofParticipant { s with observerFeatures := features } participant slot =
      (ofParticipant s participant slot).restrict features := by
  have hkeep {a b : Bool} (himp : b = true → a = true) (x : UInt64) :
      (if b then x else 0) = if b then (if a then x else 0) else 0 := by
    cases b with
    | false => rfl
    | true => rw [himp rfl]; rfl
  simp only [ofParticipant, restrict, mk.injEq]
  exact ⟨hkeep hincludes.timing _, hkeep hincludes.instructionShape _,
    hkeep hincludes.feeBehavior _, hkeep hincludes.fundingGraph _,
    hkeep hincludes.amountBucket _, hkeep hincludes.historicalBehavior _⟩

/-- A number is determined by its decimal digits. -/
theorem decimal_injective {m n : Nat} (hsame : (toString m).toList = (toString n).toList) :
    m = n := by
  rw [Nat.toString_eq_repr, Nat.toString_eq_repr, Nat.toList_repr, Nat.toList_repr] at hsame
  have hvalue := congrArg (fun digits => Nat.ofDigitChars 10 digits 0) hsame
  simpa only [Nat.ofDigitChars_ten_toDigits] using hvalue

/-- A decimal number ends at the next colon. -/
theorem decimal_append_inj {m n : Nat} {s t : List Char}
    (happend : (toString m).toList ++ ':' :: s = (toString n).toList ++ ':' :: t) :
    m = n ∧ s = t := by
  have hcolon (k : Nat) : ':' ∉ (toString k).toList := by
    intro hmem
    rw [Nat.toString_eq_repr, Nat.toList_repr] at hmem
    exact absurd (Nat.isDigit_of_mem_toDigits (by decide) (by decide) hmem) (by decide)
  rcases append_separator_inj (hcolon m) (hcolon n) happend with ⟨hsame, hrest⟩
  exact ⟨decimal_injective hsame, hrest⟩

/-- A fingerprint determines its values. -/
theorem fingerprint_injective : Function.Injective fingerprint := by
  intro signals signals' hsame
  have hlist := congrArg String.toList hsame
  have hcolon : ":".toList = [':'] := rfl
  simp only [fingerprint, String.toList_append, List.append_assoc, hcolon, List.cons_append,
    List.nil_append] at hlist
  rcases decimal_append_inj hlist with ⟨htiming, hlist⟩
  rcases decimal_append_inj hlist with ⟨hshape, hlist⟩
  rcases decimal_append_inj hlist with ⟨hfee, hlist⟩
  rcases decimal_append_inj hlist with ⟨hfunding, hlist⟩
  rcases decimal_append_inj hlist with ⟨hamount, hlist⟩
  have hhistory := decimal_injective hlist
  rcases signals
  rcases signals'
  simp only [mk.injEq]
  exact ⟨UInt64.toNat_inj.mp htiming, UInt64.toNat_inj.mp hshape, UInt64.toNat_inj.mp hfee,
    UInt64.toNat_inj.mp hfunding, UInt64.toNat_inj.mp hamount, UInt64.toNat_inj.mp hhistory⟩

end Signals

/-- A participant before an observer with fewer features: only what is left of
its values is shown, and its score differs. -/
structure Observation.Coarsens {F : Type} (features : ObserverFeatures) (o o' : Observation F) :
    Prop where
  participant : o'.participant = o.participant
  executed : o'.executed = o.executed
  slot : o'.slot = o.slot
  trueLink : o'.trueLink = o.trueLink
  fingerprint : ∃ signals : Signals, o.fingerprint = signals.fingerprint ∧
    o'.fingerprint = (signals.restrict features).fingerprint

namespace Simulator

variable {F D : Type} {fl : Float64 F} {rng : Generator F} {s : Scenario}
  {features : ObserverFeatures}

/-! ## Alignment -/

/-- The observations of a participant by two observers. -/
theorem lockstep_ablation (hincludes : s.observerFeatures.Includes features)
    (participant : UInt32) :
    Lockstep (Observation.Coarsens features) (observe fl rng s participant)
      (observe fl rng { s with observerFeatures := features } participant) := by
  refine (lockstep_refl (genBool rng s.dropoutRate)).bind ?_
  rintro dropped _ rfl
  refine (lockstep_refl (releaseSlot rng s)).bind ?_
  rintro slot _ rfl
  rcases (Signals.small_ofParticipant s participant slot).exists_total with ⟨signal, hsignal⟩
  rcases (Signals.small_ofParticipant { s with observerFeatures := features } participant
    slot).exists_total with ⟨signal', hsignal'⟩
  -- the sums differ, and both are there
  refine (lockstep_lift (R := fun _ _ => True) (okOr_eq_ok.mpr hsignal) (okOr_eq_ok.mpr hsignal')
    trivial).bind fun _ _ _ => ?_
  refine (lockstep_refl _).bind ?_
  rintro noise _ rfl
  refine lockstep_pure ⟨rfl, rfl, rfl, rfl, Signals.ofParticipant s participant slot, rfl, ?_⟩
  rw [← Signals.ofParticipant_restrict hincludes]

/-! ## Coarser groups -/

/-- The fingerprints of the participants that executed, before two observers. -/
def fingerprintPairs (obs obs' : List (Observation F)) : List (String × String) :=
  ((executedOf obs).map (·.fingerprint)).zip ((executedOf obs').map (·.fingerprint))

/-- The same participants executed at the same time, and their groups are
merged: equal fingerprints stay equal, and there are no more groups, no more
groups of one participant, and no smaller ones. -/
structure Coarser (obs obs' : List (Observation F)) : Prop where
  participants : (executedOf obs').map (·.participant) = (executedOf obs).map (·.participant)
  slots : (executedOf obs').map (·.slot) = (executedOf obs).map (·.slot)
  observed : observedCohortSize (executedOf obs') = observedCohortSize (executedOf obs)
  spread : executionSpread (executedOf obs') = executionSpread (executedOf obs)
  deviations : deviations (executedOf obs') = deviations (executedOf obs)
  merges : Grouping.Merges (fingerprintPairs obs obs')
  groups : ∃ groups groups', fingerprintGroups (executedOf obs) = .ok groups ∧
    fingerprintGroups (executedOf obs') = .ok groups' ∧
    Grouping.smallest groups ≤ Grouping.smallest groups' ∧ groups'.length ≤ groups.length ∧
    uniqueGroups groups' ≤ uniqueGroups groups

/-- A value that is the same for every participant is the same for both lists. -/
theorem map_eq_of_coarsens {α : Type} {obs obs' : List (Observation F)} (f : Observation F → α)
    (hcoarsens : List.Forall₂ (Observation.Coarsens features) obs obs')
    (hsame : ∀ o o', Observation.Coarsens features o o' → f o' = f o) :
    obs'.map f = obs.map f := by
  induction hcoarsens with
  | nil => rfl
  | cons hhead _ ih => rw [List.map_cons, List.map_cons, hsame _ _ hhead, ih]

/-- Equal fingerprints stay equal. -/
theorem merges_of_coarsens {executed executed' : List (Observation F)}
    (hcoarsens : List.Forall₂ (Observation.Coarsens features) executed executed') :
    Grouping.Merges ((executed.map (·.fingerprint)).zip (executed'.map (·.fingerprint))) := by
  have hpairs : List.Forall₂ (fun x y => ∃ signals : Signals, x = signals.fingerprint ∧
      y = (signals.restrict features).fingerprint)
      (executed.map (·.fingerprint)) (executed'.map (·.fingerprint)) := by
    rw [List.forall₂_map_left_iff, List.forall₂_map_right_iff]
    exact hcoarsens.imp fun _ _ hcoarsen => hcoarsen.fingerprint
  intro x hx y hy hsame
  rcases (List.forall₂_iff_zip.mp hpairs).2 hx with ⟨signals, hx₁, hx₂⟩
  rcases (List.forall₂_iff_zip.mp hpairs).2 hy with ⟨signals', hy₁, hy₂⟩
  rw [hx₁, hy₁] at hsame
  rw [hx₂, hy₂, Signals.fingerprint_injective hsame]

/-- What fewer features change about the participants that executed. -/
theorem coarser_of_coarsens {obs obs' : List (Observation F)} (hlength : obs.length < 2 ^ 32)
    (hcoarsens : List.Forall₂ (Observation.Coarsens features) obs obs') : Coarser obs obs' := by
  have hexecuted :
      List.Forall₂ (Observation.Coarsens features) (executedOf obs) (executedOf obs') :=
    List.rel_filter (fun _ _ hcoarsen => iff_of_eq (congrArg (· = true) hcoarsen.executed.symm))
      hcoarsens
  have hsize : (executedOf obs).length < 2 ^ 32 :=
    (List.length_filter_le ..).trans_lt hlength
  have hslots : (executedOf obs').map (·.slot) = (executedOf obs).map (·.slot) :=
    map_eq_of_coarsens _ hexecuted fun _ _ hcoarsen => hcoarsen.slot
  have hmerges : Grouping.Merges (fingerprintPairs obs obs') := merges_of_coarsens hexecuted
  rcases exists_fingerprintGroups hsize with ⟨groups, hgroups, hcounts⟩
  rcases exists_fingerprintGroups (hexecuted.length_eq ▸ hsize) with ⟨groups', hgroups', hcounts'⟩
  have hleft : (fingerprintPairs obs obs').map Prod.fst = (executedOf obs).map (·.fingerprint) :=
    List.map_fst_zip (by rw [List.length_map, List.length_map, hexecuted.length_eq])
  have hright : (fingerprintPairs obs obs').map Prod.snd = (executedOf obs').map (·.fingerprint) :=
    List.map_snd_zip (by rw [List.length_map, List.length_map, hexecuted.length_eq])
  rw [← hleft] at hcounts
  rw [← hright] at hcounts'
  constructor
  case participants =>
    exact map_eq_of_coarsens _ hexecuted fun _ _ hcoarsen => hcoarsen.participant
  case slots => exact hslots
  case observed => rw [observedCohortSize, observedCohortSize, hexecuted.length_eq]
  case spread => rw [executionSpread, executionSpread, hslots]
  case deviations =>
    have hsame : ((executedOf obs').map fun o => absDiff o.slot targetSlot) =
        (executedOf obs).map fun o => absDiff o.slot targetSlot :=
      map_eq_of_coarsens _ hexecuted fun _ _ hcoarsen => by rw [hcoarsen.slot]
    rw [deviations, deviations, hsame]
  case merges => exact hmerges
  case groups =>
    refine ⟨groups, groups', hgroups, hgroups', hcounts.smallest_le hcounts' hmerges,
      hcounts.length_le hcounts' hmerges, ?_⟩
    -- a group that holds a whole merged group of one is a group of one
    refine hcounts.countP_le hcounts' hmerges (P := (· == 1)) fun m n hpos hle hone => ?_
    simp only [beq_iff_eq] at hone ⊢
    omega

/-- Of two scenarios that differ in the features of the observer, the second of
which are among the first, either both are aborted, or the same participants
execute at the same time and their groups are merged.  The reports then agree on
the cohort and its timing, and fewer features report no smaller groups. -/
theorem ablation_coarsens (h : Blake3 D) (fl : Float64 F) (rng : Generator F) (s : Scenario)
    {features : ObserverFeatures} (hincludes : s.observerFeatures.Includes features) :
    Aligned (Observation.Coarsens features) (observations fl rng s)
        (observations fl rng { s with observerFeatures := features }) ∧
      (∀ obs obs', observations fl rng s = .ok obs →
        observations fl rng { s with observerFeatures := features } = .ok obs' →
        Coarser obs obs') ∧
      ∀ report report', evaluate h fl rng s = .ok report →
        evaluate h fl rng { s with observerFeatures := features } = .ok report' →
        report'.metrics.observedCohortSize = report.metrics.observedCohortSize ∧
          report'.metrics.executionSpreadSlots = report.metrics.executionSpreadSlots ∧
          report'.metrics.medianTimingDeviation = report.metrics.medianTimingDeviation ∧
          report'.metrics.p95TimingDeviation = report.metrics.p95TimingDeviation ∧
          report.metrics.minimumKAnonymity ≤ report'.metrics.minimumKAnonymity := by
  have haligned : Aligned (Observation.Coarsens features) (observations fl rng s)
      (observations fl rng { s with observerFeatures := features }) :=
    aligned_observations rfl rfl (lockstep_ablation hincludes)
  have hobs : ∀ obs obs', observations fl rng s = .ok obs →
      observations fl rng { s with observerFeatures := features } = .ok obs' →
      Coarser obs obs' := by
    intro obs obs' hleft hright
    have hlength := length_observations_lt hleft
    rw [hleft, hright] at haligned
    exact coarser_of_coarsens hlength haligned.forall₂
  refine ⟨haligned, hobs, fun report report' hreport hreport' => ?_⟩
  rcases evaluate_eq_ok hreport with ⟨-, obs, hleft, hdescribes⟩
  rcases evaluate_eq_ok hreport' with ⟨-, obs', hright, hdescribes'⟩
  have hcoarser := hobs obs obs' hleft hright
  have hmedian := hdescribes'.median
  have hp95 := hdescribes'.p95
  rw [hcoarser.deviations, hdescribes.median] at hmedian
  rw [hcoarser.deviations, hdescribes.p95] at hp95
  rcases hdescribes.groups with ⟨groups, hgroups, hsmallest⟩
  rcases hdescribes'.groups with ⟨groups', hgroups', hsmallest'⟩
  rcases hcoarser.groups with ⟨_, _, hsame, hsame', hle, -, -⟩
  rw [hgroups] at hsame
  rw [hgroups'] at hsame'
  cases hsame
  cases hsame'
  refine ⟨?_, ?_, (Except.ok.inj hmedian).symm, (Except.ok.inj hp95).symm, ?_⟩
  · rw [hdescribes.observed, hdescribes'.observed, hcoarser.observed]
  · rw [hdescribes.spread, hdescribes'.spread, hcoarser.spread]
  · rw [hsmallest, hsmallest']
    exact hle

/-- All features tell four participants apart; the timing alone tells two groups
of two apart. -/
theorem ablation_coarsens_demo :
    Aligned (Observation.Coarsens ⟨true, false, false, false, false, false⟩)
        (observations exactFloat congruential demoScenario)
        (observations exactFloat congruential
          { demoScenario with observerFeatures := ⟨true, false, false, false, false, false⟩ }) ∧
      (evaluate Blake3.checksum exactFloat congruential demoScenario).toOption.map
        (·.metrics.minimumKAnonymity) = some 1 ∧
      (evaluate Blake3.checksum exactFloat congruential
        { demoScenario with
          observerFeatures := ⟨true, false, false, false, false, false⟩ }).toOption.map
        (·.metrics.minimumKAnonymity) = some 2 := by
  have hincludes :
      demoScenario.observerFeatures.Includes ⟨true, false, false, false, false, false⟩ :=
    ⟨fun _ => rfl, fun _ => rfl, fun _ => rfl, fun _ => rfl, fun _ => rfl, fun _ => rfl⟩
  refine ⟨(ablation_coarsens Blake3.checksum exactFloat congruential demoScenario hincludes).1,
    ?_, ?_⟩
  · decide +kernel
  · decide +kernel

end Simulator

end MirrorPool
