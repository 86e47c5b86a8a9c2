import Mathlib.Data.List.Sort
import Mathlib.Data.String.Basic
import MirrorPool.Library.Grouping
import MirrorPool.Library.Lockstep
import MirrorPool.Simulator.Scenario

/-!
# The synthetic experiment

One generator is threaded through the participants.  Each of them draws whether
it drops out, a slot in the release window, and some noise for its score; what
the observer sees of it is a fingerprint of the enabled features.  The metrics
are about the participants that executed.

Main results:

- Definition {lit}`Simulator.observe`: the observation of one participant.
- Definition {lit}`Simulator.metrics`: the metrics of a list of observations.
- Definition {lit}`Simulator.evaluate`: the whole experiment.
- Theorem {lit}`Simulator.evaluate_eq_ok`: a report is that of the observations
  of an accepted scenario.
-/

namespace MirrorPool

open Fallible Sessions JsonText

/-! ## Fingerprints -/

/-- The values of the six feature groups. -/
structure Signals where
  timing : UInt64
  shape : UInt64
  fee : UInt64
  funding : UInt64
  amount : UInt64
  history : UInt64
deriving DecidableEq, Repr

namespace Signals

/-- The values that the enabled features show of a participant. -/
def ofParticipant (s : Scenario) (participant : UInt32) (slot : UInt64) : Signals where
  timing := if s.observerFeatures.timing then slot % 4 else 0
  shape := if s.observerFeatures.instructionShape then participant.toUInt64 % 5 else 0
  fee := if s.observerFeatures.feeBehavior then participant.toUInt64 % 3 else 0
  funding := if s.observerFeatures.fundingGraph then participant.toUInt64 % 7 else 0
  amount := if s.observerFeatures.amountBucket then participant.toUInt64 % 4 else 0
  history :=
    if s.observerFeatures.historicalBehavior then
      participant.toUInt64 % (max s.longitudinalPeriods 1).toUInt64
    else 0

/-- The values in decimal, with colons between them. -/
def fingerprint (signals : Signals) : String :=
  toString signals.timing.toNat ++ ":" ++ toString signals.shape.toNat ++ ":" ++
    toString signals.fee.toNat ++ ":" ++ toString signals.funding.toNat ++ ":" ++
    toString signals.amount.toNat ++ ":" ++ toString signals.history.toNat

/-- The sum of the values, with checked additions. -/
def total (signals : Signals) : Option UInt32 := do
  let total ← add32 signals.timing.toUInt32 signals.shape.toUInt32
  let total ← add32 total signals.fee.toUInt32
  let total ← add32 total signals.funding.toUInt32
  let total ← add32 total signals.amount.toUInt32
  add32 total signals.history.toUInt32

/-! ## Sums of signals -/

/-- Every value is below 65536. -/
structure Small (signals : Signals) : Prop where
  timing : signals.timing.toNat < 2 ^ 16
  shape : signals.shape.toNat < 2 ^ 16
  fee : signals.fee.toNat < 2 ^ 16
  funding : signals.funding.toNat < 2 ^ 16
  amount : signals.amount.toNat < 2 ^ 16
  history : signals.history.toNat < 2 ^ 16

/-- A remainder that may be hidden is below its divisor. -/
theorem remainder_lt {shown : Bool} {x k : UInt64} {bound : Nat} (hpos : 0 < k.toNat)
    (hk : k.toNat ≤ bound) : (if shown then x % k else 0).toNat < bound := by
  cases shown with
  | false => exact hpos.trans_le hk
  | true =>
      rw [if_pos rfl, UInt64.toNat_mod]
      exact (Nat.mod_lt _ hpos).trans_le hk

theorem small_ofParticipant (s : Scenario) (participant : UInt32) (slot : UInt64) :
    (ofParticipant s participant slot).Small where
  timing := remainder_lt (by decide) (by decide)
  shape := remainder_lt (by decide) (by decide)
  fee := remainder_lt (by decide) (by decide)
  funding := remainder_lt (by decide) (by decide)
  amount := remainder_lt (by decide) (by decide)
  history := by
    have hpos : 0 < (max s.longitudinalPeriods 1).toNat := by
      show 0 < (if s.longitudinalPeriods ≤ 1 then 1 else s.longitudinalPeriods).toNat
      split
      · decide
      · rename_i hlarge
        exact Nat.zero_lt_of_lt (UInt16.lt_iff_toNat_lt.mp (UInt16.not_le.mp hlarge))
    refine remainder_lt ?_ ?_
    · rwa [UInt16.toNat_toUInt64]
    · rw [UInt16.toNat_toUInt64]
      exact Nat.le_of_lt (UInt16.toNat_lt _)

/-- Adding a small value to a small sum does not overflow. -/
theorem exists_add32 {a : UInt32} {x : UInt64} (hfit : a.toNat + 2 ^ 16 ≤ 2 ^ 32)
    (hx : x.toNat < 2 ^ 16) :
    ∃ c, add32 a x.toUInt32 = some c ∧ c.toNat < a.toNat + 2 ^ 16 := by
  have hsame : x.toUInt32.toNat = x.toNat := by
    rw [UInt64.toNat_toUInt32]
    exact Nat.mod_eq_of_lt (by omega)
  refine ⟨a + x.toUInt32, add32_eq_some.mpr ?_, ?_⟩
  · rw [UInt32.toNat_add, hsame]
    exact Nat.mod_eq_of_lt (by omega)
  · rw [UInt32.toNat_add, hsame]
    exact (Nat.mod_le _ _).trans_lt (by omega)

/-- The sum of small values does not overflow. -/
theorem Small.exists_total {signals : Signals} (hsmall : signals.Small) :
    ∃ total, signals.total = some total := by
  have htiming : signals.timing.toUInt32.toNat < 2 ^ 16 := by
    rw [UInt64.toNat_toUInt32]
    exact (Nat.mod_le _ _).trans_lt hsmall.timing
  rcases exists_add32 (a := signals.timing.toUInt32) (by omega) hsmall.shape with ⟨b, hb, hbLt⟩
  rcases exists_add32 (a := b) (by omega) hsmall.fee with ⟨c, hc, hcLt⟩
  rcases exists_add32 (a := c) (by omega) hsmall.funding with ⟨d, hd, hdLt⟩
  rcases exists_add32 (a := d) (by omega) hsmall.amount with ⟨e, he, heLt⟩
  rcases exists_add32 (a := e) (by omega) hsmall.history with ⟨f, hf, -⟩
  refine ⟨f, ?_⟩
  simp only [total, hb, hc, hd, he, hf, Option.bind_eq_bind, Option.bind_some]

end Signals

namespace Simulator

variable {F D : Type}

/-! ## Observations -/

/-- Draw from the generator. -/
def draw {σ α : Type} (next : σ → α × σ) : Session σ EvaluationStop α := fun state =>
  (.ok (next state).1, (next state).2)

/-- The draws below this number are those of an event with the given
probability. -/
def boolThreshold (p : Rat) : Nat :=
  ⌊p * 2 ^ 64⌋₊

/-- Draw whether an event with the given probability below one happens. -/
def genBool (rng : Generator F) (p : Rat) : Session rng.State EvaluationStop Bool := do
  let value ← draw rng.nextU64
  return decide (value.toNat < boolThreshold p)

/-- The slot of the release. -/
def targetSlot : UInt64 := 10000

/-- A slot at most so far behind the release. -/
def slotWithin (rng : Generator F) (upper : UInt64) : Session rng.State EvaluationStop UInt64 := do
  let offset ← draw (rng.genRange upper)
  liftM (okOr (add64 targetSlot offset) EvaluationStop.overflow)

/-- The slot of a participant under the strategy of the scenario. -/
def releaseSlot (rng : Generator F) (s : Scenario) : Session rng.State EvaluationStop UInt64 :=
  match s.releaseStrategy with
  | .fixedSlot => pure targetSlot
  | .narrowWindow => slotWithin rng (min s.executionWindowSlots 3)
  | .randomizedWithinWindow => slotWithin rng s.executionWindowSlots
  | .latencyAware => slotWithin rng (min s.executionWindowSlots 2)

/-- The nearest number between two others. -/
def clamp (fl : Float64 F) (x low high : F) : F :=
  let x := if fl.lt x low then low else x
  if fl.lt high x then high else x

/-- The score of a signal under some noise. -/
def score (fl : Float64 F) (signal : UInt32) (noise : F) : F :=
  clamp fl (fl.add (fl.div (fl.ofNat signal.toNat) (fl.ofRat 28)) noise) (fl.ofRat 0) (fl.ofRat 1)

/-- The observation of one participant. -/
def observe (fl : Float64 F) (rng : Generator F) (s : Scenario) (participant : UInt32) :
    Session rng.State EvaluationStop (Observation F) := do
  let dropped ← genBool rng s.dropoutRate
  let slot ← releaseSlot rng s
  let signals := Signals.ofParticipant s participant slot
  let signal ← liftM (okOr signals.total EvaluationStop.overflow)
  let noise ← draw (rng.genRangeF64 (fl.ofRat 0) (fl.ofRat (15 / 100)))
  return {
    participant
    executed := !dropped
    slot
    fingerprint := signals.fingerprint
    score := score fl signal noise
    trueLink := participant % 2 = 0 }

/-- The participants of a scenario in order. -/
def participants (s : Scenario) : List UInt32 :=
  (List.range s.participantCount.toNat).map UInt32.ofNat

/-- The observations of all participants, from the seed of the scenario. -/
def observations (fl : Float64 F) (rng : Generator F) (s : Scenario) :
    Except EvaluationStop (List (Observation F)) :=
  (collect (observe fl rng s) (participants s) (rng.seedFromU64 s.seed)).1

/-! ## Metrics -/

/-- The observations of the participants that executed. -/
def executedOf (obs : List (Observation F)) : List (Observation F) :=
  obs.filter (·.executed)

/-- The number of observations, within 32 bits. -/
def observedCohortSize (executed : List (Observation F)) : Nat :=
  min executed.length (2 ^ 32 - 1)

/-- The distance between two slots. -/
def absDiff (a b : UInt64) : UInt64 :=
  if a < b then b - a else a - b

/-- The distances from the release in ascending order. -/
def deviations (executed : List (Observation F)) : List UInt64 :=
  (executed.map fun o => absDiff o.slot targetSlot).insertionSort (· ≤ ·)

/-- The deviation at a fraction of the list. -/
def percentile (fl : Float64 F) (deviations : List UInt64) (fraction : Rat) :
    Except EvaluationStop F :=
  if deviations = [] then return fl.ofRat 0
  else do
    let index := fl.roundToIndex (fl.mul (fl.ofNat (deviations.length - 1)) (fl.ofRat fraction))
    let deviation ← okOr deviations[index]? .outOfBounds
    return fl.ofNat deviation.toNat

/-- The slots between the first and the last one. -/
def executionSpread (executed : List (Observation F)) : UInt64 :=
  let last := (executed.map (·.slot)).max?.getD targetSlot
  let first := (executed.map (·.slot)).min?.getD targetSlot
  if first ≤ last then last - first else 0

/-- The fingerprints in order, each with the number of its participants. -/
def fingerprintGroups (executed : List (Observation F)) :
    Except EvaluationStop (List (String × Nat)) :=
  okOr (Grouping.tally (2 ^ 32) (executed.map (·.fingerprint))) .overflow

/-- The number of groups of one participant. -/
def uniqueGroups (groups : List (String × Nat)) : Nat :=
  groups.countP fun g => g.2 == 1

/-- The entropy of the groups. -/
def entropy (fl : Float64 F) (observed : Nat) (groups : List (String × Nat)) : F :=
  groups.foldl
    (fun sum g =>
      let p := fl.div (fl.ofNat g.2) (fl.ofNat (max observed 1))
      fl.sub sum (fl.mul p (fl.ln p)))
    (fl.ofRat 0)

/-- The numbers of true and false positives and negatives at a threshold. -/
structure Confusion (F : Type) where
  tp : F
  fp : F
  tn : F
  fn : F

def confusion (fl : Float64 F) (obs : List (Observation F)) (threshold : F) : Confusion F :=
  obs.foldl
    (fun c o =>
      match fl.le threshold o.score, o.trueLink with
      | true, true => { c with tp := fl.add c.tp (fl.ofRat 1) }
      | true, false => { c with fp := fl.add c.fp (fl.ofRat 1) }
      | false, false => { c with tn := fl.add c.tn (fl.ofRat 1) }
      | false, true => { c with fn := fl.add c.fn (fl.ofRat 1) })
    ⟨fl.ofRat 0, fl.ofRat 0, fl.ofRat 0, fl.ofRat 0⟩

/-- A quotient, or zero without a positive divisor. -/
def ratio (fl : Float64 F) (a b : F) : F :=
  if fl.lt (fl.ofRat 0) b then fl.div a b else fl.ofRat 0

/-- The gap between one and the next larger double. -/
def epsilon (fl : Float64 F) : F :=
  fl.ofRat (1 / 2 ^ 52)

/-- What a pair of a linked and an unlinked participant counts: a win, a tie, or
nothing. -/
def pairWin (fl : Float64 F) (p n : Observation F) : F :=
  if fl.lt n.score p.score then fl.ofRat 1
  else if fl.lt (fl.abs (fl.sub p.score n.score)) (epsilon fl) then fl.ofRat (1 / 2)
  else fl.ofRat 0

/-- The area under the curve, as the share of pairs that are won. -/
def auc (fl : Float64 F) (obs : List (Observation F)) : F :=
  let positives := obs.filter (·.trueLink)
  let negatives := obs.filter (!·.trueLink)
  if positives = [] ∨ negatives = [] then fl.ofRat (1 / 2)
  else
    let wins := (positives.flatMap fun p => negatives.map fun n => pairWin fl p n).foldl fl.add
      (fl.ofRat 0)
    fl.div wins (fl.ofNat (positives.length * negatives.length))

/-- The metrics of a list of observations. -/
def metrics (fl : Float64 F) (obs : List (Observation F)) (announced : UInt32) :
    Except EvaluationStop (EvaluationMetrics F) := do
  let executed := executedOf obs
  let observed := observedCohortSize executed
  let deviations := deviations executed
  let groups ← fingerprintGroups executed
  let entropy := entropy fl observed groups
  let confusion := confusion fl executed (fl.ofRat (1 / 2))
  let precision := ratio fl confusion.tp (fl.add confusion.tp confusion.fp)
  let linkageRecall := ratio fl confusion.tp (fl.add confusion.tp confusion.fn)
  let median ← percentile fl deviations (1 / 2)
  let p95 ← percentile fl deviations (95 / 100)
  return {
    announcedCohortSize := announced
    observedCohortSize := observed
    completionRate := ratio fl (fl.ofNat observed) (fl.ofNat announced.toNat)
    executionSpreadSlots := executionSpread executed
    medianTimingDeviation := median
    p95TimingDeviation := p95
    uniqueFingerprintRate := ratio fl (fl.ofNat (uniqueGroups groups)) (fl.ofNat observed)
    minimumKAnonymity := Grouping.smallest groups
    shannonEntropy := entropy
    effectiveAnonymitySet := fl.exp entropy
    normalizedEntropy :=
      if 1 < observed then fl.div entropy (fl.ln (fl.ofNat observed)) else fl.ofRat 0
    linkagePrecision := precision
    linkageRecall
    linkageF1 :=
      if fl.lt (fl.ofRat 0) (fl.add precision linkageRecall) then
        fl.div (fl.mul (fl.mul (fl.ofRat 2) precision) linkageRecall)
          (fl.add precision linkageRecall)
      else fl.ofRat 0
    rocAuc := auc fl executed
    falsePositiveRate := ratio fl confusion.fp (fl.add confusion.fp confusion.tn)
    falseNegativeRate := ratio fl confusion.fn (fl.add confusion.fn confusion.tp) }

/-! ## The experiment -/

/-- A truth value as text. -/
def jsonBool (value : Bool) : List UInt8 :=
  ascii (if value then "true" else "false")

/-- The text of an observation. -/
def observationJson (fl : Float64 F) (o : Observation F) : List UInt8 :=
  jsonObject [("participant", jsonNumber o.participant.toNat), ("executed", jsonBool o.executed),
    ("slot", jsonNumber o.slot.toNat), ("fingerprint", jsonString o.fingerprint),
    ("score", fl.json o.score), ("true_link", jsonBool o.trueLink)]

/-- What a synthetic experiment does not show. -/
def limitations : List String :=
  ["Synthetic observations do not prove real-world anonymity or unlinkability.",
    "The coordinator sees submitted tickets; network and funding metadata may relink users.",
    "Synchronization can create a detectable cohort fingerprint."]

/-- Run a deterministic synthetic experiment.  The serialization of the
observations does not fail. -/
def evaluate (h : Blake3 D) (fl : Float64 F) (rng : Generator F) (s : Scenario) :
    Except EvaluationStop (EvaluationReport F D) := do
  s.validate.mapError .failed
  let observations ← observations fl rng s
  let metrics ← metrics fl observations s.participantCount
  return {
    scenario := s
    metrics
    traceHash := h.hash "evaluation-trace" (jsonArray (observations.map (observationJson fl)))
    limitations }

/-! ## Rules -/

/-- The larger of two slots bounds both. -/
instance lawfulOrderMaxUInt64 : Std.LawfulOrderMax UInt64 where
  max_eq_or a b := by
    show (if a ≤ b then b else a) = a ∨ (if a ≤ b then b else a) = b
    split <;> simp
  max_le_iff a b c := by
    show (if a ≤ b then b else a) ≤ c ↔ a ≤ c ∧ b ≤ c
    simp only [UInt64.le_iff_toNat_le]
    split <;> omega

/-- There is one observation for each participant. -/
theorem length_observations {fl : Float64 F} {rng : Generator F} {s : Scenario}
    {obs : List (Observation F)} (hobs : observations fl rng s = .ok obs) :
    obs.length = s.participantCount.toNat := by
  have hrun : collect (observe fl rng s) (participants s) (rng.seedFromU64 s.seed) =
      (.ok obs, (collect (observe fl rng s) (participants s) (rng.seedFromU64 s.seed)).2) :=
    Prod.ext hobs rfl
  rw [length_of_collect_eq_ok hrun, participants, List.length_map, List.length_range]

/-- The number of observations has 32 bits. -/
theorem length_observations_lt {fl : Float64 F} {rng : Generator F} {s : Scenario}
    {obs : List (Observation F)} (hobs : observations fl rng s = .ok obs) :
    obs.length < 2 ^ 32 := by
  rw [length_observations hobs]
  exact s.participantCount.toNat_lt

/-- The groups of fewer than 2 ^ 32 participants. -/
theorem exists_fingerprintGroups {executed : List (Observation F)}
    (hlength : executed.length < 2 ^ 32) :
    ∃ groups, fingerprintGroups executed = .ok groups ∧
      Grouping.Counts groups (executed.map (·.fingerprint)) := by
  have hkeys : (executed.map (·.fingerprint)).length < 2 ^ 32 := by
    rwa [List.length_map]
  rcases Grouping.exists_tally hkeys with ⟨groups, htally, hcounts⟩
  exact ⟨groups, okOr_eq_ok.mpr htally, hcounts⟩

theorem executionSpread_nil : executionSpread ([] : List (Observation F)) = 0 := by
  simp [executionSpread]

/-- The spread of some slots is the distance between two of them that have all
others in between. -/
theorem executionSpread_spec {executed : List (Observation F)} (hne : executed ≠ []) :
    ∃ first last, first ∈ executed.map (·.slot) ∧ last ∈ executed.map (·.slot) ∧
      (∀ slot ∈ executed.map (·.slot), first ≤ slot ∧ slot ≤ last) ∧
      (executionSpread executed).toNat = last.toNat - first.toNat := by
  have hslots : executed.map (·.slot) ≠ [] := fun h => hne (List.map_eq_nil_iff.mp h)
  rcases Option.isSome_iff_exists.mp (List.isSome_max?_iff.mpr hslots) with ⟨last, hlast⟩
  rcases Option.isSome_iff_exists.mp (List.isSome_min?_iff.mpr hslots) with ⟨first, hfirst⟩
  rcases List.max?_eq_some_iff.mp hlast with ⟨hlastMem, hlastLe⟩
  rcases List.min?_eq_some_iff.mp hfirst with ⟨hfirstMem, hfirstLe⟩
  refine ⟨first, last, hfirstMem, hlastMem,
    fun slot hslot => ⟨hfirstLe slot hslot, hlastLe slot hslot⟩, ?_⟩
  have horder : first ≤ last := hfirstLe last hlastMem
  rw [executionSpread, hlast, hfirst, Option.getD_some, Option.getD_some, if_pos horder,
    UInt64.toNat_sub_of_le _ _ horder]

/-- The metrics are about the observations: what they say of the cohort, the slots
and the groups of fingerprints. -/
structure Describes (fl : Float64 F) (m : EvaluationMetrics F) (obs : List (Observation F)) :
    Prop where
  observed : m.observedCohortSize = observedCohortSize (executedOf obs)
  spread : m.executionSpreadSlots = executionSpread (executedOf obs)
  median : percentile fl (deviations (executedOf obs)) (1 / 2) = .ok m.medianTimingDeviation
  p95 : percentile fl (deviations (executedOf obs)) (95 / 100) = .ok m.p95TimingDeviation
  groups : ∃ groups, fingerprintGroups (executedOf obs) = .ok groups ∧
    m.minimumKAnonymity = Grouping.smallest groups

theorem describes_of_metrics {fl : Float64 F} {obs : List (Observation F)} {announced : UInt32}
    {m : EvaluationMetrics F} (hmetrics : metrics fl obs announced = .ok m) :
    Describes fl m obs := by
  simp only [metrics, Fallible.bind_eq_ok, Fallible.pure_eq_ok] at hmetrics
  rcases hmetrics with ⟨groups, hgroups, median, hmedian, p95, hp95, rfl⟩
  exact ⟨rfl, rfl, hmedian, hp95, groups, hgroups, rfl⟩

/-- A report is that of the observations of an accepted scenario. -/
theorem evaluate_eq_ok {h : Blake3 D} {fl : Float64 F} {rng : Generator F} {s : Scenario}
    {report : EvaluationReport F D} (hreport : evaluate h fl rng s = .ok report) :
    s.validate = .ok () ∧
      ∃ obs, observations fl rng s = .ok obs ∧ Describes fl report.metrics obs := by
  simp only [evaluate, Fallible.bind_eq_ok, mapError_eq_ok, Fallible.pure_eq_ok] at hreport
  rcases hreport with ⟨_, hvalid, obs, hobs, m, hmetrics, rfl⟩
  exact ⟨hvalid, obs, hobs, describes_of_metrics hmetrics⟩

/-- An accepted scenario whose observations and metrics are there has a report. -/
theorem exists_evaluate {h : Blake3 D} {fl : Float64 F} {rng : Generator F} {s : Scenario}
    {obs : List (Observation F)} {m : EvaluationMetrics F} (hvalid : s.validate = .ok ())
    (hobs : observations fl rng s = .ok obs)
    (hmetrics : metrics fl obs s.participantCount = .ok m) :
    ∃ report, evaluate h fl rng s = .ok report ∧ report.metrics = m := by
  simp only [evaluate, Fallible.bind_eq_ok, mapError_eq_ok, Fallible.pure_eq_ok]
  exact ⟨_, ⟨(), hvalid, obs, hobs, m, hmetrics, rfl⟩, rfl⟩

/-! ## Aligned runs -/

/-- Two runs are aborted in the same way, or their observations are related one by
one. -/
def Aligned (R : Observation F → Observation F → Prop)
    (run run' : Except EvaluationStop (List (Observation F))) : Prop :=
  (∃ stop, run = .error stop ∧ run' = .error stop) ∨
    ∃ obs obs', run = .ok obs ∧ run' = .ok obs' ∧ List.Forall₂ R obs obs'

/-- Runs are aligned when they are for every participant. -/
theorem aligned_observations {R : Observation F → Observation F → Prop} {fl : Float64 F}
    {rng : Generator F} {s s' : Scenario} (hseed : s'.seed = s.seed)
    (hcount : s'.participantCount = s.participantCount)
    (hobserve : ∀ participant,
      Lockstep R (observe fl rng s participant) (observe fl rng s' participant)) :
    Aligned R (observations fl rng s) (observations fl rng s') := by
  have hparticipants : participants s' = participants s := by
    rw [participants, participants, hcount]
  rw [observations, observations, hparticipants, hseed]
  rcases Lockstep.collect (fun participant (_ : participant ∈ participants s) =>
    hobserve participant) (rng.seedFromU64 s.seed) with
    ⟨stop, state, hleft, hright⟩ | ⟨obs, obs', state, hleft, hright, hrelated⟩
  · exact .inl ⟨stop, congrArg Prod.fst hleft, congrArg Prod.fst hright⟩
  · exact .inr ⟨obs, obs', congrArg Prod.fst hleft, congrArg Prod.fst hright, hrelated⟩

/-- The observations of two aligned runs that are not aborted. -/
theorem Aligned.forall₂ {R : Observation F → Observation F → Prop} {obs obs' : List (Observation F)}
    (haligned : Aligned R (.ok obs) (.ok obs')) : List.Forall₂ R obs obs' := by
  rcases haligned with ⟨stop, hleft, -⟩ | ⟨_, _, hleft, hright, hrelated⟩
  · cases hleft
  · cases hleft
    cases hright
    exact hrelated

/-! ## A small experiment -/

/-- Exact numbers, with logarithm and exponential to first order. -/
def exactFloat : Float64 Rat where
  ofRat x := x
  ofNat n := n
  add := (· + ·)
  sub := (· - ·)
  mul := (· * ·)
  div := (· / ·)
  abs x := |x|
  ln x := x - 1
  exp x := 1 + x
  lt x y := decide (x < y)
  le x y := decide (x ≤ y)
  roundToIndex x := ⌊x + 1 / 2⌋₊
  json x := jsonInteger x.num ++ 47 :: jsonNumber x.den

/-- A linear congruential generator. -/
def congruential : Generator Rat where
  State := UInt64
  seedFromU64 seed := seed
  nextU64 state :=
    let next := state * 6364136223846793005 + 1442695040888963407
    (next, next)
  genRange upper state :=
    let next := state * 6364136223846793005 + 1442695040888963407
    (if upper + 1 = 0 then next else next % (upper + 1), next)
  genRangeF64 low high state :=
    let next := state * 6364136223846793005 + 1442695040888963407
    (low + (high - low) * (next.toNat / 2 ^ 64), next)

/-- Six participants in a narrow window, all features enabled. -/
def demoScenario : Scenario where
  scenarioVersion := 1
  seed := 42
  participantCount := 6
  backend := .merkleCohort
  releaseStrategy := .narrowWindow
  executionWindowSlots := 4
  dropoutRate := 1 / 10
  longitudinalPeriods := 1
  observerFeatures := .default

end Simulator

end MirrorPool
