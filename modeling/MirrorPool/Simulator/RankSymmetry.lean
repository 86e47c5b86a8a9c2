import MirrorPool.Library.RankStatistic
import MirrorPool.Simulator.Evaluation

/-!
# Symmetry of the area under the curve

Scores are read as exact numbers.  A pair of a linked and an unlinked participant
is a tie when its scores are closer than {lit}`epsilon`, but the larger score is
looked for first: a linked participant that is ahead by less than
{lit}`epsilon` wins, and one that is behind by as little ties.  Relabelling every
participant therefore turns the area around exactly when no pair is that close.

Main results:

- Theorem {lit}`Simulator.auc_exactFloat`: the area is a rank statistic.
- Theorem {lit}`Simulator.aucSymmetric_iff`: when the area counts pairs
  symmetrically.
- Theorem {lit}`Simulator.not_aucSymmetric_nearTie`: a pair that is counted in
  two ways.
-/

namespace MirrorPool

namespace Simulator

/-- The same observation of a participant with the other label. -/
def flipLink {F : Type} (o : Observation F) : Observation F :=
  { o with trueLink := !o.trueLink }

/-- The observations with every participant relabelled. -/
abbrev flipLinks {F : Type} (obs : List (Observation F)) : List (Observation F) :=
  obs.map flipLink

/-- The area is a share, relabelling turns it around, and close pairs are ties. -/
structure AucSymmetric (obs : List (Observation Rat)) : Prop where
  nonneg : 0 ≤ auc exactFloat obs
  le_one : auc exactFloat obs ≤ 1
  flip : auc exactFloat (flipLinks obs) = 1 - auc exactFloat obs
  tie : ∀ p ∈ obs, p.trueLink = true → ∀ n ∈ obs, n.trueLink = false →
    |p.score - n.score| < epsilon exactFloat →
      pairWin exactFloat p n = 1 / 2 ∧ pairWin exactFloat n p = 1 / 2

/-- A linked and an unlinked participant have the same score or are
{lit}`epsilon` apart. -/
def ScoresApart (obs : List (Observation Rat)) : Prop :=
  ∀ p ∈ obs, p.trueLink = true → ∀ n ∈ obs, n.trueLink = false →
    p.score ≠ n.score → epsilon exactFloat ≤ |p.score - n.score|

/-! ## The area as a rank statistic -/

theorem epsilon_pos : 0 < epsilon exactFloat := by
  show (0 : Rat) < 1 / 2 ^ 52
  positivity

theorem pairWin_exactFloat (p n : Observation Rat) :
    pairWin exactFloat p n =
      RankStatistic.credit (epsilon exactFloat) p.score n.score := by
  simp only [pairWin, RankStatistic.credit, exactFloat, decide_eq_true_eq]
  norm_cast

/-- The linked participants. -/
def linkedOf (obs : List (Observation Rat)) : List (Observation Rat) :=
  obs.filter (·.trueLink)

/-- The unlinked participants. -/
def unlinkedOf (obs : List (Observation Rat)) : List (Observation Rat) :=
  obs.filter (!·.trueLink)

theorem mem_linkedOf {obs : List (Observation Rat)} {o : Observation Rat} :
    o ∈ linkedOf obs ↔ o ∈ obs ∧ o.trueLink = true :=
  List.mem_filter

theorem mem_unlinkedOf {obs : List (Observation Rat)} {o : Observation Rat} :
    o ∈ unlinkedOf obs ↔ o ∈ obs ∧ o.trueLink = false := by
  simp [unlinkedOf]

/-- The wins of all pairs, added one after another. -/
theorem foldl_pairWin (ps ns : List (Observation Rat)) :
    (ps.flatMap fun p => ns.map fun n => pairWin exactFloat p n).foldl exactFloat.add
        (exactFloat.ofRat 0) =
      RankStatistic.total (fun p n =>
        RankStatistic.credit (epsilon exactFloat) p.score n.score) ps ns := by
  have hfold : ∀ terms : List Rat,
      terms.foldl exactFloat.add (exactFloat.ofRat 0) = terms.sum :=
    fun terms => List.sum_eq_foldl.symm
  rw [hfold, RankStatistic.total_eq]
  simp only [pairWin_exactFloat]

/-- The area is a rank statistic. -/
theorem auc_exactFloat {obs : List (Observation Rat)} (hlinked : linkedOf obs ≠ [])
    (hunlinked : unlinkedOf obs ≠ []) :
    auc exactFloat obs = RankStatistic.statistic (epsilon exactFloat) Observation.score
      (linkedOf obs) (unlinkedOf obs) := by
  have hpairs : ¬(linkedOf obs = [] ∨ unlinkedOf obs = []) := not_or.mpr ⟨hlinked, hunlinked⟩
  have hauc : auc exactFloat obs = exactFloat.div
      (((linkedOf obs).flatMap fun p => (unlinkedOf obs).map fun n =>
        pairWin exactFloat p n).foldl exactFloat.add (exactFloat.ofRat 0))
      (exactFloat.ofNat ((linkedOf obs).length * (unlinkedOf obs).length)) := if_neg hpairs
  rw [hauc, foldl_pairWin]
  rfl

/-! ## Relabelling -/

/-- The linked participants are the ones that were unlinked. -/
theorem linkedOf_flipLinks (obs : List (Observation Rat)) :
    linkedOf (flipLinks obs) = flipLinks (unlinkedOf obs) := by
  rw [linkedOf, List.filter_map]
  rfl

/-- The unlinked participants are the ones that were linked. -/
theorem unlinkedOf_flipLinks (obs : List (Observation Rat)) :
    unlinkedOf (flipLinks obs) = flipLinks (linkedOf obs) := by
  rw [unlinkedOf, List.filter_map, linkedOf]
  simp only [Function.comp_def, flipLink, Bool.not_not]

/-- Relabelling keeps the scores, so the area of the relabelled observations is
the rank statistic in the other order. -/
theorem auc_flipLinks {obs : List (Observation Rat)} (hlinked : linkedOf obs ≠ [])
    (hunlinked : unlinkedOf obs ≠ []) :
    auc exactFloat (flipLinks obs) = RankStatistic.statistic (epsilon exactFloat)
      Observation.score (unlinkedOf obs) (linkedOf obs) := by
  have hlinked' : linkedOf (flipLinks obs) ≠ [] := by
    rw [linkedOf_flipLinks]
    exact mt List.map_eq_nil_iff.mp hunlinked
  have hunlinked' : unlinkedOf (flipLinks obs) ≠ [] := by
    rw [unlinkedOf_flipLinks]
    exact mt List.map_eq_nil_iff.mp hlinked
  rw [auc_exactFloat hlinked' hunlinked', linkedOf_flipLinks, unlinkedOf_flipLinks]
  exact RankStatistic.statistic_map (epsilon exactFloat) flipLink (fun _ => rfl) _ _

/-- The area counts pairs symmetrically exactly when no linked and unlinked
participant have different scores that are closer than {lit}`epsilon`. -/
theorem aucSymmetric_iff (obs : List (Observation Rat))
    (hlinked : ∃ p ∈ obs, p.trueLink = true) (hunlinked : ∃ n ∈ obs, n.trueLink = false) :
    AucSymmetric obs ↔ ScoresApart obs := by
  rcases hlinked with ⟨p, hp, hplink⟩
  rcases hunlinked with ⟨n, hn, hnlink⟩
  have hps : linkedOf obs ≠ [] := List.ne_nil_of_mem (mem_linkedOf.mpr ⟨hp, hplink⟩)
  have hns : unlinkedOf obs ≠ [] := List.ne_nil_of_mem (mem_unlinkedOf.mpr ⟨hn, hnlink⟩)
  have hauc := auc_exactFloat hps hns
  have hflip : auc exactFloat (flipLinks obs) = 1 - auc exactFloat obs ↔ ScoresApart obs := by
    rw [auc_flipLinks hps hns, hauc, RankStatistic.statistic_swap_iff epsilon_pos hps hns]
    simp only [mem_linkedOf, mem_unlinkedOf, and_imp, ScoresApart]
  constructor
  · exact fun hsymmetric => hflip.mp hsymmetric.flip
  · intro hapart
    refine ⟨?_, ?_, hflip.mpr hapart, ?_⟩
    · rw [hauc]
      exact RankStatistic.statistic_nonneg _ _ _ _
    · rw [hauc]
      exact RankStatistic.statistic_le_one _ _ _ _
    · intro p hp hplink n hn hnlink hclose
      have hpn := hapart p hp hplink n hn hnlink
      rw [pairWin_exactFloat, pairWin_exactFloat]
      refine ⟨RankStatistic.credit_of_close epsilon_pos hpn hclose,
        RankStatistic.credit_of_close epsilon_pos ?_ ?_⟩
      · rw [abs_sub_comm]
        exact fun hne => hpn hne.symm
      · rwa [abs_sub_comm]

/-- An observation of an executed participant with the given score and label. -/
def scored (participant : UInt32) (score : Rat) (trueLink : Bool) : Observation Rat where
  participant
  executed := true
  slot := targetSlot
  fingerprint := "0:0:0:0:0:0"
  score
  trueLink

/-- Two participants whose scores are the double 0.5 and the next one. -/
def nearTie : List (Observation Rat) :=
  [scored 0 (1 / 2 + 1 / 2 ^ 53) true, scored 1 (1 / 2) false]

/-- The area is one for a linked participant that is ahead by less than
{lit}`epsilon`, and one half for one that is behind by as little. -/
theorem not_aucSymmetric_nearTie : (∃ p ∈ nearTie, p.trueLink = true) ∧
    (∃ n ∈ nearTie, n.trueLink = false) ∧ auc exactFloat nearTie = 1 ∧
      auc exactFloat (flipLinks nearTie) = 1 / 2 ∧ ¬AucSymmetric nearTie := by
  have hahead : auc exactFloat nearTie = 1 := by decide +kernel
  have hbehind : auc exactFloat (flipLinks nearTie) = 1 / 2 := by decide +kernel
  refine ⟨by decide, by decide, hahead, hbehind, ?_⟩
  intro hsymmetric
  have hflip := hsymmetric.flip
  rw [hahead, hbehind] at hflip
  norm_num at hflip

/-- Two participants whose scores are far apart. -/
def farScores : List (Observation Rat) :=
  [scored 0 (3 / 4) true, scored 1 (1 / 4) false]

/-- The area of scores that are far apart is turned around. -/
theorem aucSymmetric_iff_farScores : (AucSymmetric farScores ↔ ScoresApart farScores) ∧
    ScoresApart farScores := by
  refine ⟨aucSymmetric_iff farScores (by decide) (by decide), ?_⟩
  unfold ScoresApart
  decide +kernel

end Simulator

end MirrorPool
