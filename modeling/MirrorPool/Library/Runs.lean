import Mathlib.Data.List.Basic
import Mathlib.Tactic.Common

/-!
# Runs of a transition function

A system takes one input after another.  A visit records one step with the
states on its two sides; the visits of a run are its whole history, so that a
property of every moment, or of the number of times something happens, is a
property of one list.

Main results:

- Theorem {lit}`run_invariant`: an invariant kept by every visit holds at every
  moment of the run.
- Theorem {lit}`exists_visit_turning`: what becomes true does so in some visit.
- Theorem {lit}`mem_visits`: a visit splits the inputs at its own input.
- Theorem {lit}`visits_eq_append`: a part of the history is a run of its own.
- Theorems {lit}`visits_map` and {lit}`visits_filterMap`: a refinement maps
  histories to histories, also when some inputs leave the abstract state alone.
- Theorem {lit}`run_related`: a reflexive and transitive relation kept by every
  visit relates the two ends of the run.
- Theorem {lit}`countP_visits_le_one`: an event that disarms itself for ever
  happens at most once.
- Theorem {lit}`countP_visits_add_le`: an event that raises a measure happens at
  most as often as the measure rises.
-/

namespace Runs

universe u v

variable {σ : Type u} {ι : Type v}

/-- One step of a run, with the states on its two sides. -/
structure Visit (σ : Type u) (ι : Type v) where
  before : σ
  input : ι
  after : σ

/-- The state after a sequence of inputs. -/
def run (step : σ → ι → σ) (s : σ) (inputs : List ι) : σ :=
  inputs.foldl step s

/-- The steps of a run in order. -/
def visits (step : σ → ι → σ) : σ → List ι → List (Visit σ ι)
  | _, [] => []
  | s, i :: inputs => ⟨s, i, step s i⟩ :: visits step (step s i) inputs

variable {step : σ → ι → σ}

@[simp] theorem run_nil (s : σ) : run step s [] = s := rfl

@[simp] theorem run_cons (s : σ) (i : ι) (inputs : List ι) :
    run step s (i :: inputs) = run step (step s i) inputs := rfl

theorem run_append (s : σ) (first second : List ι) :
    run step s (first ++ second) = run step (run step s first) second :=
  List.foldl_append

@[simp] theorem visits_nil (s : σ) : visits step s [] = [] := rfl

@[simp] theorem visits_cons (s : σ) (i : ι) (inputs : List ι) :
    visits step s (i :: inputs) = ⟨s, i, step s i⟩ :: visits step (step s i) inputs := rfl

theorem visits_append (s : σ) (first second : List ι) :
    visits step s (first ++ second) =
      visits step s first ++ visits step (run step s first) second := by
  induction first generalizing s with
  | nil => rfl
  | cons i first ih => simp [ih]

/-- A history that is cut in two belongs to two runs, the second of which starts
where the first one ends. -/
theorem visits_eq_append {s : σ} {inputs : List ι} {first second : List (Visit σ ι)} :
    visits step s inputs = first ++ second ↔
      ∃ earlier later, inputs = earlier ++ later ∧ first = visits step s earlier ∧
        second = visits step (run step s earlier) later := by
  constructor
  · intro hvisits
    induction first generalizing s inputs with
    | nil => exact ⟨[], inputs, rfl, rfl, hvisits.symm⟩
    | cons v first ih =>
        cases inputs with
        | nil => cases hvisits
        | cons i inputs =>
            rw [visits_cons, List.cons_append, List.cons.injEq] at hvisits
            rcases hvisits with ⟨rfl, hrest⟩
            rcases ih hrest with ⟨earlier, later, rfl, rfl, hlater⟩
            exact ⟨i :: earlier, later, rfl, rfl, hlater⟩
  · rintro ⟨earlier, later, rfl, rfl, rfl⟩
    exact visits_append s earlier later

/-- A visit splits the inputs at its own input. -/
theorem mem_visits {s : σ} {inputs : List ι} {v : Visit σ ι} :
    v ∈ visits step s inputs ↔
      ∃ earlier later, inputs = earlier ++ v.input :: later ∧
        v.before = run step s earlier ∧ v.after = step v.before v.input := by
  constructor
  · intro hv
    induction inputs generalizing s with
    | nil => simp at hv
    | cons i inputs ih =>
        rcases List.mem_cons.mp hv with rfl | hlater
        · exact ⟨[], inputs, rfl, rfl, rfl⟩
        · rcases ih hlater with ⟨earlier, later, rfl, hbefore, hafter⟩
          exact ⟨i :: earlier, later, rfl, hbefore, hafter⟩
  · rintro ⟨earlier, later, rfl, hbefore, hafter⟩
    rw [visits_append, visits_cons, ← hbefore, ← hafter]
    exact List.mem_append_right _ List.mem_cons_self

/-- A visit ends where its step leads. -/
theorem after_of_mem_visits {s : σ} {inputs : List ι} {v : Visit σ ι}
    (hv : v ∈ visits step s inputs) : v.after = step v.before v.input := by
  rcases mem_visits.mp hv with ⟨_, _, _, _, hafter⟩
  exact hafter

section Refinement

variable {σ' : Type u} {ι' : Type v} {step' : σ' → ι' → σ'}

/-- A visit as an abstract system sees it. -/
def Visit.map (abstract : σ → σ') (input : ι → ι') (v : Visit σ ι) : Visit σ' ι' :=
  ⟨abstract v.before, input v.input, abstract v.after⟩

/-- The history of a system that refines another one is mapped to a history of
the other. -/
theorem visits_map {abstract : σ → σ'} {input : ι → ι'}
    (hrefines : ∀ s i, abstract (step s i) = step' (abstract s) (input i)) (s : σ)
    (inputs : List ι) :
    visits step' (abstract s) (inputs.map input) =
      (visits step s inputs).map (Visit.map abstract input) := by
  induction inputs generalizing s with
  | nil => rfl
  | cons i inputs ih =>
      rw [List.map_cons, visits_cons, visits_cons, List.map_cons, ← ih (step s i), hrefines]
      simp only [Visit.map, hrefines]

/-- A visit as an abstract system sees it, unless the system does not move. -/
def Visit.filterMap (abstract : σ → σ') (input : ι → Option ι') (v : Visit σ ι) :
    Option (Visit σ' ι') :=
  (input v.input).map fun i => ⟨abstract v.before, i, abstract v.after⟩

/-- A run in which some inputs leave the abstract state alone ends as the run of
the inputs that move it. -/
theorem run_filterMap {abstract : σ → σ'} {input : ι → Option ι'}
    (hstep : ∀ s i, abstract (step s i) = (input i).elim (abstract s) (step' (abstract s)))
    (s : σ) (inputs : List ι) :
    run step' (abstract s) (inputs.filterMap input) = abstract (run step s inputs) := by
  induction inputs generalizing s with
  | nil => rfl
  | cons i inputs ih =>
      rw [run_cons, ← ih (step s i), hstep]
      cases hinput : input i with
      | none => rw [List.filterMap_cons_none hinput, Option.elim_none]
      | some i' => rw [List.filterMap_cons_some hinput, run_cons, Option.elim_some]

/-- A history in which some inputs leave the abstract state alone is a history of
the inputs that move it. -/
theorem visits_filterMap {abstract : σ → σ'} {input : ι → Option ι'} {s : σ} {inputs : List ι}
    (hmoves : ∀ v ∈ visits step s inputs, ∀ i, input v.input = some i →
      abstract v.after = step' (abstract v.before) i)
    (hrests : ∀ v ∈ visits step s inputs, input v.input = none →
      abstract v.after = abstract v.before) :
    visits step' (abstract s) (inputs.filterMap input) =
      (visits step s inputs).filterMap (Visit.filterMap abstract input) := by
  induction inputs generalizing s with
  | nil => rfl
  | cons i inputs ih =>
      rw [visits_cons, List.forall_mem_cons] at hmoves hrests
      have hlater := ih hmoves.2 hrests.2
      cases hinput : input i with
      | none =>
          have hsame : abstract (step s i) = abstract s := hrests.1 hinput
          rw [hsame] at hlater
          rw [List.filterMap_cons_none hinput, visits_cons,
            List.filterMap_cons_none (by simp [Visit.filterMap, hinput]), hlater]
      | some i' =>
          have hmove : abstract (step s i) = step' (abstract s) i' := hmoves.1 i' hinput
          rw [hmove] at hlater
          rw [List.filterMap_cons_some hinput, visits_cons, visits_cons,
            List.filterMap_cons_some (b := ⟨abstract s, i', step' (abstract s) i'⟩)
              (by simp [Visit.filterMap, hinput, hmove]), hlater]

end Refinement

/-- An invariant kept by every visit holds at every moment of the run. -/
theorem run_invariant (Inv : σ → Prop) {s : σ} {inputs : List ι} (hstart : Inv s)
    (hkeep : ∀ v ∈ visits step s inputs, Inv v.before → Inv v.after) :
    Inv (run step s inputs) ∧ ∀ v ∈ visits step s inputs, Inv v.before ∧ Inv v.after := by
  induction inputs generalizing s with
  | nil => exact ⟨hstart, by simp⟩
  | cons i inputs ih =>
      rw [visits_cons, List.forall_mem_cons] at hkeep
      have hnext : Inv (step s i) := hkeep.1 hstart
      rcases ih hnext hkeep.2 with ⟨hend, hall⟩
      refine ⟨hend, ?_⟩
      rw [visits_cons, List.forall_mem_cons]
      exact ⟨⟨hstart, hnext⟩, hall⟩

/-- What holds at the end and not at the start turned true in some visit. -/
theorem exists_visit_turning (P : σ → Prop) {s : σ} {inputs : List ι} (hstart : ¬P s)
    (hend : P (run step s inputs)) : ∃ v ∈ visits step s inputs, ¬P v.before ∧ P v.after := by
  by_contra hnever
  have hkeep : ∀ v ∈ visits step s inputs, ¬P v.before → ¬P v.after :=
    fun v hv hbefore hafter => hnever ⟨v, hv, hbefore, hafter⟩
  exact (run_invariant (fun t => ¬P t) hstart hkeep).1 hend

/-- A reflexive and transitive relation kept by every visit relates the two
ends of the run. -/
theorem run_related {R : σ → σ → Prop} (hrefl : ∀ s, R s s)
    (htrans : ∀ s t u, R s t → R t u → R s u) {s : σ} {inputs : List ι}
    (hkeep : ∀ v ∈ visits step s inputs, R v.before v.after) :
    R s (run step s inputs) := by
  induction inputs generalizing s with
  | nil => exact hrefl s
  | cons i inputs ih =>
      rw [visits_cons, List.forall_mem_cons] at hkeep
      exact htrans s (step s i) _ hkeep.1 (ih hkeep.2)

/-- An event that needs an armed state does not happen in a run that starts
disarmed and stays so. -/
theorem countP_visits_eq_zero (armed : σ → Prop) {fires : Visit σ ι → Bool} {s : σ}
    {inputs : List ι} (hstart : ¬armed s)
    (hfires : ∀ v ∈ visits step s inputs, fires v = true → armed v.before)
    (hkeep : ∀ v ∈ visits step s inputs, ¬armed v.before → ¬armed v.after) :
    (visits step s inputs).countP fires = 0 := by
  have hnever := (run_invariant (fun t => ¬armed t) hstart hkeep).2
  rw [List.countP_eq_zero]
  intro v hv hfire
  exact (hnever v hv).1 (hfires v hv hfire)

/-- An event that disarms itself for ever happens at most once. -/
theorem countP_visits_le_one (armed : σ → Prop) {fires : Visit σ ι → Bool} {s : σ}
    {inputs : List ι}
    (hfires : ∀ v ∈ visits step s inputs, fires v = true → armed v.before ∧ ¬armed v.after)
    (hkeep : ∀ v ∈ visits step s inputs, ¬armed v.before → ¬armed v.after) :
    (visits step s inputs).countP fires ≤ 1 := by
  induction inputs generalizing s with
  | nil => simp
  | cons i inputs ih =>
      rw [visits_cons, List.forall_mem_cons] at hfires hkeep
      rw [visits_cons, List.countP_cons]
      by_cases hfire : fires ⟨s, i, step s i⟩ = true
      · have hrest := countP_visits_eq_zero armed (hfires.1 hfire).2
          (fun v hv hf => (hfires.2 v hv hf).1) hkeep.2
        simp [hrest, hfire]
      · rw [if_neg hfire]
        exact ih hfires.2 hkeep.2

/-- An event that raises a measure which never sinks happens at most as often as
the measure rises. -/
theorem countP_visits_add_le (measure : σ → Nat) {fires : Visit σ ι → Bool} {s : σ}
    {inputs : List ι}
    (hfires : ∀ v ∈ visits step s inputs, fires v = true → measure v.before < measure v.after)
    (hkeep : ∀ v ∈ visits step s inputs, measure v.before ≤ measure v.after) :
    (visits step s inputs).countP fires + measure s ≤ measure (run step s inputs) := by
  induction inputs generalizing s with
  | nil => simp
  | cons i inputs ih =>
      rw [visits_cons, List.forall_mem_cons] at hfires hkeep
      rw [visits_cons, List.countP_cons, run_cons]
      have hrest := ih hfires.2 hkeep.2
      by_cases hfire : fires ⟨s, i, step s i⟩ = true
      · have hrise : measure s < measure (step s i) := hfires.1 hfire
        rw [if_pos hfire]
        omega
      · have hfirst : measure s ≤ measure (step s i) := hkeep.1
        rw [if_neg hfire]
        omega

end Runs
