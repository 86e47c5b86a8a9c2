import Mathlib.Data.Set.Function
import Mathlib.Data.Set.Lattice
import Mathlib.Order.CompletePartialOrder
import MirrorPool.Library.Runs

/-!
# Independent streams of inputs

The state is a map from addresses to values, and an input reads and writes
addresses that are known before it runs.  The inputs of several streams may come
in any order.  When no input writes what an input of another stream touches, a
stream sees only its own inputs, and the order among the streams is irrelevant.

Main results:

- Structure {lit}`Confined`: a step writes and reads inside declared addresses.
- Theorem {lit}`run_eqOn_territory`: on its own addresses a stream runs as if it
  were alone.
- Theorem {lit}`outcomes_eq`: its outcomes are those of running alone.
- Theorem {lit}`run_eq_of_streams`: two orders with the same streams lead to the
  same state.
-/

namespace Streams

open Runs

universe u v w x

variable {κ : Type u} {ν : Type u} {ι : Type v} {τ : Type w} {ρ : Type x}

/-- A step changes only the addresses that its input declares as written, and
what it puts there depends only on the addresses its input touches. -/
structure Confined (step : (κ → ν) → ι → κ → ν) (touches writes : ι → Set κ) : Prop where
  writes_touched : ∀ i, writes i ⊆ touches i
  frame : ∀ s i, ∀ a ∉ writes i, step s i a = s a
  determined : ∀ {s t} i, Set.EqOn s t (touches i) → Set.EqOn (step s i) (step t i) (touches i)

variable [DecidableEq τ]

/-- The inputs of one stream in order. -/
def stream (t : τ) (inputs : List (τ × ι)) : List ι :=
  (inputs.filter fun i => i.1 = t).map Prod.snd

/-- The addresses that the inputs of one stream touch. -/
def territory (touches : ι → Set κ) (t : τ) (inputs : List (τ × ι)) : Set κ :=
  {a | ∃ i ∈ stream t inputs, a ∈ touches i}

/-- No input writes an address that an input of another stream touches. -/
def Separate (touches writes : ι → Set κ) (inputs : List (τ × ι)) : Prop :=
  ∀ i ∈ inputs, ∀ j ∈ inputs, i.1 ≠ j.1 → Disjoint (writes i.2) (touches j.2)

/-- One step on an input with its stream. -/
def tagged (step : (κ → ν) → ι → κ → ν) (s : κ → ν) (i : τ × ι) : κ → ν :=
  step s i.2

/-- What the inputs of one stream bring about, in order. -/
def outcomes (step : (κ → ν) → ι → κ → ν) (outcome : (κ → ν) → ι → ρ) (t : τ) (s : κ → ν)
    (inputs : List (τ × ι)) : List ρ :=
  ((visits (tagged step) s inputs).filter fun v => v.input.1 = t).map fun v =>
    outcome v.before v.input.2

omit [DecidableEq τ] in
theorem run_tagged (step : (κ → ν) → ι → κ → ν) (s : κ → ν) (inputs : List (τ × ι)) :
    run (tagged step) s inputs = run step s (inputs.map Prod.snd) := by
  rw [run, run, List.foldl_map]
  rfl

/-! ## Streams -/

section Lists

variable {t u : τ} {i : ι} {inputs : List (τ × ι)}

theorem mem_stream : i ∈ stream t inputs ↔ (t, i) ∈ inputs := by
  simp [stream]

@[simp] theorem stream_cons_self (i : ι) (inputs : List (τ × ι)) :
    stream t ((t, i) :: inputs) = i :: stream t inputs := by
  simp [stream]

theorem stream_cons_of_ne (hne : u ≠ t) (i : ι) (inputs : List (τ × ι)) :
    stream t ((u, i) :: inputs) = stream t inputs := by
  simp [stream, hne]

end Lists

/-! ## One stream among the others -/

section Confinement

variable {step : (κ → ν) → ι → κ → ν} {touches writes : ι → Set κ} {s s' : κ → ν} {t : τ}
variable {inputs : List (τ × ι)} {T : Set κ}

/-- Two states that agree on a region still agree on it after a step that
touches no more than the region. -/
theorem Confined.eqOn_of_subset (hconfined : Confined step touches writes)
    (hagree : Set.EqOn s s' T) {i : ι} (hinside : touches i ⊆ T) :
    Set.EqOn (step s i) (step s' i) T := by
  intro a ha
  by_cases htouched : a ∈ touches i
  · exact hconfined.determined i (hagree.mono hinside) htouched
  · have hfree : a ∉ writes i := fun hwritten => htouched (hconfined.writes_touched i hwritten)
    rw [hconfined.frame s i a hfree, hconfined.frame s' i a hfree]
    exact hagree ha

/-- A step that writes nothing of a region leaves it alone. -/
theorem Confined.eqOn_of_disjoint (hconfined : Confined step touches writes)
    (hagree : Set.EqOn s s' T) {i : ι} (houtside : Disjoint (writes i) T) :
    Set.EqOn (step s i) s' T := by
  intro a ha
  rw [hconfined.frame s i a fun hwritten => Set.disjoint_left.mp houtside hwritten ha]
  exact hagree ha

/-- A region is in the hands of one stream: its own inputs stay inside, the
other inputs write nothing there. -/
def Holds (touches writes : ι → Set κ) (t : τ) (T : Set κ) (inputs : List (τ × ι)) : Prop :=
  ∀ i ∈ inputs, if i.1 = t then touches i.2 ⊆ T else Disjoint (writes i.2) T

/-- The addresses of a stream are in its hands. -/
theorem Separate.holds (hseparate : Separate touches writes inputs) (t : τ) :
    Holds touches writes t (territory touches t inputs) inputs := by
  intro i hi
  split
  · rename_i hown
    subst hown
    exact fun a ha => ⟨i.2, mem_stream.mpr hi, ha⟩
  · rename_i hother
    refine Set.disjoint_left.mpr fun a hwritten ⟨j, hj, htouched⟩ => ?_
    have hdisjoint := hseparate i hi (t, j) (mem_stream.mp hj) hother
    exact Set.disjoint_left.mp hdisjoint hwritten htouched

/-- In a region in its hands, a stream runs as if it were alone, and its
outcomes are those of running alone. -/
theorem Confined.run_eqOn (hconfined : Confined step touches writes)
    {outcome : (κ → ν) → ι → ρ}
    (houtcome : ∀ {r r'} i, Set.EqOn r r' (touches i) → outcome r i = outcome r' i)
    (hholds : Holds touches writes t T inputs) (hagree : Set.EqOn s s' T) :
    Set.EqOn (run (tagged step) s inputs) (run step s' (stream t inputs)) T ∧
      outcomes step outcome t s inputs =
        (visits step s' (stream t inputs)).map fun v => outcome v.before v.input := by
  induction inputs generalizing s s' with
  | nil => exact ⟨hagree, rfl⟩
  | cons i inputs ih =>
      rcases i with ⟨u, i⟩
      have hhead := hholds (u, i) List.mem_cons_self
      have hrest : Holds touches writes t T inputs := fun j hj =>
        hholds j (List.mem_cons_of_mem _ hj)
      by_cases hown : u = t
      · subst hown
        rw [if_pos rfl] at hhead
        rcases ih hrest (hconfined.eqOn_of_subset hagree hhead) with ⟨hrun, hout⟩
        have hfirst : outcome s i = outcome s' i := houtcome i (hagree.mono hhead)
        simp only [outcomes] at hout
        simp only [outcomes, stream_cons_self, run_cons, visits_cons, tagged, List.map_cons,
          List.filter_cons, decide_true, if_true, hfirst] at hrun hout ⊢
        exact ⟨hrun, congrArg _ hout⟩
      · rw [if_neg hown] at hhead
        rcases ih hrest (hconfined.eqOn_of_disjoint hagree hhead) with ⟨hrun, hout⟩
        simp only [outcomes] at hout
        simp only [outcomes, stream_cons_of_ne hown, run_cons, visits_cons, tagged,
          List.filter_cons, hown, decide_false, Bool.false_eq_true, if_false] at hrun hout ⊢
        exact ⟨hrun, hout⟩

omit [DecidableEq τ] in
/-- What no input writes stays as it was. -/
theorem Confined.run_of_untouched (hconfined : Confined step touches writes) {a : κ}
    (huntouched : ∀ i ∈ inputs, a ∉ writes i.2) : run (tagged step) s inputs a = s a := by
  induction inputs generalizing s with
  | nil => rfl
  | cons i inputs ih =>
      rw [run_cons, ih fun j hj => huntouched j (List.mem_cons_of_mem _ hj), tagged,
        hconfined.frame s i.2 a (huntouched i List.mem_cons_self)]

/-! ## All streams together -/

/-- On its own addresses a stream runs as if it were alone. -/
theorem run_eqOn_territory (hconfined : Confined step touches writes)
    (hseparate : Separate touches writes inputs) (t : τ) :
    Set.EqOn (run (tagged step) s inputs) (run step s (stream t inputs))
      (territory touches t inputs) := by
  let outcome : (κ → ν) → ι → Unit := fun _ _ => ()
  have houtcome : ∀ {r r'} i, Set.EqOn r r' (touches i) → outcome r i = outcome r' i :=
    fun _ _ => rfl
  exact (hconfined.run_eqOn houtcome (hseparate.holds t) fun _ _ => rfl).1

/-- The outcomes of a stream are those of running alone. -/
theorem outcomes_eq (hconfined : Confined step touches writes)
    (hseparate : Separate touches writes inputs) {outcome : (κ → ν) → ι → ρ}
    (houtcome : ∀ {r r'} i, Set.EqOn r r' (touches i) → outcome r i = outcome r' i) (t : τ) :
    outcomes step outcome t s inputs =
      (visits step s (stream t inputs)).map fun v => outcome v.before v.input :=
  (hconfined.run_eqOn houtcome (hseparate.holds t) fun _ _ => rfl).2

/-- Two orders of separate inputs with the same streams lead to the same state. -/
theorem run_eq_of_streams (hconfined : Confined step touches writes)
    {inputs' : List (τ × ι)} (hseparate : Separate touches writes inputs)
    (hstreams : ∀ t, stream t inputs = stream t inputs') :
    run (tagged step) s inputs = run (tagged step) s inputs' := by
  have hmem (i : τ × ι) : i ∈ inputs ↔ i ∈ inputs' := by
    rw [← mem_stream (t := i.1) (i := i.2), hstreams i.1, mem_stream]
  have hseparate' : Separate touches writes inputs' := fun i hi j hj =>
    hseparate i ((hmem i).mpr hi) j ((hmem j).mpr hj)
  funext a
  by_cases hwritten : ∃ i ∈ inputs, a ∈ writes i.2
  · rcases hwritten with ⟨⟨t, i⟩, hi, ha⟩
    have hinside : a ∈ territory touches t inputs :=
      ⟨i, mem_stream.mpr hi, hconfined.writes_touched i ha⟩
    have hinside' : a ∈ territory touches t inputs' := by
      rwa [territory, ← hstreams t]
    rw [run_eqOn_territory hconfined hseparate t hinside,
      run_eqOn_territory hconfined hseparate' t hinside', hstreams t]
  · rw [hconfined.run_of_untouched fun i hi ha => hwritten ⟨i, hi, ha⟩,
      hconfined.run_of_untouched fun i hi ha => hwritten ⟨i, (hmem i).mpr hi, ha⟩]

end Confinement

end Streams
