import MirrorPool.Library.Runs

/-!
# Systems that answer alike

A system answers each input and moves on.  One system simulates another one when
related states answer every input alike and stay related.  Over a whole run the
two give the same answers, so that whoever sees only the answers cannot tell them
apart.

An observer who gives only some of the inputs is separated from the others when
their inputs change nothing that it can see.  It then gets the answers of the run
in which its own inputs are the only ones.

Main results:

- Definition {lit}`Simulates`: related states answer alike and stay related.
- Theorem {lit}`Simulates.answers_eq`: over every run the answers are the same.
- Theorem {lit}`Simulates.run`: at the end of every run the states are related.
- Definition {lit}`Separates`: what an observer sees is left alone by others.
- Theorems {lit}`Separates.answers_eq` and {lit}`Separates.run`: the inputs of
  others can be left out of every run.
-/

namespace Runs

universe u v w

variable {σ τ : Type u} {ι : Type v} {ρ : Type w}

/-- The states of an answering system. -/
def move (act : σ → ι → ρ × σ) (s : σ) (i : ι) : σ := (act s i).2

/-- What a system answers to a sequence of inputs, in order. -/
def answers (act : σ → ι → ρ × σ) : σ → List ι → List ρ
  | _, [] => []
  | s, i :: inputs => (act s i).1 :: answers act (move act s i) inputs

variable {act : σ → ι → ρ × σ} {act' : τ → ι → ρ × τ}

/-- The answers are those of the visits. -/
theorem answers_eq_map_visits (s : σ) (inputs : List ι) :
    answers act s inputs = (visits (move act) s inputs).map fun v => (act v.before v.input).1 := by
  induction inputs generalizing s with
  | nil => rfl
  | cons i inputs ih => rw [answers, visits_cons, List.map_cons, ih]

/-- Related states answer alike and stay related. -/
structure Simulates (R : σ → τ → Prop) (act : σ → ι → ρ × σ) (act' : τ → ι → ρ × τ) : Prop where
  answer : ∀ s t i, R s t → (act s i).1 = (act' t i).1
  next : ∀ s t i, R s t → R (move act s i) (move act' t i)

variable {R : σ → τ → Prop} {s : σ} {t : τ}

/-- Related states are related after every run. -/
theorem Simulates.run (hsim : Simulates R act act') (hrelated : R s t) (inputs : List ι) :
    R (Runs.run (move act) s inputs) (Runs.run (move act') t inputs) := by
  induction inputs generalizing s t with
  | nil => exact hrelated
  | cons i inputs ih => exact ih (hsim.next s t i hrelated)

/-- Over every run the answers are the same. -/
theorem Simulates.answers_eq (hsim : Simulates R act act') (hrelated : R s t)
    (inputs : List ι) : answers act s inputs = answers act' t inputs := by
  induction inputs generalizing s t with
  | nil => rfl
  | cons i inputs ih =>
      rw [answers, answers, hsim.answer s t i hrelated, ih (hsim.next s t i hrelated)]

/-! ## Separation -/

/-- States that look alike answer the observer's own inputs alike, and look alike
after them; the inputs of others are not seen. -/
structure Separates (R : σ → σ → Prop) (own : ι → Bool) (act : σ → ι → ρ × σ) : Prop where
  answer : ∀ s t i, own i = true → R s t → (act s i).1 = (act t i).1
  next : ∀ s t i, own i = true → R s t → R (move act s i) (move act t i)
  silent : ∀ s t i, own i = false → R s t → R (move act s i) t

variable {R : σ → σ → Prop} {own : ι → Bool} {s t : σ}

/-- A run looks at its end as the one of the observer's own inputs does. -/
theorem Separates.run (hsep : Separates R own act) (hrelated : R s t) (inputs : List ι) :
    R (Runs.run (move act) s inputs) (Runs.run (move act) t (inputs.filter own)) := by
  induction inputs generalizing s t with
  | nil => exact hrelated
  | cons i inputs ih =>
      cases hown : own i with
      | false =>
          rw [run_cons, List.filter_cons_of_neg (by simp [hown])]
          exact ih (hsep.silent s t i hown hrelated)
      | true =>
          rw [run_cons, List.filter_cons_of_pos hown, run_cons]
          exact ih (hsep.next s t i hown hrelated)

/-- The observer's own inputs are answered as if there were no others. -/
theorem Separates.answers_eq (hsep : Separates R own act) (hrelated : R s t) (inputs : List ι) :
    ((visits (move act) s inputs).filter fun v => own v.input).map
        (fun v => (act v.before v.input).1) =
      answers act t (inputs.filter own) := by
  induction inputs generalizing s t with
  | nil => rfl
  | cons i inputs ih =>
      cases hown : own i with
      | false =>
          rw [visits_cons, List.filter_cons_of_neg (by simp [hown]),
            List.filter_cons_of_neg (by simp [hown])]
          exact ih (hsep.silent s t i hown hrelated)
      | true =>
          rw [visits_cons, List.filter_cons_of_pos (by simp [hown]), List.filter_cons_of_pos hown,
            List.map_cons, answers, hsep.answer s t i hown hrelated,
            ih (hsep.next s t i hown hrelated)]

end Runs
