import MirrorPool.Library.Sessions

/-!
# Sessions in lockstep

Two sessions run on one state each, and both states are the same at the start.
They stay in lockstep when they stop with the same error or go on with related
results, on states that are the same again.

Main results:

- Definition {lit}`Sessions.Lockstep`: two sessions consume the same and return
  related results.
- Theorem {lit}`Sessions.Lockstep.bind`: the rule of sequences.
- Theorem {lit}`Sessions.Lockstep.collect`: the rule of loops.
-/

namespace Sessions

universe u

variable {σ ε : Type u} {α β α' β' γ : Type u}

/-- From every state, both sessions stop with the same error or return related
results, and leave the same state. -/
def Lockstep (R : α → β → Prop) (first : Session σ ε α) (second : Session σ ε β) : Prop :=
  ∀ s, (∃ e t, first s = (.error e, t) ∧ second s = (.error e, t)) ∨
    ∃ a b t, first s = (.ok a, t) ∧ second s = (.ok b, t) ∧ R a b

/-- A session is in lockstep with itself. -/
theorem lockstep_refl (session : Session σ ε α) : Lockstep Eq session session := by
  intro s
  rcases hrun : session s with ⟨e | a, t⟩
  · exact .inl ⟨e, t, rfl, rfl⟩
  · exact .inr ⟨a, a, t, rfl, rfl, rfl⟩

theorem lockstep_pure {R : α → β → Prop} {a : α} {b : β} (hrelated : R a b) :
    Lockstep R (pure a : Session σ ε α) (pure b) :=
  fun s => .inr ⟨a, b, s, rfl, rfl, hrelated⟩

/-- Two results that are both there keep the state. -/
theorem lockstep_lift {R : α → β → Prop} {result : Except ε α} {result' : Except ε β} {a : α}
    {b : β} (hleft : result = .ok a) (hright : result' = .ok b) (hrelated : R a b) :
    Lockstep R (liftM result : Session σ ε α) (liftM result') := by
  rw [hleft, hright]
  exact fun s => .inr ⟨a, b, s, rfl, rfl, hrelated⟩

/-- Sequences of sessions in lockstep are in lockstep. -/
theorem Lockstep.bind {R : α → β → Prop} {S : α' → β' → Prop} {first : Session σ ε α}
    {second : Session σ ε β} {next : α → Session σ ε α'} {next' : β → Session σ ε β'}
    (hfirst : Lockstep R first second) (hnext : ∀ a b, R a b → Lockstep S (next a) (next' b)) :
    Lockstep S (first >>= next) (second >>= next') := by
  intro s
  rcases hfirst s with ⟨e, t, hleft, hright⟩ | ⟨a, b, t, hleft, hright, hrelated⟩
  · exact .inl ⟨e, t, bind_of_eq_error hleft, bind_of_eq_error hright⟩
  · rw [bind_of_eq_ok hleft, bind_of_eq_ok hright]
    exact hnext a b hrelated t

/-- Run a session for each item and collect the results. -/
def collect (body : γ → Session σ ε α) : List γ → Session σ ε (List α)
  | [] => pure []
  | item :: items => do
      let result ← body item
      let results ← collect body items
      return result :: results

/-- Loops whose bodies are in lockstep are in lockstep. -/
theorem Lockstep.collect {R : α → β → Prop} {body : γ → Session σ ε α}
    {body' : γ → Session σ ε β} {items : List γ}
    (hbody : ∀ item ∈ items, Lockstep R (body item) (body' item)) :
    Lockstep (List.Forall₂ R) (collect body items) (collect body' items) := by
  induction items with
  | nil => exact lockstep_pure .nil
  | cons item items ih =>
      rw [List.forall_mem_cons] at hbody
      refine hbody.1.bind fun result result' hresult => ?_
      refine (ih hbody.2).bind fun results results' hresults => ?_
      exact lockstep_pure (.cons hresult hresults)

/-- A loop returns when its bodies do. -/
theorem Returns.collect {P : α → Prop} {body : γ → Session σ ε α} {items : List γ}
    (hbody : ∀ item ∈ items, Returns P (body item)) :
    Returns (fun results => ∀ result ∈ results, P result) (collect body items) := by
  induction items with
  | nil => exact returns_pure (by simp)
  | cons item items ih =>
      rw [List.forall_mem_cons] at hbody
      refine hbody.1.bind fun result hresult => ?_
      refine (ih hbody.2).bind fun results hresults => ?_
      exact returns_pure (List.forall_mem_cons.mpr ⟨hresult, hresults⟩)

/-- A loop stops when its first body does. -/
theorem collect_cons_eq_error {body : γ → Session σ ε α} {item : γ} {items : List γ} {s t : σ}
    {e : ε} (hfirst : body item s = (.error e, t)) :
    Sessions.collect body (item :: items) s = (.error e, t) :=
  bind_of_eq_error hfirst

/-- A loop returns one result for each item. -/
theorem length_of_collect_eq_ok {body : γ → Session σ ε α} {items : List γ} {s t : σ}
    {results : List α} (hloop : collect body items s = (.ok results, t)) :
    results.length = items.length := by
  induction items generalizing s t results with
  | nil =>
      rcases pure_eq_ok.mp hloop with ⟨rfl, -⟩
      rfl
  | cons item items ih =>
      rcases bind_eq_ok.mp hloop with ⟨result, s', -, hrest⟩
      rcases bind_eq_ok.mp hrest with ⟨rest, t', hitems, hpure⟩
      rcases pure_eq_ok.mp hpure with ⟨rfl, -⟩
      rw [List.length_cons, List.length_cons, ih hitems]

end Sessions
