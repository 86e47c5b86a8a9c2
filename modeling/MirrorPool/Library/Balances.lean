import Mathlib.Algebra.BigOperators.Finprod

/-!
# Balances

Finitely many holders have a balance each.  An amount moves from one holder to
another one, and nobody else is affected; the sum of all balances stays the
same.

Main results:

- Structure {lit}`Balances.Moves`: an amount moves between two holders.
- Theorem {lit}`Balances.Moves.total_eq`: a move conserves the total.
-/

namespace Balances

universe u

variable {α : Type u}

/-- The balances of all holders together. -/
noncomputable def total (balance : α → Nat) : Nat :=
  finsum balance

/-- An amount moves from the source to the target, which are two holders. -/
structure Moves (before after : α → Nat) (source target : α) (amount : Nat) : Prop where
  distinct : source ≠ target
  debited : after source + amount = before source
  credited : after target = before target + amount
  others : ∀ a, a ≠ source → a ≠ target → after a = before a

variable {before after : α → Nat} {source target : α} {amount : Nat}

/-- A move conserves the total. -/
theorem Moves.total_eq [Finite α] (hmoves : Moves before after source target amount) :
    total after = total before := by
  classical
  -- on both sides the amount is added where the move takes it away
  have hpointwise : ∀ a, after a + (Pi.single source amount : α → Nat) a =
      before a + (Pi.single target amount : α → Nat) a := by
    intro a
    by_cases hsource : a = source
    · rw [hsource, Pi.single_eq_same, Pi.single_eq_of_ne hmoves.distinct, hmoves.debited,
        Nat.add_zero]
    · rw [Pi.single_eq_of_ne hsource]
      by_cases htarget : a = target
      · rw [htarget, Pi.single_eq_same, hmoves.credited, Nat.add_zero]
      · rw [Pi.single_eq_of_ne htarget, hmoves.others a hsource htarget]
  have hsingle : ∀ b, finsum (Pi.single b amount : α → Nat) = amount := by
    intro b
    rw [finsum_eq_single _ b fun a hne => Pi.single_eq_of_ne hne _, Pi.single_eq_same]
  have hsum := congrArg finsum (funext hpointwise)
  rw [finsum_add_distrib (Set.toFinite _) (Set.toFinite _),
    finsum_add_distrib (Set.toFinite _) (Set.toFinite _), hsingle, hsingle] at hsum
  exact Nat.add_right_cancel hsum

end Balances
