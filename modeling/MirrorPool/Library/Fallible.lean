import Mathlib.Data.UInt
import Mathlib.Tactic.Common

/-!
# Fallible steps and checked machine words

Handlers that return an error are written in the {lit}`Except` monad.  This
library holds the three primitive steps such handlers are built from, the
inversion rule of each one, and the checked additions and subtractions of the
fixed-width words they compute with.

Main results:

- Theorem {lit}`bind_eq_ok`: a sequenced computation succeeds exactly when both
  halves succeed.
- Theorems {lit}`failIf_eq_ok` and {lit}`okOr_eq_ok`: what a passed guard and an
  unwrapped option say.
- Theorem {lit}`Avoids.bind`: a sequence avoids the errors that both halves
  avoid.
- Theorems {lit}`add64_eq_some`, {lit}`sub64_eq_some`, and
  {lit}`add32_eq_some`: a checked operation succeeds exactly when the exact
  result fits.
-/

namespace Fallible

universe u v

variable {ε : Type u} {α β : Type v}

/-! ## Guards and options -/

/-- Stop with an error when the condition holds. -/
def failIf (bad : Prop) [Decidable bad] (error : ε) : Except ε Unit :=
  if bad then .error error else .ok ()

/-- Unwrap an option, or stop with an error. -/
def okOr (value : Option α) (error : ε) : Except ε α :=
  match value with
  | some a => .ok a
  | none => .error error

/-- A sequenced computation succeeds exactly when both halves succeed. -/
theorem bind_eq_ok {first : Except ε α} {next : α → Except ε β} {b : β} :
    (first >>= next) = .ok b ↔ ∃ a, first = .ok a ∧ next a = .ok b := by
  rcases first with e | a
  · simp only [bind, Except.bind, reduceCtorEq, false_and, exists_false]
  · simp only [bind, Except.bind, Except.ok.injEq, exists_eq_left']

/-- A passed guard says that its condition does not hold. -/
theorem failIf_eq_ok {bad : Prop} [Decidable bad] {error : ε} {u : Unit} :
    failIf bad error = .ok u ↔ ¬bad := by
  unfold failIf
  split
  · simp_all
  · simp_all

/-- An unwrapped option holds the value that was read. -/
theorem okOr_eq_ok {value : Option α} {error : ε} {a : α} :
    okOr value error = .ok a ↔ value = some a := by
  cases value <;> simp [okOr]

@[simp] theorem pure_eq_ok {a b : α} : (pure a : Except ε α) = .ok b ↔ a = b := by
  simp [pure, Except.pure]

/-- A success does not depend on how errors are reported. -/
@[simp] theorem mapError_eq_ok {ε' : Type u} {result : Except ε α} {f : ε → ε'} {a : α} :
    result.mapError f = .ok a ↔ result = .ok a := by
  cases result <;> simp [Except.mapError]

/-! ## Errors -/

/-- The computation reports no error of the given kind. -/
def Avoids (bad : ε → Prop) (result : Except ε α) : Prop :=
  ∀ error, result = .error error → ¬bad error

section Avoids

variable {bad : ε → Prop} {error : ε}

/-- A success avoids every error. -/
theorem avoids_of_eq_ok {result : Except ε α} {a : α} (hok : result = .ok a) :
    Avoids bad result := by
  intro e herror
  rw [hok] at herror
  contradiction

/-- A sequence avoids the errors that both halves avoid. -/
theorem Avoids.bind {first : Except ε α} {next : α → Except ε β} (hfirst : Avoids bad first)
    (hnext : ∀ a, first = .ok a → Avoids bad (next a)) : Avoids bad (first >>= next) := by
  intro e herror
  rcases first with e' | a
  · exact hfirst e (by simpa [Bind.bind, Except.bind] using herror)
  · exact hnext a rfl e herror

theorem avoids_failIf {condition : Prop} [Decidable condition] (herror : ¬bad error) :
    Avoids bad (failIf condition error) := by
  intro e hfail
  unfold failIf at hfail
  split at hfail
  · exact Except.error.inj hfail ▸ herror
  · contradiction

theorem avoids_okOr {value : Option α} (herror : ¬bad error) : Avoids bad (okOr value error) := by
  intro e hfail
  cases value with
  | none => exact Except.error.inj hfail ▸ herror
  | some a => contradiction

end Avoids

/-! ## Checked words -/

/-- Checked addition of 64-bit words. -/
def add64 (a b : UInt64) : Option UInt64 :=
  if a.toNat + b.toNat < 2 ^ 64 then some (a + b) else none

/-- Checked subtraction of 64-bit words. -/
def sub64 (a b : UInt64) : Option UInt64 :=
  if b.toNat ≤ a.toNat then some (a - b) else none

/-- Checked addition of 32-bit words. -/
def add32 (a b : UInt32) : Option UInt32 :=
  if a.toNat + b.toNat < 2 ^ 32 then some (a + b) else none

/-- Checked addition succeeds exactly when the exact sum fits. -/
theorem add64_eq_some {a b c : UInt64} :
    add64 a b = some c ↔ c.toNat = a.toNat + b.toNat := by
  have hc := c.toNat_lt
  unfold add64
  split
  · rename_i hfit
    have hsum : (a + b).toNat = a.toNat + b.toNat := by
      rw [UInt64.toNat_add]
      exact Nat.mod_eq_of_lt hfit
    rw [Option.some.injEq, ← UInt64.toNat_inj, hsum]
    exact eq_comm
  · simp only [reduceCtorEq, false_iff]
    omega

/-- Checked subtraction succeeds exactly when the result is not negative. -/
theorem sub64_eq_some {a b c : UInt64} :
    sub64 a b = some c ↔ a.toNat = b.toNat + c.toNat := by
  unfold sub64
  split
  · rename_i hle
    have hdiff : (a - b).toNat = a.toNat - b.toNat :=
      UInt64.toNat_sub_of_le a b (UInt64.le_iff_toNat_le.mpr hle)
    rw [Option.some.injEq, ← UInt64.toNat_inj, hdiff]
    omega
  · simp only [reduceCtorEq, false_iff]
    omega

/-- Checked addition succeeds exactly when the exact sum fits. -/
theorem add32_eq_some {a b c : UInt32} :
    add32 a b = some c ↔ c.toNat = a.toNat + b.toNat := by
  have hc := c.toNat_lt
  unfold add32
  split
  · rename_i hfit
    have hsum : (a + b).toNat = a.toNat + b.toNat := by
      rw [UInt32.toNat_add]
      exact Nat.mod_eq_of_lt hfit
    rw [Option.some.injEq, ← UInt32.toNat_inj, hsum]
    exact eq_comm
  · simp only [reduceCtorEq, false_iff]
    omega

end Fallible
