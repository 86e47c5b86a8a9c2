import MirrorPool.Client.FailClosed

/-!
# Progress of a round

An operation that fails leaves no trace, and one that succeeds only adds: the
root, the release and the window are written once, the count grows until the
round is sealed, and the state moves forward.  Both also hold where an operation
bypasses a guard.

Main results:

- Structure {lit}`Round.Keeps`: what a later moment keeps of an earlier one.
- Theorem {lit}`Round.CallStep.keeps`: every operation keeps it.
- Structure {lit}`Round.Progress`: the progress over all calls on a round.
- Theorem {lit}`Round.failure_atomic_progress_monotone`: failures leave no trace,
  and every run on an opened round makes progress.
-/

namespace MirrorPool

open Fallible Sessions

/-- The states that no edge leaves. -/
def RoundState.isTerminal : RoundState → Bool
  | completed | cancelled | expired => true
  | _ => false

/-- How far a state is from the draft; terminal states are farthest. -/
def RoundState.rank : RoundState → Nat
  | draft => 0
  | registration => 1
  | thresholdReached => 2
  | sealed => 3
  | releaseScheduled => 4
  | executionWindow => 5
  | finalizing => 6
  | completed | cancelled | expired => 7

theorem RoundState.rank_le (state : RoundState) : state.rank ≤ 7 := by
  cases state <;> decide

theorem RoundState.rank_lt_of_edge {state next : RoundState}
    (hedge : state.canTransitionTo next = true) : state.rank < next.rank := by
  cases state <;> cases next <;> simp_all [canTransitionTo, rank]

theorem RoundState.not_isTerminal_of_edge {state next : RoundState}
    (hedge : state.canTransitionTo next = true) : state.isTerminal = false := by
  cases state <;> simp_all [canTransitionTo, isTerminal]

/-- No edge leads back in front of the threshold. -/
theorem RoundState.isUnsealed_eq_false_of_edge {state next : RoundState}
    (hedge : state.canTransitionTo next = true) (hstate : state.isUnsealed = false) :
    next.isUnsealed = false := by
  cases hnext : next.isUnsealed with
  | false => rfl
  | true => exact absurd (hstate.symm.trans (isUnsealed_of_edge hedge (.inl hnext))) (by decide)

/-- The largest maximum that a registration passed. -/
def largestMax {D : Type} : List (RoundCall D) → Nat
  | [] => 0
  | .register _ max :: calls => Nat.max max.toNat (largestMax calls)
  | _ :: calls => largestMax calls

theorem le_largestMax {D : Type} {calls : List (RoundCall D)} {slot : UInt64} {max : UInt32}
    (hcall : .register slot max ∈ calls) : max.toNat ≤ largestMax calls := by
  induction calls with
  | nil => cases hcall
  | cons call calls ih =>
      rcases List.mem_cons.mp hcall with rfl | hlater
      · exact Nat.le_max_left ..
      · have hrest := ih hlater
        cases call with
        | register _ _ => exact hrest.trans (Nat.le_max_right ..)
        | _ => exact hrest

namespace Round

variable {D : Type} {round round' : Round D} {call : RoundCall D}
  {result : Except ProtocolError Unit}

/-- What a later moment keeps of an earlier one.  Past the threshold the count
does not change any more. -/
structure Keeps (before after : Round D) : Prop where
  root : ∀ root, before.cohortMerkleRoot = some root → after.cohortMerkleRoot = some root
  release : ∀ slot, before.releaseSlot = some slot → after.releaseSlot = some slot
  window_start : ∀ slot, before.executionWindowStart = some slot →
    after.executionWindowStart = some slot
  window_end : ∀ slot, before.executionWindowEnd = some slot → after.executionWindowEnd = some slot
  count_le : before.acceptedCohortSize ≤ after.acceptedCohortSize
  past_threshold : before.state.isUnsealed = false → after.state.isUnsealed = false
  count_eq : before.state.isUnsealed = false →
    after.acceptedCohortSize = before.acceptedCohortSize

theorem Keeps.refl (round : Round D) : Keeps round round :=
  ⟨fun _ h => h, fun _ h => h, fun _ h => h, fun _ h => h, UInt32.le_refl _, fun h => h,
    fun _ => rfl⟩

theorem Keeps.trans {first second third : Round D} (hfirst : Keeps first second)
    (hsecond : Keeps second third) : Keeps first third where
  root root h := hsecond.root root (hfirst.root root h)
  release slot h := hsecond.release slot (hfirst.release slot h)
  window_start slot h := hsecond.window_start slot (hfirst.window_start slot h)
  window_end slot h := hsecond.window_end slot (hfirst.window_end slot h)
  count_le := UInt32.le_trans hfirst.count_le hsecond.count_le
  past_threshold h := hsecond.past_threshold (hfirst.past_threshold h)
  count_eq h := (hsecond.count_eq (hfirst.past_threshold h)).trans (hfirst.count_eq h)

/-- A round without a release has no window. -/
def WindowUnset (round : Round D) : Prop :=
  round.releaseSlot = none → round.executionWindowStart = none ∧ round.executionWindowEnd = none

/-! ## Steps -/

theorem CallStep.windowUnset (hstep : CallStep call result round round')
    (hunset : WindowUnset round) : WindowUnset round' := by
  cases hstep with
  | failed => exact hunset
  | moved => exact hunset
  | registered => exact hunset
  | sealed => exact hunset
  | scheduled => exact fun hnone => absurd hnone (by simp)

/-- Every operation keeps what is there. -/
theorem CallStep.keeps (hstep : CallStep call result round round')
    (hunset : WindowUnset round) : Keeps round round' := by
  cases hstep with
  | failed => exact .refl round
  | moved hedge =>
      exact { Keeps.refl round with
        past_threshold := RoundState.isUnsealed_eq_false_of_edge hedge
        count_eq := fun _ => rfl }
  | registered hstate _ _ hcount =>
      have hopen : round.state.isUnsealed = true := by
        rcases hstate with hstate | hstate <;> rw [hstate] <;> rfl
      refine { Keeps.refl round with count_le := ?_, count_eq := ?_ }
      · rw [UInt32.le_iff_toNat_le, add32_eq_some.mp hcount]
        exact Nat.le_add_right ..
      · exact fun hpast => absurd (hpast.symm.trans hopen) (by decide)
  | sealed _ _ hnone =>
      refine { Keeps.refl round with
        root := ?_, past_threshold := fun _ => rfl, count_eq := fun _ => rfl }
      intro root hroot
      exact absurd (hnone.symm.trans hroot) (by simp)
  | scheduled _ hnone =>
      rcases hunset hnone with ⟨hstart, hend⟩
      refine { Keeps.refl round with
        release := ?_, window_start := ?_, window_end := ?_, past_threshold := fun _ => rfl,
        count_eq := fun _ => rfl }
      · exact fun _ hsome => absurd (hnone.symm.trans hsome) (by simp)
      · exact fun _ hsome => absurd (hstart.symm.trans hsome) (by simp)
      · exact fun _ hsome => absurd (hend.symm.trans hsome) (by simp)

/-- An operation leaves the state alone or moves it forward. -/
theorem CallStep.rank_le (hstep : CallStep call result round round') :
    round'.state = round.state ∨ round.state.rank < round'.state.rank := by
  cases hstep with
  | failed => exact .inl rfl
  | moved hedge => exact .inr (RoundState.rank_lt_of_edge hedge)
  | registered => exact .inl rfl
  | sealed hstate =>
      have hrank : RoundState.thresholdReached.rank < RoundState.sealed.rank := by decide
      exact .inr (by rwa [hstate])
  | scheduled hstate =>
      have hrank : RoundState.sealed.rank < RoundState.releaseScheduled.rank := by decide
      exact .inr (by rwa [hstate])

/-- A count grows within the maximum of its registration. -/
theorem CallStep.count_le {bound : Nat} (hstep : CallStep call result round round')
    (hbound : ∀ slot max, call = .register slot max → max.toNat ≤ bound)
    (hcount : round.acceptedCohortSize.toNat ≤ bound) :
    round'.acceptedCohortSize.toNat ≤ bound := by
  cases hstep with
  | failed => exact hcount
  | moved => exact hcount
  | registered _ _ hroom hadd =>
      have hmax := hbound _ _ rfl
      have hsum := add32_eq_some.mp hadd
      have hlt := UInt32.lt_iff_toNat_lt.mp hroom
      show UInt32.toNat _ ≤ bound
      rw [hsum]
      exact (Nat.succ_le_of_lt hlt).trans hmax
  | sealed => exact hcount
  | scheduled => exact hcount

/-- In a terminal state every operation fails, and changes nothing. -/
theorem fails_of_isTerminal (call : RoundCall D) (hterminal : round.state.isTerminal = true) :
    ∃ error, call.perform round = (.error error, round) := by
  have hstep := callStep_perform call round
  rcases hperform : call.perform round with ⟨result, round'⟩
  rw [hperform] at hstep
  cases hstep with
  | @failed _ error => exact ⟨error, rfl⟩
  | moved hedge =>
      rw [RoundState.not_isTerminal_of_edge hedge] at hterminal
      contradiction
  | registered hstate =>
      rcases hstate with hstate | hstate <;> rw [hstate] at hterminal <;> contradiction
  | sealed hstate =>
      rw [hstate] at hterminal
      contradiction
  | scheduled hstate =>
      rw [hstate] at hterminal
      contradiction

/-! ## Runs -/

section Runs

variable {config : PoolConfig D} {roundId slot deadline : UInt64} {opened : Round D}
  {calls : List (RoundCall D)}

/-- Whatever the calls, there is no window before the release. -/
theorem windowUnset_run (hopened : WindowUnset opened) :
    WindowUnset (afterCalls opened calls) ∧
      ∀ v ∈ callHistory opened calls, WindowUnset v.before ∧ WindowUnset v.after := by
  apply Runs.run_invariant WindowUnset hopened
  intro v hv hbefore
  exact (callStep_of_mem_visits hv).windowUnset hbefore

/-- Calls keep what is there. -/
theorem keeps_run (hopened : WindowUnset opened) : Keeps opened (afterCalls opened calls) := by
  apply Runs.run_related Keeps.refl (fun _ _ _ => Keeps.trans)
  intro v hv
  exact (callStep_of_mem_visits hv).keeps ((windowUnset_run hopened).2 v hv).1

/-- The count stays within the largest maximum that was passed. -/
theorem count_run (hopened : opened.acceptedCohortSize = 0) :
    (afterCalls opened calls).acceptedCohortSize.toNat ≤ largestMax calls := by
  have hstart : opened.acceptedCohortSize.toNat ≤ largestMax calls := by
    rw [hopened]
    exact Nat.zero_le _
  refine (Runs.run_invariant
    (fun round : Round D => round.acceptedCohortSize.toNat ≤ largestMax calls) hstart ?_).1
  intro v hv hbefore
  refine (callStep_of_mem_visits hv).count_le ?_ hbefore
  intro slot max hinput
  rcases Runs.mem_visits.mp hv with ⟨earlier, later, hcalls, -, -⟩
  have hcall : .register slot max ∈ calls := by
    rw [hcalls, ← hinput]
    exact List.mem_append_right _ List.mem_cons_self
  exact le_largestMax hcall

/-- The operation changes the state. -/
def changesState (v : CallVisit D) : Bool :=
  v.after.state != v.before.state

/-- Every change of the state raises its rank. -/
theorem changes_run :
    (callHistory opened calls).countP changesState + opened.state.rank ≤ 7 := by
  have hrun : (callHistory opened calls).countP changesState + opened.state.rank ≤
      (afterCalls opened calls).state.rank := by
    apply Runs.countP_visits_add_le (fun round : Round D => round.state.rank)
    · intro v hv hchange
      rcases (callStep_of_mem_visits hv).rank_le with hsame | hrise
      · simp [changesState, hsame] at hchange
      · exact hrise
    · intro v hv
      rcases (callStep_of_mem_visits hv).rank_le with hsame | hrise
      · rw [hsame]
      · exact Nat.le_of_lt hrise
  exact hrun.trans (RoundState.rank_le _)

/-- The progress of a round: what was there at some moment is still there at the
end, the count stays within the largest maximum that was passed, the state
changes at most six times, and a terminal state is the end. -/
structure Progress (opened : Round D) (calls : List (RoundCall D)) : Prop where
  kept : ∀ earlier later, calls = earlier ++ later →
    Keeps (afterCalls opened earlier) (afterCalls opened calls)
  counted : (afterCalls opened calls).acceptedCohortSize.toNat ≤ largestMax calls
  moves : (callHistory opened calls).countP changesState ≤ 6
  frozen : (afterCalls opened calls).state.isTerminal = true → ∀ call : RoundCall D,
    ∃ error, call.perform (afterCalls opened calls) = (.error error, afterCalls opened calls)

theorem windowUnset_openedRound :
    WindowUnset (RoundCommand.openedRound config roundId slot deadline) :=
  fun _ => ⟨rfl, rfl⟩

/-- An operation that fails leaves the round as it was, and on an opened round
every sequence of operations makes progress. -/
theorem failure_atomic_progress_monotone :
    (∀ (call : RoundCall D) (round round' : Round D) (error : ProtocolError),
      call.perform round = (.error error, round') → round' = round) ∧
    ∀ (config : PoolConfig D) (roundId slot deadline : UInt64) (calls : List (RoundCall D)),
      Progress (RoundCommand.openedRound config roundId slot deadline) calls := by
  refine ⟨fun call round round' error hfail => ?_, fun config roundId slot deadline calls => ?_⟩
  · exact call.atomic_perform round error round' hfail
  · refine ⟨fun earlier later hcalls => ?_, count_run rfl, ?_, fun hterminal call => ?_⟩
    · have hsplit :
          afterCalls (RoundCommand.openedRound config roundId slot deadline) calls =
            afterCalls (afterCalls (RoundCommand.openedRound config roundId slot deadline) earlier)
              later := by
        rw [hcalls]
        exact Runs.run_append _ _ _
      rw [hsplit]
      exact keeps_run (windowUnset_run windowUnset_openedRound).1
    · have hchanges :
          (callHistory (RoundCommand.openedRound config roundId slot deadline) calls).countP
            changesState +
            (RoundCommand.openedRound config roundId slot deadline).state.rank ≤ 7 :=
        changes_run
      have hrank :
          (RoundCommand.openedRound config roundId slot deadline).state.rank = 1 := rfl
      omega
    · exact fails_of_isTerminal call hterminal

end Runs

end Round

end MirrorPool
