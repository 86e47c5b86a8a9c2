import MirrorPool.Client.Opening

/-!
# Sealing and scheduling guards

A round should be sealed only with enough participants and a root, and
scheduled only with a release window.  The operations for sealing and
scheduling check this, but the generic transition takes the same two edges of
the graph without any check.  Nothing else breaks the guards.

Main results:

- Structure {lit}`Round.FailClosed`: what a sealed or scheduled round has.
- Definition {lit}`Round.Bypasses`: the transitions around the guards.
- Theorem {lit}`Round.fail_closed_iff`: rounds are fail-closed at every moment
  exactly when no call bypasses a guard.
- Theorem {lit}`Round.sealed_without_root`: a run that does.
-/

namespace MirrorPool

open Fallible Sessions

/-- The states from the sealing on. -/
def RoundState.isSealed : RoundState → Bool
  | sealed | releaseScheduled | executionWindow | finalizing | completed => true
  | _ => false

/-- The states from the scheduling on. -/
def RoundState.isScheduled : RoundState → Bool
  | releaseScheduled | executionWindow | finalizing | completed => true
  | _ => false

/-- The states up to the threshold. -/
def RoundState.isUnsealed : RoundState → Bool
  | draft | registration | thresholdReached => true
  | _ => false

/-! Edges of the graph that enter these states come from them, or from the state
right before. -/

theorem RoundState.isUnsealed_of_edge {state next : RoundState}
    (hedge : state.canTransitionTo next = true)
    (hnext : next.isUnsealed = true ∨ next = .sealed) : state.isUnsealed = true := by
  cases state <;> cases next <;> simp_all [canTransitionTo, isUnsealed]

theorem RoundState.isSealed_of_edge {state next : RoundState}
    (hedge : state.canTransitionTo next = true) (hnext : next.isSealed = true) :
    state.isSealed = true ∨ (state = .thresholdReached ∧ next = .sealed) := by
  cases state <;> cases next <;> simp_all [canTransitionTo, isSealed]

theorem RoundState.isScheduled_of_edge {state next : RoundState}
    (hedge : state.canTransitionTo next = true) (hnext : next.isScheduled = true) :
    state.isScheduled = true ∨ (state = .sealed ∧ next = .releaseScheduled) := by
  cases state <;> cases next <;> simp_all [canTransitionTo, isScheduled]

/-- The call is one under a configuration: a seal passes its minimum, and a
schedule passes the configuration itself. -/
def RoundCall.Follows {D : Type} (config : PoolConfig D) : RoundCall D → Prop
  | transition _ => True
  | register _ _ => True
  | sealRound _ minimum => minimum = config.minParticipants
  | scheduleRelease _ _ used => used = config

namespace Round

variable {D : Type} {config : PoolConfig D}

/-- A sealed round has a root and enough participants, and a scheduled round has
its window. -/
structure FailClosed (config : PoolConfig D) (round : Round D) : Prop where
  sealed : round.state.isSealed = true →
    round.cohortMerkleRoot.isSome = true ∧ config.minParticipants ≤ round.acceptedCohortSize
  scheduled : round.state.isScheduled = true → ∃ release finish,
    round.releaseSlot = some release ∧ round.executionWindowStart = some release ∧
      round.executionWindowEnd = some finish ∧
      finish.toNat = release.toNat + config.executionWindowSlots.toNat

/-- The generic transition takes an edge that another operation guards. -/
def Bypasses (round : Round D) (call : RoundCall D) : Prop :=
  (round.state = .thresholdReached ∧ call = .transition .sealed) ∨
    (round.state = .sealed ∧ call = .transition .releaseScheduled)

instance [DecidableEq D] (round : Round D) (call : RoundCall D) :
    Decidable (round.Bypasses call) :=
  inferInstanceAs (Decidable ((round.state = .thresholdReached ∧ call = .transition .sealed) ∨
    (round.state = .sealed ∧ call = .transition .releaseScheduled)))

/-- The root and the release are not set before their time. -/
structure Unset (round : Round D) : Prop where
  root : round.state.isUnsealed = true → round.cohortMerkleRoot = none
  release : round.state.isUnsealed = true ∨ round.state = .sealed → round.releaseSlot = none

variable {round round' : Round D} {call : RoundCall D} {result : Except ProtocolError Unit}

/-! ## Steps -/

/-- A call does not set the root or the release before their time. -/
theorem CallStep.unset (hstep : CallStep call result round round') (hunset : Unset round) :
    Unset round' := by
  cases hstep with
  | failed => exact hunset
  | moved hedge =>
      constructor
      · intro hnext
        exact hunset.root (RoundState.isUnsealed_of_edge hedge (.inl hnext))
      · intro hnext
        exact hunset.release (.inl (RoundState.isUnsealed_of_edge hedge hnext))
  | registered => exact ⟨hunset.root, hunset.release⟩
  | sealed hstate _ _ =>
      have hrelease := hunset.release (.inl (by rw [hstate]; rfl))
      exact ⟨by simp [RoundState.isUnsealed], fun _ => hrelease⟩
  | scheduled => exact ⟨by simp [RoundState.isUnsealed], by simp [RoundState.isUnsealed]⟩

/-- A call that bypasses no guard keeps a round fail-closed. -/
theorem CallStep.failClosed (hstep : CallStep call result round round')
    (hfollows : call.Follows config) (hguarded : ¬round.Bypasses call)
    (hclosed : FailClosed config round) : FailClosed config round' := by
  cases hstep with
  | failed => exact hclosed
  | moved hedge =>
      constructor
      · intro hnext
        rcases RoundState.isSealed_of_edge hedge hnext with hbefore | ⟨hstate, rfl⟩
        · exact hclosed.sealed hbefore
        · exact absurd (.inl ⟨hstate, rfl⟩) hguarded
      · intro hnext
        rcases RoundState.isScheduled_of_edge hedge hnext with hbefore | ⟨hstate, rfl⟩
        · exact hclosed.scheduled hbefore
        · exact absurd (.inr ⟨hstate, rfl⟩) hguarded
  | registered hstate =>
      constructor
      · intro hsealed
        rcases hstate with hstate | hstate <;> simp [hstate, RoundState.isSealed] at hsealed
      · intro hscheduled
        rcases hstate with hstate | hstate <;> simp [hstate, RoundState.isScheduled] at hscheduled
  | sealed hstate hcount _ =>
      simp only [RoundCall.Follows] at hfollows
      subst hfollows
      exact ⟨fun _ => ⟨rfl, hcount⟩, by simp [RoundState.isScheduled]⟩
  | scheduled hstate _ _ _ _ hfinish =>
      simp only [RoundCall.Follows] at hfollows
      subst hfollows
      have hbefore := hclosed.sealed (by rw [hstate]; rfl)
      exact ⟨fun _ => hbefore, fun _ => ⟨_, _, rfl, rfl, rfl, add64_eq_some.mp hfinish⟩⟩

/-- A bypassed guard leaves a round without a root, or without a window. -/
theorem not_failClosed_of_bypasses (hunset : Unset round) (hbypass : round.Bypasses call) :
    ¬FailClosed config (round.step call) := by
  intro hclosed
  rcases hbypass with ⟨hstate, rfl⟩ | ⟨hstate, rfl⟩
  · have hstep : round.step (.transition .sealed) = { round with state := .sealed } := by
      rw [step, RoundCall.perform, transition_of_edge (by rw [hstate]; rfl)]
    rw [hstep] at hclosed
    have hroot := (hclosed.sealed rfl).1
    rw [hunset.root (by rw [hstate]; rfl)] at hroot
    simp at hroot
  · have hstep : round.step (.transition .releaseScheduled) =
        { round with state := .releaseScheduled } := by
      rw [step, RoundCall.perform, transition_of_edge (by rw [hstate]; rfl)]
    rw [hstep] at hclosed
    rcases hclosed.scheduled rfl with ⟨release, finish, hrelease, -⟩
    rw [hunset.release (.inr hstate)] at hrelease
    simp at hrelease

/-! ## Runs -/

section Runs

variable {h : Blake3 D} {roundId slot deadline : UInt64} {calls : List (RoundCall D)}

theorem unset_openedRound : Unset (RoundCommand.openedRound config roundId slot deadline) :=
  ⟨fun _ => rfl, fun _ => rfl⟩

theorem failClosed_openedRound :
    FailClosed config (RoundCommand.openedRound config roundId slot deadline) :=
  ⟨by simp [RoundCommand.openedRound, RoundState.isSealed],
    by simp [RoundCommand.openedRound, RoundState.isScheduled]⟩

/-- An operation has one of the effects of its call. -/
theorem callStep_of_mem_visits {opened : Round D} {v : CallVisit D}
    (hv : v ∈ callHistory opened calls) :
    CallStep v.input (v.input.perform v.before).1 v.before v.after := by
  rw [Runs.after_of_mem_visits hv]
  exact callStep_perform v.input v.before

/-- Whatever the calls, nothing is set before its time. -/
theorem unset_run {opened : Round D} (hopened : Unset opened) :
    ∀ v ∈ callHistory opened calls, Unset v.before := by
  have hkeep : ∀ v ∈ callHistory opened calls, Unset v.before → Unset v.after :=
    fun v hv hbefore => (callStep_of_mem_visits hv).unset hbefore
  exact fun v hv => ((Runs.run_invariant Unset hopened hkeep).2 v hv).1

/-- Calls that bypass no guard keep a round fail-closed. -/
theorem failClosed_run {opened : Round D} (hopened : FailClosed config opened)
    (hfollows : ∀ call ∈ calls, call.Follows config)
    (hguarded : ∀ v ∈ callHistory opened calls, ¬v.before.Bypasses v.input) :
    FailClosed config (afterCalls opened calls) := by
  refine (Runs.run_invariant (FailClosed config) hopened ?_).1
  intro v hv hbefore
  rcases Runs.mem_visits.mp hv with ⟨earlier, later, hcalls, -, -⟩
  have hinput : v.input.Follows config := hfollows v.input (by simp [hcalls])
  exact (callStep_of_mem_visits hv).failClosed hinput (hguarded v hv) hbefore

variable [Inhabited D] [DecidableEq D]

/-- A round that was opened from a valid configuration is fail-closed at every
moment, whatever calls are made under the configuration, exactly when none of
them bypasses a guard. -/
theorem fail_closed_iff {opened : Round D}
    (hopen : RoundCommand.openRound h config roundId slot = .ok opened)
    (hfollows : ∀ call ∈ calls, call.Follows config) :
    (∀ earlier later, calls = earlier ++ later → FailClosed config (afterCalls opened earlier)) ↔
      ∀ v ∈ callHistory opened calls, ¬v.before.Bypasses v.input := by
  rcases RoundCommand.openRound_eq_ok.mp hopen with ⟨-, deadline, -, rfl⟩
  constructor
  · intro hclosed v hv hbypass
    have hunset := unset_run unset_openedRound v hv
    rcases Runs.mem_visits.mp hv with ⟨earlier, later, hcalls, hbefore, -⟩
    have hafter := hclosed (earlier ++ [v.input]) later (by simp [hcalls])
    rw [afterCalls, Runs.run_append, ← hbefore] at hafter
    exact not_failClosed_of_bypasses hunset hbypass hafter
  · intro hguarded earlier later hcalls
    apply failClosed_run failClosed_openedRound
    · intro call hcall
      exact hfollows call (by simp [hcalls, hcall])
    · intro v hv
      apply hguarded v
      rw [hcalls, callHistory, Runs.visits_append]
      exact List.mem_append_left _ hv

end Runs

end Round

/-! ## A sealed round without a root -/

/-- A configuration for two to four participants, with its hash. -/
def demoPolicy : PoolConfig Nat :=
  { poolId := 1
    version := schemaVersion
    governance := .singleAuthority (.replicate 32 1)
    actionTemplateHash := 2
    minParticipants := 2
    maxParticipants := 4
    registrationDurationSlots := 100
    minReleaseDelaySlots := 2
    maxReleaseDelaySlots := 50
    executionWindowSlots := 20
    maxTimingDispersionSlots := 20
    privacyBackend := .merkleCohort
    allowedClusters := {.localnet}
    allowedProgramIds := {.replicate 32 9}
    completionPolicy := .redactedReceipt
    createdAtUnix := 0
    configurationHash := 0 : PoolConfig Nat }.withHash Blake3.checksum

/-- The round of this configuration, opened at slot ten. -/
def demoOpened : Round Nat := RoundCommand.openedRound demoPolicy 7 10 110

theorem demoPolicy_valid : demoPolicy.validate Blake3.checksum = .ok () := by
  apply PoolConfig.validate_withHash
  constructor <;> decide

theorem openRound_demo :
    RoundCommand.openRound Blake3.checksum demoPolicy 7 10 = .ok demoOpened :=
  RoundCommand.openRound_eq_ok.mpr ⟨demoPolicy_valid, 110, rfl, rfl⟩

/-- Two registrations, the threshold, the seal, and the schedule. -/
def demoGuardedCalls : List (RoundCall Nat) :=
  [.register 20 4, .register 30 4, .transition .thresholdReached, .sealRound 5 2,
    .scheduleRelease 40 50 demoPolicy]

namespace Round

/-- With nobody registered, two transitions seal a round that has no root. -/
theorem sealed_without_root :
    RoundCommand.openRound Blake3.checksum demoPolicy 7 10 = .ok demoOpened ∧
      ¬FailClosed demoPolicy
        (afterCalls demoOpened [.transition .thresholdReached, .transition .sealed]) := by
  refine ⟨openRound_demo, ?_⟩
  intro hclosed
  have hroot := (hclosed.sealed rfl).1
  exact absurd hroot (by decide)

theorem fail_closed_iff_demo :
    (afterCalls demoOpened demoGuardedCalls).state = .releaseScheduled ∧
      ∀ earlier later, demoGuardedCalls = earlier ++ later →
        FailClosed demoPolicy (afterCalls demoOpened earlier) := by
  have hfollows : ∀ call ∈ demoGuardedCalls, call.Follows demoPolicy := by
    simp [demoGuardedCalls, RoundCall.Follows, demoPolicy, PoolConfig.withHash]
  exact ⟨rfl, (fail_closed_iff openRound_demo hfollows).mpr (by decide +kernel)⟩

end Round

end MirrorPool
