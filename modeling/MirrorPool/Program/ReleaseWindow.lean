import MirrorPool.Program.OwnPool

/-!
# Release windows

{lit}`ScheduleRelease` reads the delay bounds and the window length from the
pool that the sender passes.  Over runs in which that is the round's own pool,
and in which this pool is not taken for a round, the release of a round obeys
the policy its participants committed to.

Main results:

- Theorem {lit}`RoundStep.unscheduled`: no round leaves {lit}`Sealed` but by a
  schedule or a cancellation.
- Theorem {lit}`release_window_of_own_pool`: the release obeys the delays and
  the window of the round's own pool.
-/

namespace MirrorPool

variable {rt : Runtime} {L : Ledger} {a : Pubkey} {v : CallVisit rt}

/-! ## Scheduled rounds -/

/-- A round without a schedule: at most sealed, or cancelled. -/
def RoundAccount.Unscheduled (round : RoundAccount) : Prop :=
  round.state.rank ≤ State.sealed.rank ∨ round.state = .cancelled

/-- No round leaves {lit}`Sealed` but by a schedule or a cancellation. -/
theorem RoundStep.unscheduled {call : Call rt} {instruction : CoordinationInstruction}
    {round round' : RoundAccount} (hstep : RoundStep rt L call instruction round round')
    (hother : ∀ release, instruction ≠ .scheduleRelease release)
    (hunscheduled : round.Unscheduled) : round'.Unscheduled := by
  have hranks : State.thresholdReached.rank ≤ State.sealed.rank := by decide
  cases hstep with
  | registered _ _ _ state =>
      rw [RoundAccount.Unscheduled, RoundAccount.registered]
      split
      · exact Or.inl hranks
      · exact hunscheduled
  | published => exact Or.inl hranks
  | sealed => exact Or.inl (Nat.le_refl State.sealed.rank)
  | scheduled => exact absurd rfl (hother _)
  | begun state =>
      rw [RoundAccount.Unscheduled, state] at hunscheduled
      exact absurd hunscheduled (by decide)
  | finalized _ _ state =>
      rw [RoundAccount.Unscheduled, state] at hunscheduled
      exact absurd hunscheduled (by decide)
  | cancelled => exact Or.inr rfl

/-- A round that ends with a schedule was scheduled by a call of its life. -/
theorem LiveRound.scheduled {opened last : RoundAccount} {life : List (Call rt)}
    (hlive : LiveRound rt L a opened) (hstart : opened.state = .registration)
    (hopen : ∀ v ∈ history rt L life, ¬Closes v a)
    (hlast : RoundAt rt (ledgerAfter rt L life) a last) (hscheduled : ¬last.Unscheduled) :
    ∃ v ∈ history rt L life, ∃ release, ranOn v a = some (.scheduleRelease release) := by
  by_contra hnever
  push Not at hnever
  rcases hlive.run hopen with ⟨_, _, _, hmoments⟩
  have hunscheduled := (Runs.run_invariant
    (fun L => ∀ round, RoundAt rt L a round → round.Unscheduled)
    (fun round hround => ?_) fun v hv hbefore => ?_).1 last hlast
  · exact hscheduled hunscheduled
  · rcases hround.unique hlive.toRoundAt with rfl
    rw [RoundAccount.Unscheduled, hstart]
    decide
  · intro round' hround'
    rcases hmoments v hv with ⟨r, r', hmoment⟩
    rcases hround'.unique hmoment.live_after.toRoundAt with rfl
    have hr := hbefore r hmoment.live_before.toRoundAt
    rcases hmoment.step hv with ⟨-, rfl, -⟩ | ⟨instruction, hran, hstep⟩
    · exact hr
    · refine hstep.unscheduled (fun release => ?_) hr
      rintro rfl
      exact hnever v hv release hran

/-! ## Releases under the policy of the own pool -/

/-- The release of a round that was scheduled at a slot obeys the policy of a
pool. -/
structure ObeysPolicy (pool : PoolAccount) (slot : UInt64) (round : RoundAccount) : Prop where
  min_delay : slot.toNat + pool.minReleaseDelay.toNat ≤ round.releaseSlot.toNat
  max_delay : round.releaseSlot.toNat ≤ slot.toNat + pool.maxReleaseDelay.toNat
  window : round.windowEndSlot.toNat = round.releaseSlot.toNat + pool.executionWindow.toNat

/-- A schedule obeys the policy of the pool that was passed. -/
theorem RoundStep.obeysPolicy {call : Call rt} {release : UInt64} {round round' : RoundAccount}
    (hstep : RoundStep rt L call (.scheduleRelease release) round round') :
    ∃ poolKey pool, PassedPool rt L call poolKey pool ∧ ObeysPolicy pool call.slot round' ∧
      round'.releaseSlot = release ∧ round'.state = .releaseScheduled := by
  cases hstep with
  | scheduled passed _ _ _ release_eq min max window =>
      have hmin := UInt64.le_iff_toNat_le.mp min
      have hmax := UInt64.le_iff_toNat_le.mp max
      exact ⟨_, _, passed, ⟨by simp only; omega, by simp only; omega, window⟩, rfl, rfl⟩

/-- The round counter is no part of the policy. -/
theorem ObeysPolicy.counter {pool : PoolAccount} {slot : UInt64} {round : RoundAccount}
    (hobeys : ObeysPolicy pool slot round) (nextRound : UInt64) :
    ObeysPolicy { pool with nextRound } slot round :=
  ⟨hobeys.min_delay, hobeys.max_delay, hobeys.window⟩

/-- A call that schedules a round with the round's own pool binds the round to
the policy of that pool for the rest of its life. -/
theorem Moment.obeysPolicy {calls : List (Call rt)} {opened last r r' : RoundAccount}
    {pool : PoolAccount} {release : UInt64} (hv : v ∈ history rt L calls)
    (hmoment : Moment v a opened last r r') (hran : ranOn v a = some (.scheduleRelease release))
    (hown : PassesOwnPool rt v.before v.input.accounts)
    (hpool : PoolAt rt v.before opened.pool pool) :
    release = last.releaseSlot ∧ ObeysPolicy pool v.input.slot last := by
  rcases (ranOn_eq_some hv).mp hran with ⟨-, hkey⟩
  rcases hmoment.step hv with ⟨-, -, hnone⟩ | ⟨instruction, hran', hstep⟩
  · exact nomatch hnone.symm.trans hran
  · rcases Option.some.inj (hran'.symm.trans hran) with rfl
    rcases hstep.obeysPolicy with ⟨passedKey, passedPool, hpassed, hpolicy, hrelease, hstate⟩
    have hsame : r.pool = opened.pool := congrArg Prod.fst hmoment.since.identity
    obtain rfl : opened.pool = passedKey := by
      rw [← hsame]
      exact Option.some.inj
        ((hown a r hkey hmoment.live_before.toRoundAt).symm.trans hpassed.position)
    rcases hpassed.toPoolAt.unique hpool with rfl
    rcases hmoment.upto.schedule (by rw [hstate]) with ⟨hslot, hwindow⟩
    refine ⟨hrelease.symm.trans hslot.symm, ?_⟩
    exact
      { min_delay := by rw [hslot]; exact hpolicy.min_delay
        max_delay := by rw [hslot]; exact hpolicy.max_delay
        window := by rw [hslot, hwindow]; exact hpolicy.window }

/-- The opening call does not take its pool for a round. -/
theorem Opens.not_takenForRound {b : Pubkey} (hopens : Opens v a) :
    ¬TakenForRound rt v.before v.input b := by
  rcases hopens with ⟨roundId, deadline, template, bump, hok, -⟩
  refine not_takenForRound_of_roundKey fun instruction hdecoded => ?_
  rcases Option.some.inj (hok.decoded.symm.trans hdecoded) with rfl
  exact nofun

/-- The release of a round obeys the policy of the pool it was opened on: the
pool had a set version byte, no call takes it for a round, and every schedule
of the round is passed the round's own pool. -/
theorem release_window_of_own_pool (hgenesis : Genesis rt L) (before life : List (Call rt))
    (opening : Call rt) (hopens : Opens (callVisit rt (ledgerAfter rt L before) opening) a)
    (hopen : ∀ v ∈ history rt (ledgerAfter rt L (before ++ [opening])) life, ¬Closes v a)
    {poolKey : Pubkey} (hposition : keyAt opening.accounts 1 = some poolKey)
    (hversion : ∀ pool, PoolAt rt (ledgerAfter rt L before) poolKey pool → pool.version = 1)
    (hplace : ∀ v ∈ history rt (ledgerAfter rt L (before ++ [opening])) life,
      ¬TakenForRound rt v.before v.input poolKey)
    (hown : ∀ v ∈ history rt (ledgerAfter rt L (before ++ [opening])) life, ∀ release,
      CoordinationInstruction.tryFromSlice v.input.data = some (.scheduleRelease release) →
      keyAt v.input.accounts 2 = some a → PassesOwnPool rt v.before v.input.accounts) :
    ∃ round pool,
      RoundAt rt (ledgerAfter rt L (before ++ opening :: life)) a round ∧
        round.pool = poolKey ∧
        PoolAt rt (ledgerAfter rt L (before ++ opening :: life)) poolKey pool ∧
        (round.state = .releaseScheduled ∨ round.state = .executionWindow ∨
            round.state = .completed →
          ∃ v ∈ history rt (ledgerAfter rt L (before ++ [opening])) life,
            ranOn v a = some (.scheduleRelease round.releaseSlot)) ∧
        ∀ v ∈ history rt (ledgerAfter rt L (before ++ [opening])) life, ∀ release,
          ranOn v a = some (.scheduleRelease release) →
          release = round.releaseSlot ∧ ObeysPolicy pool v.input.slot round := by
  have hconsistent := (consistent_of_genesis hgenesis before).1
  rcases hopens.live hconsistent with ⟨opened, pool, hround, hstart, -, hpassed, hsigned⟩
  obtain rfl : poolKey = opened.pool :=
    Option.some.inj (hposition.symm.trans hpassed.position)
  -- the pool is live when the round is opened, and stays so
  have hpool := hpassed.live hconsistent hsigned (hversion pool hpassed.toPoolAt)
  obtain ⟨number, hcounted, -⟩ :=
    hpool.visit (callVisit_mem_history rt (ledgerAfter rt L before) opening)
      hopens.not_takenForRound
  rw [← ledgerAfter_concat] at hround hcounted
  rcases hcounted.run hplace with ⟨⟨lastNumber, hlastPool⟩, hpools⟩
  rcases hround.run hopen with ⟨last, hlast, hlater, hmoments⟩
  have hobeys : ∀ v ∈ history rt (ledgerAfter rt L (before ++ [opening])) life, ∀ release,
      ranOn v a = some (.scheduleRelease release) →
      release = last.releaseSlot ∧
        ObeysPolicy { pool with nextRound := lastNumber } v.input.slot last := by
    intro v hv release hran
    rcases hmoments v hv with ⟨r, r', hmoment⟩
    rcases (ranOn_eq_some hv).mp hran with ⟨hok, hkey⟩
    rcases hpools v hv with ⟨number', next', hbefore, -, -⟩
    obtain ⟨hrelease, hpolicy⟩ := hmoment.obeysPolicy hv hran
      (hown v hv release hok.decoded hkey) hbefore.toPoolAt
    exact ⟨hrelease, hpolicy.counter lastNumber⟩
  rw [ledgerAfter_append_cons before life opening]
  refine ⟨last, _, hlast.toRoundAt, congrArg Prod.fst hlater.identity, hlastPool.toPoolAt,
    fun hstate => ?_, hobeys⟩
  have hscheduled : ¬last.Unscheduled := by
    rcases hstate with hstate | hstate | hstate
    all_goals
      rw [RoundAccount.Unscheduled, hstate]
      decide
  obtain ⟨v, hv, release, hran⟩ :=
    hround.scheduled hstart hopen hlast.toRoundAt hscheduled
  rw [(hobeys v hv release hran).1] at hran
  exact ⟨v, hv, hran⟩

/-- The round of the small chain is filled, sealed and scheduled. -/
def demoScheduling : List (Call demoRuntime) :=
  [demoRegister, demoRegisterOther, demoSeal, demoSchedule]

/-- The second wallet schedules the round of the first wallet with a pool of
its own, nine hundred slots ahead. -/
def demoForeignSchedule : Call demoRuntime :=
  tableCall 10 [demoSigner 102, demoAccount 12, demoAccount 21] (.scheduleRelease 910)
    demoForeign_signers

/-- The chain after the schedule with the foreign pool. -/
abbrev demoForeignScheduled : Ledger :=
  ledgerAfter demoRuntime demoTwoPools
    [demoRegister, demoRegisterOther, demoSeal, demoForeignSchedule]

/-- The runs with the own and with the foreign pool.  One evaluation of the chain
gives all of this. -/
theorem demoSchedules_evaluated :
    (∀ v ∈ history demoRuntime demoTwoPools demoScheduling, ran v ≠ some .closeRound ∧
        fieldAt RoundAccount.pool v.before (demoKey 21) = keyAt v.input.accounts 1) ∧
      (PoolAccount.codec.read (ledgerAfter demoRuntime demoLedger
        [demoInitialize, demoInitializeOther] (demoKey 11)).data).map (·.version) = some 1 ∧
      fieldAt RoundAccount.state demoForeignScheduled (demoKey 21) = some .releaseScheduled ∧
      fieldAt (fun round => (round.pool, round.releaseSlot)) demoForeignScheduled (demoKey 21) =
        some (demoKey 11, 910) ∧
      (PoolAccount.codec.read (demoForeignScheduled (demoKey 11)).data).map
        (·.maxReleaseDelay) = some 50 := by
  decide +kernel

theorem release_window_of_own_pool_demo :
    ∃ round pool,
      RoundAt demoRuntime (ledgerAfter demoRuntime demoLedger
        (demoInitialize :: demoInitializeOther :: demoOpen :: demoScheduling)) (demoKey 21) round ∧
        round.pool = demoKey 11 ∧
        PoolAt demoRuntime (ledgerAfter demoRuntime demoLedger
          (demoInitialize :: demoInitializeOther :: demoOpen :: demoScheduling)) (demoKey 11)
          pool ∧
        (round.state = .releaseScheduled ∨ round.state = .executionWindow ∨
            round.state = .completed →
          ∃ v ∈ history demoRuntime demoTwoPools demoScheduling,
            ranOn v (demoKey 21) = some (.scheduleRelease round.releaseSlot)) ∧
        ∀ v ∈ history demoRuntime demoTwoPools demoScheduling, ∀ release,
          ranOn v (demoKey 21) = some (.scheduleRelease release) →
          release = round.releaseSlot ∧ ObeysPolicy pool v.input.slot round := by
  rcases demoSchedules_evaluated with ⟨hcalls, hversion, -⟩
  refine release_window_of_own_pool demoLedger_genesis [demoInitialize, demoInitializeOther]
    demoScheduling demoOpen demoTwoPools_opens (fun v hv => ?_) rfl (fun pool hpool => ?_) ?_ ?_
  · exact not_closes_of_ran hv (hcalls v hv).1
  · rw [hpool.read] at hversion
    exact Option.some.inj hversion
  · simp only [demoScheduling, forall_mem_history_cons]
    exact ⟨not_takenForRound_tableCall (by decide), not_takenForRound_tableCall (by decide),
      not_takenForRound_tableCall (by decide), not_takenForRound_tableCall (by decide), by simp⟩
  · intro v hv release _ hround key round hkey hroundAt
    obtain rfl : demoKey 21 = key := Option.some.inj (hround.symm.trans hkey)
    exact (hcalls v hv).2.symm.trans hroundAt.fieldAt_eq

/-- A schedule with a foreign pool can break the policy of the round's own
pool. -/
theorem release_window_of_foreign_pool :
    Genesis demoRuntime demoLedger ∧
      Opens (callVisit demoRuntime
        (ledgerAfter demoRuntime demoLedger [demoInitialize, demoInitializeOther]) demoOpen)
        (demoKey 21) ∧
      fieldAt RoundAccount.state demoForeignScheduled (demoKey 21) = some .releaseScheduled ∧
      ¬∃ round pool, RoundAt demoRuntime demoForeignScheduled (demoKey 21) round ∧
        PoolAt demoRuntime demoForeignScheduled round.pool pool ∧
        ObeysPolicy pool demoForeignSchedule.slot round := by
  rcases demoSchedules_evaluated with ⟨-, -, hstate, hround, hpool⟩
  refine ⟨demoLedger_genesis, demoTwoPools_opens, hstate, ?_⟩
  rintro ⟨round, pool, hroundAt, hpoolAt, hobeys⟩
  rw [hroundAt.fieldAt_eq, Option.some.injEq, Prod.mk.injEq] at hround
  rw [hround.1] at hpoolAt
  rw [hpoolAt.read, Option.map_some, Option.some.injEq] at hpool
  have hmax := hobeys.max_delay
  rw [hround.2, hpool] at hmax
  exact absurd hmax (by decide)

end MirrorPool
