import MirrorPool.Program.Rounds
import MirrorPool.Program.TableRuntime

/-!
# The lifecycle of a round

From the call that opens it to the call that closes it a round moves one way:
its identity is fixed, its state climbs, and its root, its schedule and its
metrics are written once.  The order {lit}`RoundAccount.Later` collects what one
edit keeps; it is reflexive and transitive, so that it holds between any two
moments of the life of a round.

Main results:

- Theorem {lit}`RoundStep.later`: every edit moves a round to a later one.
- Theorem {lit}`LiveRound.run`: a round that is not closed stays live, and all
  moments of a run are ordered.
- Theorem {lit}`round_lifecycle`: the one-way lifecycle over every run.
-/

namespace MirrorPool

/-! ## The order of round records -/

/-- The place of a state in the declared order. -/
def State.rank (state : State) : Nat := state.tag.toNat

/-- A move up in the declared order, at most to {lit}`Completed`. -/
def State.Climbs (state state' : State) : Prop :=
  state.rank < state'.rank ∧ state'.rank ≤ State.completed.rank

instance (state state' : State) : Decidable (state.Climbs state') :=
  inferInstanceAs (Decidable (_ ∧ _))

/-- What the edits of a round keep. -/
structure RoundAccount.Later (round round' : RoundAccount) : Prop where
  identity : round'.identity = round.identity
  rank_le : round.state.rank ≤ round'.state.rank
  reached : round.state ≠ .finalizing ∧ round.state ≠ .expired →
    round'.state ≠ .finalizing ∧ round'.state ≠ .expired
  terminal : round.state.IsTerminal → round' = round
  root : round.cohortRoot ≠ Vector.replicate 32 0 → round'.cohortRoot = round.cohortRoot
  count : State.sealed.rank ≤ round.state.rank → round'.acceptedCount = round.acceptedCount
  schedule : State.releaseScheduled.rank ≤ round.state.rank →
    round'.releaseSlot = round.releaseSlot ∧ round'.windowEndSlot = round.windowEndSlot

namespace RoundAccount.Later

theorem refl (round : RoundAccount) : round.Later round where
  identity := rfl
  rank_le := Nat.le_refl _
  reached h := h
  terminal _ := rfl
  root _ := rfl
  count _ := rfl
  schedule _ := ⟨rfl, rfl⟩

theorem trans {r s t : RoundAccount} (hrs : r.Later s) (hst : s.Later t) : r.Later t where
  identity := hst.identity.trans hrs.identity
  rank_le := hrs.rank_le.trans hst.rank_le
  reached h := hst.reached (hrs.reached h)
  terminal h := by
    rcases hrs.terminal h with rfl
    exact hst.terminal h
  root h := by
    have hroot := hrs.root h
    exact (hst.root (hroot ▸ h)).trans hroot
  count h := (hst.count (h.trans hrs.rank_le)).trans (hrs.count h)
  schedule h := by
    rcases hrs.schedule h with ⟨hrelease, hwindow⟩
    rcases hst.schedule (h.trans hrs.rank_le) with ⟨hrelease', hwindow'⟩
    exact ⟨hrelease'.trans hrelease, hwindow'.trans hwindow⟩

end RoundAccount.Later

/-! ## One edit -/

section RoundStep

variable {rt : Runtime} {L : Ledger} {call : Call rt} {instruction : CoordinationInstruction}
variable {round round' : RoundAccount}

/-- Each edit leaves the state alone, climbs in the order of the states up to
{lit}`Completed`, or cancels a round that was not terminal. -/
theorem RoundStep.forward (hstep : RoundStep rt L call instruction round round') :
    round'.state = round.state ∨ round.state.Climbs round'.state ∨
      (round'.state = .cancelled ∧ ¬round.state.IsTerminal) := by
  cases hstep with
  | registered _ _ _ state =>
      rw [RoundAccount.registered]
      split
      · rcases state with hstate | hstate
        · rw [hstate]
          exact Or.inr (Or.inl (show State.Climbs .registration .thresholdReached by decide))
        · exact Or.inl hstate.symm
      · exact Or.inl rfl
  | cancelled _ _ live => exact Or.inr (Or.inr ⟨rfl, live⟩)
  | published _ _ _ _ state =>
      rw [state]
      exact Or.inr (Or.inl (show State.Climbs .registration .thresholdReached by decide))
  | sealed _ _ _ state =>
      rw [state]
      exact Or.inr (Or.inl (show State.Climbs .thresholdReached .sealed by decide))
  | scheduled _ _ state =>
      rw [state]
      exact Or.inr (Or.inl (show State.Climbs .sealed .releaseScheduled by decide))
  | begun state =>
      rw [state]
      exact Or.inr (Or.inl (show State.Climbs .releaseScheduled .executionWindow by decide))
  | finalized _ _ state =>
      rw [state]
      exact Or.inr (Or.inl (show State.Climbs .executionWindow .completed by decide))

/-- No edit touches a round in a terminal state. -/
theorem RoundStep.not_terminal (hstep : RoundStep rt L call instruction round round') :
    ¬round.state.IsTerminal := by
  cases hstep with
  | registered _ _ _ state =>
      rcases state with hstate | hstate
      all_goals rw [hstate]; decide
  | cancelled _ _ live => exact live
  | published _ _ _ _ state => rw [state]; decide
  | sealed _ _ _ state => rw [state]; decide
  | scheduled _ _ state => rw [state]; decide
  | begun state => rw [state]; decide
  | finalized _ _ state => rw [state]; decide

/-- No edit enters a state that the program never writes. -/
theorem RoundStep.reached (hstep : RoundStep rt L call instruction round round')
    (hreached : round.state ≠ .finalizing ∧ round.state ≠ .expired) :
    round'.state ≠ .finalizing ∧ round'.state ≠ .expired := by
  cases hstep with
  | registered =>
      rw [RoundAccount.registered]
      split
      · exact ⟨nofun, nofun⟩
      · exact hreached
  | _ => exact ⟨nofun, nofun⟩

/-- The root changes from zero to a non-zero value. -/
theorem RoundStep.root (hstep : RoundStep rt L call instruction round round')
    (hchange : round'.cohortRoot ≠ round.cohortRoot) :
    round.cohortRoot = Vector.replicate 32 0 ∧ round'.cohortRoot ≠ Vector.replicate 32 0 := by
  cases hstep with
  | published _ _ _ _ _ _ _ set unset => exact ⟨unset, set⟩
  | _ => exact absurd rfl hchange

/-- The participant count is fixed once the round is sealed. -/
theorem RoundStep.count (hstep : RoundStep rt L call instruction round round')
    (hsealed : State.sealed.rank ≤ round.state.rank) :
    round'.acceptedCount = round.acceptedCount := by
  cases hstep with
  | registered _ _ _ state =>
      rcases state with hstate | hstate
      all_goals rw [hstate] at hsealed; exact absurd hsealed (by decide)
  | published _ _ _ _ state => rw [state] at hsealed; exact absurd hsealed (by decide)
  | _ => rfl

/-- Only {lit}`ScheduleRelease` writes the release slot and the end of the
window, on a sealed round. -/
theorem RoundStep.schedule (hstep : RoundStep rt L call instruction round round') :
    (round'.releaseSlot = round.releaseSlot ∧ round'.windowEndSlot = round.windowEndSlot ∧
        ∀ release, instruction ≠ .scheduleRelease release) ∨
      (instruction = .scheduleRelease round'.releaseSlot ∧ round.state = .sealed ∧
        round'.state = .releaseScheduled) := by
  cases hstep with
  | scheduled _ _ state => exact Or.inr ⟨rfl, state, rfl⟩
  | _ => exact Or.inl ⟨rfl, rfl, nofun⟩

/-- Only {lit}`FinalizeRound` writes the metrics, on an executing round. -/
theorem RoundStep.metrics (hstep : RoundStep rt L call instruction round round') :
    (round'.metricsHash = round.metricsHash ∧ ∀ metrics, instruction ≠ .finalizeRound metrics) ∨
      (instruction = .finalizeRound round'.metricsHash ∧ round.state = .executionWindow ∧
        round'.state = .completed) := by
  cases hstep with
  | finalized _ _ state => exact Or.inr ⟨rfl, state, rfl⟩
  | _ => exact Or.inl ⟨rfl, nofun⟩

/-- Every edit moves a round to a later one. -/
theorem RoundStep.later (hstep : RoundStep rt L call instruction round round') :
    round.Later round' where
  identity := hstep.identity.2
  rank_le := by
    rcases hstep.forward with hsame | ⟨hclimb, -⟩ | ⟨hcancelled, hlive⟩
    · exact Nat.le_of_eq (congrArg State.rank hsame.symm)
    · exact Nat.le_of_lt hclimb
    · rw [hcancelled]
      revert hlive
      cases round.state <;> decide
  reached := hstep.reached
  terminal h := absurd h hstep.not_terminal
  root h := by
    by_contra hchange
    exact h (hstep.root hchange).1
  count := hstep.count
  schedule h := by
    rcases hstep.schedule with ⟨hrelease, hwindow, -⟩ | ⟨-, hstate, -⟩
    · exact ⟨hrelease, hwindow⟩
    · rw [hstate] at h
      exact absurd h (by decide)

end RoundStep

/-! ## Runs -/

section Runs

variable {rt : Runtime} {L : Ledger} {a : Pubkey} {v : CallVisit rt}

theorem RoundVisit.later {round round' : RoundAccount} (hvisit : RoundVisit v a round round') :
    round.Later round' := by
  cases hvisit with
  | kept => exact .refl round
  | edited _ _ step => exact step.later

/-- A visit either left the round alone or ran an edit on it. -/
theorem RoundVisit.step {calls : List (Call rt)} {round round' : RoundAccount}
    (hv : v ∈ history rt L calls) (hvisit : RoundVisit v a round round') :
    (v.after a = v.before a ∧ round' = round ∧ ranOn v a = none) ∨
      ∃ instruction, ranOn v a = some instruction ∧
        RoundStep rt v.before v.input instruction round round' := by
  cases hvisit with
  | kept same idle =>
      refine Or.inl ⟨same, rfl, ?_⟩
      rw [Option.eq_none_iff_forall_ne_some]
      intro instruction hran
      rcases (ranOn_eq_some hv).mp hran with ⟨hok, hposition⟩
      exact idle instruction hok hposition
  | edited ok position step =>
      exact Or.inr ⟨_, (ranOn_eq_some hv).mpr ⟨ok, position⟩, step⟩

/-- A moment in the life of a round: the records on the two sides of a call, in
order with the records at the two ends of the run. -/
structure Moment (v : CallVisit rt) (a : Pubkey) (opened last round round' : RoundAccount) :
    Prop where
  live_before : LiveRound rt v.before a round
  live_after : LiveRound rt v.after a round'
  visit : RoundVisit v a round round'
  since : opened.Later round
  upto : round'.Later last

/-- A round that is not closed stays live, and all moments of a run are
ordered. -/
theorem LiveRound.run {opened : RoundAccount} {life : List (Call rt)}
    (hlive : LiveRound rt L a opened) (hopen : ∀ v ∈ history rt L life, ¬Closes v a) :
    ∃ last, LiveRound rt (ledgerAfter rt L life) a last ∧ opened.Later last ∧
      ∀ v ∈ history rt L life, ∃ round round', Moment v a opened last round round' := by
  induction life generalizing L opened with
  | nil => exact ⟨opened, hlive, .refl opened, by simp⟩
  | cons call life ih =>
      rw [forall_mem_history_cons] at hopen
      rcases hlive.visit (callVisit_mem_history rt L call) hopen.1 with ⟨next, hnext, hvisit⟩
      rcases ih hnext hopen.2 with ⟨last, hlast, hlater, hmoments⟩
      refine ⟨last, hlast, hvisit.later.trans hlater, ?_⟩
      rw [forall_mem_history_cons]
      refine ⟨⟨opened, next, hlive, hnext, hvisit, .refl opened, hlater⟩, fun v hv => ?_⟩
      rcases hmoments v hv with ⟨round, round', hmoment⟩
      exact ⟨round, round', { hmoment with since := hvisit.later.trans hmoment.since }⟩

/-! ## The whole life of a round -/

/-- The records of a round on the two sides of a call. -/
structure RoundChange (v : CallVisit rt) (a : Pubkey) (round round' : RoundAccount) : Prop where
  round_before : RoundAt rt v.before a round
  round_after : RoundAt rt v.after a round'

/-- The value of a field of the round stored at an address, if one is stored. -/
def fieldAt {β : Type} (field : RoundAccount → β) (L : Ledger) (a : Pubkey) : Option β :=
  (RoundAccount.codec.read (L a).data).map field

theorem RoundAt.fieldAt_eq {β : Type} {field : RoundAccount → β} {round : RoundAccount}
    (hround : RoundAt rt L a round) : fieldAt field L a = some (field round) := by
  rw [fieldAt, hround.read, Option.map_some]

/-- The call changes a field of the round stored at an address. -/
def changes {β : Type} [DecidableEq β] (field : RoundAccount → β) (a : Pubkey)
    (v : CallVisit rt) : Bool :=
  fieldAt field v.before a ≠ fieldAt field v.after a

/-- The instruction writes the schedule of a round. -/
def CoordinationInstruction.isScheduleRelease : CoordinationInstruction → Bool
  | .scheduleRelease .. => true
  | _ => false

theorem CoordinationInstruction.isScheduleRelease_iff {instruction : CoordinationInstruction} :
    instruction.isScheduleRelease = true ↔ ∃ release, instruction = .scheduleRelease release := by
  cases instruction <;> simp [isScheduleRelease]

/-- The instruction writes the metrics of a round. -/
def CoordinationInstruction.isFinalizeRound : CoordinationInstruction → Bool
  | .finalizeRound .. => true
  | _ => false

theorem CoordinationInstruction.isFinalizeRound_iff {instruction : CoordinationInstruction} :
    instruction.isFinalizeRound = true ↔ ∃ metrics, instruction = .finalizeRound metrics := by
  cases instruction <;> simp [isFinalizeRound]

/-- The one-way lifecycle of the round at an address over the calls between its
opening and its closing: {lit}`opened` and {lit}`last` are the records at the
two ends. -/
structure RoundLife (a : Pubkey) (opened last : RoundAccount) (vs : List (CallVisit rt)) :
    Prop where
  readable : ∀ v ∈ vs, ∃ round round', RoundChange v a round round'
  identity : ∀ v ∈ vs, ∀ round round', RoundChange v a round round' →
    round.identity = opened.identity ∧ round'.identity = opened.identity
  forward : ∀ v ∈ vs, ∀ round round', RoundChange v a round round' →
    round'.state = round.state ∨ round.state.Climbs round'.state ∨
      (round'.state = .cancelled ∧ ¬round.state.IsTerminal)
  never : ∀ v ∈ vs, ∀ round round', RoundChange v a round round' →
    round'.state ≠ .finalizing ∧ round'.state ≠ .expired
  terminal : ∀ v ∈ vs, ∀ round round', RoundChange v a round round' →
    round.state = .completed ∨ round.state = .cancelled → v.after a = v.before a
  root : ∀ v ∈ vs, ∀ round round', RoundChange v a round round' →
    round'.cohortRoot ≠ round.cohortRoot →
    round.cohortRoot = Vector.replicate 32 0 ∧ round'.cohortRoot ≠ Vector.replicate 32 0
  root_once : vs.countP (changes RoundAccount.cohortRoot a) ≤ 1
  count : ∀ v ∈ vs, ∀ round round', RoundChange v a round round' →
    State.sealed.rank ≤ round.state.rank → round'.acceptedCount = round.acceptedCount
  schedule : ∀ v ∈ vs, ∀ round round', RoundChange v a round round' →
    round'.releaseSlot ≠ round.releaseSlot ∨ round'.windowEndSlot ≠ round.windowEndSlot →
    ranOn v a = some (.scheduleRelease round'.releaseSlot)
  schedule_once : vs.countP (fun v => (ranOn v a).any (·.isScheduleRelease)) ≤ 1
  metrics : ∀ v ∈ vs, ∀ round round', RoundChange v a round round' →
    round'.metricsHash ≠ round.metricsHash → ranOn v a = some (.finalizeRound round'.metricsHash)
  metrics_once : vs.countP (fun v => (ranOn v a).any (·.isFinalizeRound)) ≤ 1
  begin_slot : ∀ v ∈ vs, ranOn v a = some .beginExecutionWindow →
    last.releaseSlot ≤ v.input.slot ∧ v.input.slot ≤ last.windowEndSlot
  finalize_slot : ∀ v ∈ vs, ∀ metrics, ranOn v a = some (.finalizeRound metrics) →
    last.windowEndSlot < v.input.slot

/-- The call of a moment either left the round alone or ran an edit on it. -/
theorem Moment.step {calls : List (Call rt)} {opened last round round' : RoundAccount}
    (hv : v ∈ history rt L calls) (hmoment : Moment v a opened last round round') :
    (v.after a = v.before a ∧ round' = round ∧ ranOn v a = none) ∨
      ∃ instruction, ranOn v a = some instruction ∧
        RoundStep rt v.before v.input instruction round round' :=
  hmoment.visit.step hv

/-- A moment has only one pair of records. -/
theorem Moment.unique {opened last r r' s s' : RoundAccount} (hmoment : Moment v a opened last r r')
    (hchange : RoundChange v a s s') : s = r ∧ s' = r' :=
  ⟨hchange.round_before.unique hmoment.live_before.toRoundAt,
    hchange.round_after.unique hmoment.live_after.toRoundAt⟩

/-- An event that ends a condition which no later round regains happens at most
once in the life of a round. -/
theorem countP_moments_le_one {opened last : RoundAccount} {life : List (Call rt)}
    (hmoments : ∀ v ∈ history rt L life, ∃ round round', Moment v a opened last round round')
    (P : RoundAccount → Prop) {fires : CallVisit rt → Bool}
    (hlater : ∀ round round', round.Later round' → P round' → P round)
    (hfires : ∀ v ∈ history rt L life, ∀ round round', Moment v a opened last round round' →
      fires v = true → P round ∧ ¬P round') :
    (history rt L life).countP fires ≤ 1 := by
  have hdisarmed {L : Ledger} {round : RoundAccount} (hround : LiveRound rt L a round)
      (hnot : ¬P round) : ¬∃ r, LiveRound rt L a r ∧ P r := by
    rintro ⟨r, hr, hP⟩
    rw [hr.toRoundAt.unique hround.toRoundAt] at hP
    exact hnot hP
  refine Runs.countP_visits_le_one (fun L => ∃ round, LiveRound rt L a round ∧ P round)
    (fun v hv hfire => ?_) fun v hv hnot => ?_
  · rcases hmoments v hv with ⟨round, round', hmoment⟩
    rcases hfires v hv round round' hmoment hfire with ⟨hbefore, hafter⟩
    exact ⟨⟨round, hmoment.live_before, hbefore⟩, hdisarmed hmoment.live_after hafter⟩
  · rcases hmoments v hv with ⟨round, round', hmoment⟩
    refine hdisarmed hmoment.live_after fun hafter => hnot ?_
    exact ⟨round, hmoment.live_before, hlater round round' hmoment.visit.later hafter⟩

/-- An instruction that ran through in a moment made its step on the round. -/
theorem Moment.roundStep {calls : List (Call rt)} {opened last round round' : RoundAccount}
    {instruction : CoordinationInstruction} (hv : v ∈ history rt L calls)
    (hmoment : Moment v a opened last round round') (hran : ranOn v a = some instruction) :
    RoundStep rt v.before v.input instruction round round' := by
  rcases hmoment.step hv with ⟨-, -, hnone⟩ | ⟨instruction', hran', hstep⟩
  · rw [hnone] at hran
    contradiction
  · rwa [Option.some.inj (hran.symm.trans hran')]

/-- An instruction that leads beyond a state happens at most once in the life of
a round. -/
theorem countP_ranOn_le_one {opened last : RoundAccount} {life : List (Call rt)}
    (hmoments : ∀ v ∈ history rt L life, ∃ round round', Moment v a opened last round round')
    (bound : State) {fires : CoordinationInstruction → Bool}
    (hbeyond : ∀ (v : CallVisit rt) instruction r r', fires instruction = true →
      RoundStep rt v.before v.input instruction r r' →
        r.state.rank ≤ bound.rank ∧ ¬r'.state.rank ≤ bound.rank) :
    (history rt L life).countP (fun v => (ranOn v a).any fires) ≤ 1 := by
  apply countP_moments_le_one hmoments (·.state.rank ≤ bound.rank)
  · intro r r' hlater hle
    exact hlater.rank_le.trans hle
  · intro v hv r r' hmoment hfire
    rcases (Option.any_eq_true ..).mp hfire with ⟨instruction, hran, hfires⟩
    exact hbeyond v instruction r r' hfires (hmoment.roundStep hv hran)

/-- The ordered moments of a run make up a one-way life. -/
theorem RoundLife.of_moments {opened last : RoundAccount} {life : List (Call rt)}
    (hstart : opened.state = .registration)
    (hmoments : ∀ v ∈ history rt L life, ∃ round round', Moment v a opened last round round') :
    RoundLife a opened last (history rt L life) := by
  -- each clause is read off the step that the call made on the round
  have hpair {P : CallVisit rt → RoundAccount → RoundAccount → Prop}
      (h : ∀ v ∈ history rt L life, ∀ r r', Moment v a opened last r r' → P v r r') :
      ∀ v ∈ history rt L life, ∀ r r', RoundChange v a r r' → P v r r' := by
    intro v hv r r' hchange
    rcases hmoments v hv with ⟨s, s', hmoment⟩
    rcases hmoment.unique hchange with ⟨rfl, rfl⟩
    exact h v hv r r' hmoment
  constructor
  case readable =>
    intro v hv
    rcases hmoments v hv with ⟨r, r', hmoment⟩
    exact ⟨r, r', hmoment.live_before.toRoundAt, hmoment.live_after.toRoundAt⟩
  case identity =>
    refine hpair fun v hv r r' hmoment => ?_
    have hsince := hmoment.since.identity
    exact ⟨hsince, hmoment.visit.later.identity.trans hsince⟩
  case forward =>
    refine hpair fun v hv r r' hmoment => ?_
    rcases hmoment.step hv with ⟨-, rfl, -⟩ | ⟨_, -, hstep⟩
    · exact Or.inl rfl
    · exact hstep.forward
  case never =>
    refine hpair fun v hv r r' hmoment => ?_
    refine (hmoment.since.trans hmoment.visit.later).reached ?_
    rw [hstart]
    exact ⟨nofun, nofun⟩
  case terminal =>
    refine hpair fun v hv r r' hmoment hterminal => ?_
    rcases hmoment.step hv with ⟨hsame, -, -⟩ | ⟨_, -, hstep⟩
    · exact hsame
    · exact absurd (hterminal.imp_right Or.inl) hstep.not_terminal
  case root =>
    refine hpair fun v hv r r' hmoment hchange => ?_
    rcases hmoment.step hv with ⟨-, rfl, -⟩ | ⟨_, -, hstep⟩
    · exact absurd rfl hchange
    · exact hstep.root hchange
  case root_once =>
    refine countP_moments_le_one hmoments (·.cohortRoot = Vector.replicate 32 0)
      (fun r r' hlater hzero => ?_) fun v hv r r' hmoment hfire => ?_
    · by_contra hset
      exact hset ((hlater.root hset).symm.trans hzero)
    · rw [changes, decide_eq_true_iff, hmoment.live_before.fieldAt_eq,
        hmoment.live_after.fieldAt_eq, ne_eq, Option.some.injEq] at hfire
      rcases hmoment.step hv with ⟨-, rfl, -⟩ | ⟨_, -, hstep⟩
      · exact absurd rfl hfire
      · exact hstep.root (Ne.symm hfire)
  case count =>
    refine hpair fun v hv r r' hmoment => ?_
    exact hmoment.visit.later.count
  case schedule =>
    refine hpair fun v hv r r' hmoment hchange => ?_
    rcases hmoment.step hv with ⟨-, rfl, -⟩ | ⟨_, hran, hstep⟩
    · exact absurd hchange (by simp)
    · rcases hstep.schedule with ⟨hrelease, hwindow, -⟩ | ⟨hschedule, -, -⟩
      · exact absurd hchange (by simp [hrelease, hwindow])
      · rw [hran, hschedule]
  case schedule_once =>
    refine countP_ranOn_le_one hmoments .sealed fun v instruction r r' hfires hstep => ?_
    rcases CoordinationInstruction.isScheduleRelease_iff.mp hfires with ⟨release, rfl⟩
    rcases hstep.schedule with ⟨-, -, hother⟩ | ⟨-, hsealed, hscheduled⟩
    · exact absurd rfl (hother release)
    · rw [hsealed, hscheduled]
      decide
  case metrics =>
    refine hpair fun v hv r r' hmoment hchange => ?_
    rcases hmoment.step hv with ⟨-, rfl, -⟩ | ⟨_, hran, hstep⟩
    · exact absurd rfl hchange
    · rcases hstep.metrics with ⟨hmetrics, -⟩ | ⟨hfinalize, -, -⟩
      · exact absurd hmetrics hchange
      · rw [hran, hfinalize]
  case metrics_once =>
    refine countP_ranOn_le_one hmoments .executionWindow fun v instruction r r' hfires hstep => ?_
    rcases CoordinationInstruction.isFinalizeRound_iff.mp hfires with ⟨metrics, rfl⟩
    rcases hstep.metrics with ⟨-, hother⟩ | ⟨-, hexecuting, hcompleted⟩
    · exact absurd rfl (hother metrics)
    · rw [hexecuting, hcompleted]
      decide
  case begin_slot =>
    intro v hv hran
    rcases hmoments v hv with ⟨r, r', hmoment⟩
    have hlast := hmoment.upto.schedule
    cases hmoment.roundStep hv hran with
    | begun state released inWindow =>
        have hranks : State.releaseScheduled.rank ≤ State.executionWindow.rank := by decide
        rcases hlast hranks with ⟨hrelease, hwindow⟩
        rw [hrelease, hwindow]
        exact ⟨released, inWindow⟩
  case finalize_slot =>
    intro v hv metrics hran
    rcases hmoments v hv with ⟨r, r', hmoment⟩
    have hlast := hmoment.upto.schedule
    cases hmoment.roundStep hv hran with
    | finalized _ _ _ ended =>
        have hranks : State.releaseScheduled.rank ≤ State.completed.rank := by decide
        rcases hlast hranks with ⟨-, hwindow⟩
        rw [hwindow]
        exact ended

/-- The on-chain lifecycle of a round, from the call that opens it over any
calls that do not close it, is one-way and writes its facts once. -/
theorem round_lifecycle (hgenesis : Genesis rt L) (before life : List (Call rt))
    (opening : Call rt) (hopens : Opens (callVisit rt (ledgerAfter rt L before) opening) a)
    (hopen : ∀ v ∈ history rt (ledgerAfter rt L (before ++ [opening])) life, ¬Closes v a) :
    ∃ opened last,
      RoundAt rt (ledgerAfter rt L (before ++ [opening])) a opened ∧
        opened.state = .registration ∧
        RoundAt rt (ledgerAfter rt L (before ++ opening :: life)) a last ∧
        RoundLife a opened last (history rt (ledgerAfter rt L (before ++ [opening])) life) := by
  rcases hopens.live (consistent_of_genesis hgenesis before).1 with ⟨opened, -, hlive, hstart, -⟩
  rw [← ledgerAfter_concat] at hlive
  rcases hlive.run hopen with ⟨last, hlast, -, hmoments⟩
  rw [ledgerAfter_append_cons before life opening]
  exact ⟨opened, last, hlive.toRoundAt, hstart, hlast.toRoundAt, .of_moments hstart hmoments⟩

end Runs

/-- The life of the round of the small chain, from its opening to the end of
its window. -/
def demoLife : List (Call demoRuntime) :=
  [demoRegister, demoRegisterOther, demoSeal, demoSchedule,
    tableCall 21 [demoAccount 21] .beginExecutionWindow (by decide),
    tableCall 41 demoAdmin (.finalizeRound (demoKey 70)) demoAdmin_signers]

/-- The round is opened, and the calls of its life run through to the end; none of
them closes the round.  One evaluation of the chain gives all of this. -/
theorem demoLife_evaluated :
    ran (callVisit demoRuntime (ledgerAfter demoRuntime demoLedger [demoInitialize]) demoOpen) =
        some (.openRound 0 100 (demoKey 50) 255) ∧
      (∀ v ∈ history demoRuntime
        (ledgerAfter demoRuntime demoLedger [demoInitialize, demoOpen]) demoLife,
        ran v ≠ none ∧ ran v ≠ some .closeRound) ∧
      fieldAt RoundAccount.state
        (ledgerAfter demoRuntime (ledgerAfter demoRuntime demoLedger [demoInitialize, demoOpen])
          demoLife) (demoKey 21) = some .completed := by
  decide +kernel

theorem demoOpen_opens :
    Opens (callVisit demoRuntime (ledgerAfter demoRuntime demoLedger [demoInitialize]) demoOpen)
      (demoKey 21) :=
  opens_of_ran (callVisit_mem_history ..) demoLife_evaluated.1 rfl

theorem demoLife_open :
    ∀ v ∈ history demoRuntime
      (ledgerAfter demoRuntime demoLedger [demoInitialize, demoOpen]) demoLife,
      ¬Closes v (demoKey 21) :=
  fun v hv => not_closes_of_ran hv (demoLife_evaluated.2.1 v hv).2

theorem round_lifecycle_demo :
    ∃ opened last,
      RoundAt demoRuntime (ledgerAfter demoRuntime demoLedger [demoInitialize, demoOpen])
          (demoKey 21) opened ∧
        opened.state = .registration ∧
        RoundAt demoRuntime
          (ledgerAfter demoRuntime demoLedger (demoInitialize :: demoOpen :: demoLife))
          (demoKey 21) last ∧
        RoundLife (demoKey 21) opened last
          (history demoRuntime
            (ledgerAfter demoRuntime demoLedger [demoInitialize, demoOpen]) demoLife) := by
  exact round_lifecycle demoLedger_genesis [demoInitialize] demoLife demoOpen demoOpen_opens
    demoLife_open

end MirrorPool
