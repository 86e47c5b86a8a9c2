import MirrorPool.Core.Rounds
import MirrorPool.Program.Lifecycle

/-!
# The declared graph on chain

The states of the program have the names of the protocol's states.  One
instruction moves a round along an edge of the declared graph, or leaves its
state alone, with one exception: {lit}`FinalizeRound` goes from the execution
window to completion, and the graph has no such edge.

Main results:

- Definition {lit}`State.toRoundState`: the protocol state of the same name.
- Theorem {lit}`RoundStep.follows_graph_iff`: one edit follows the graph unless
  it finalizes.
- Theorem {lit}`stays_in_graph_iff`: a run stays in the graph exactly when it
  finalizes no round.
- Theorem {lit}`finalize_leaves_graph`: a run that takes the missing edge.
-/

namespace MirrorPool

/-- The protocol state of the same name. -/
def State.toRoundState : State → RoundState
  | registration => .registration
  | thresholdReached => .thresholdReached
  | sealed => .sealed
  | releaseScheduled => .releaseScheduled
  | executionWindow => .executionWindow
  | finalizing => .finalizing
  | completed => .completed
  | cancelled => .cancelled
  | expired => .expired

/-- The states are equal, or an edge of the declared graph leads from the first
to the second. -/
def State.FollowsGraph (state state' : State) : Prop :=
  state' = state ∨ state.toRoundState.canTransitionTo state'.toRoundState = true

instance (state state' : State) : Decidable (state.FollowsGraph state') :=
  inferInstanceAs (Decidable (_ ∨ _))

variable {rt : Runtime} {L : Ledger} {a : Pubkey}

/-- A round that is not terminal can be cancelled. -/
theorem State.followsGraph_cancelled {state : State} (hlive : ¬state.IsTerminal) :
    state.FollowsGraph .cancelled := by
  revert hlive
  cases state <;> decide

/-- An edit follows the graph unless it finalizes. -/
theorem RoundStep.follows_graph_iff {call : Call rt} {instruction : CoordinationInstruction}
    {round round' : RoundAccount} (hstep : RoundStep rt L call instruction round round') :
    round.state.FollowsGraph round'.state ↔ instruction.isFinalizeRound = false := by
  cases hstep with
  | registered _ _ _ state =>
      refine iff_of_true ?_ rfl
      rw [RoundAccount.registered]
      split
      · rcases state with hstate | hstate
        · rw [hstate]
          exact (by decide : State.FollowsGraph .registration .thresholdReached)
        · rw [hstate]
          exact (by decide : State.FollowsGraph .thresholdReached .thresholdReached)
      · exact .inl rfl
  | published _ _ _ _ state =>
      rw [state]
      exact iff_of_true (by decide : State.FollowsGraph .registration .thresholdReached) rfl
  | sealed _ _ _ state =>
      rw [state]
      exact iff_of_true (by decide : State.FollowsGraph .thresholdReached .sealed) rfl
  | scheduled _ _ state =>
      rw [state]
      exact iff_of_true (by decide : State.FollowsGraph .sealed .releaseScheduled) rfl
  | begun state =>
      rw [state]
      exact iff_of_true (by decide : State.FollowsGraph .releaseScheduled .executionWindow) rfl
  | finalized _ _ state =>
      rw [state]
      refine iff_of_false (by decide : ¬State.FollowsGraph .executionWindow .completed) ?_
      intro h
      contradiction
  | cancelled _ _ live => exact iff_of_true (State.followsGraph_cancelled live) rfl

/-- The address is that of a round. -/
def IsRoundAddress (rt : Runtime) (a : Pubkey) : Prop :=
  ∃ pool roundId bump,
    rt.createProgramAddress (Runtime.roundSeeds pool roundId bump) rt.programId = some a

theorem IsRoundAddress.isDerived (haddress : IsRoundAddress rt a) : rt.IsDerived a := by
  rcases haddress with ⟨pool, roundId, bump, hderived⟩
  exact ⟨_, hderived⟩

/-- Whatever a call other than {lit}`OpenRound` and {lit}`CloseRound` does at
the address of a round is an edit, or nothing. -/
theorem IsRoundAddress.step {call : Call rt} {instruction : CoordinationInstruction}
    {account : Account} (haddress : IsRoundAddress rt a)
    (hopen : ∀ roundId deadline template bump,
      instruction ≠ .openRound roundId deadline template bump)
    (hclose : instruction ≠ .closeRound) (hstep : AccountStep rt L call a instruction account) :
    (account = L a ∧ roundKey instruction call.accounts ≠ some a) ∨
      (roundKey instruction call.accounts = some a ∧ ∃ round round', RoundAt rt L a round ∧
        RoundStep rt L call instruction round round' ∧
        account = (L a).store RoundAccount.codec round') := by
  have hnotSigned : ¬SignedBy call.accounts a := not_signedBy_of_isDerived haddress.isDerived
  rcases haddress with ⟨pool, roundId, bump, hderived⟩
  cases hstep with
  | same untouched => exact .inl ⟨rfl, untouched.roundKey_ne⟩
  | wallet _ signed => exact absurd signed hnotSigned
  | initialized _ _ _ derived => exact (Runtime.pool_ne_round derived hderived).elim
  | opened => exact absurd rfl (hopen _ _ _ _)
  | counted => exact absurd rfl (hopen _ _ _ _)
  | recorded _ _ _ derived => exact (Runtime.participant_ne_round derived hderived).elim
  | edited position round_at step => exact .inr ⟨position, _, _, round_at, step, rfl⟩
  | closed => exact absurd rfl hclose

/-- The call moves every round account along the declared graph, or leaves its
state alone. -/
def StaysInGraph (v : CallVisit rt) : Prop :=
  ∀ a round round', IsRoundAddress rt a → RoundAt rt v.before a round →
    RoundAt rt v.after a round' → round.state.FollowsGraph round'.state

/-- A successful call other than {lit}`OpenRound` and {lit}`CloseRound` moves a
round account along the declared graph exactly when it does not finalize it. -/
theorem Succeeds.follows_graph_iff {L' : Ledger} {call : Call rt}
    {instruction : CoordinationInstruction} (hok : Succeeds rt L call instruction L')
    (hopen : ∀ roundId deadline template bump,
      instruction ≠ .openRound roundId deadline template bump)
    (hclose : instruction ≠ .closeRound) (haddress : IsRoundAddress rt a)
    {round round' : RoundAccount} (hbefore : RoundAt rt L a round)
    (hafter : RoundAt rt L' a round') :
    round.state.FollowsGraph round'.state ↔
      ¬(instruction.isFinalizeRound = true ∧ roundKey instruction call.accounts = some a) := by
  rcases haddress.step hopen hclose (accountStep_of_execute hok a) with
    ⟨hsame, hidle⟩ | ⟨hposition, edited, edited', hedited, hstep, hstore⟩
  · have hround : round' = round :=
      RoundAt.unique hafter ⟨hsame ▸ hbefore.owned, hsame ▸ hbefore.read⟩
    exact iff_of_true (.inl (by rw [hround])) (fun h => hidle h.2)
  · rcases hedited.unique hbefore with rfl
    have hround : round' = edited' := by
      apply Option.some.inj
      rw [← hafter.read, hstore, Account.read_store]
    rw [hround, hstep.follows_graph_iff, hposition]
    simp

/-- A round account worked on by a finalizing call leaves the graph. -/
theorem not_staysInGraph_of_finalizes {calls : List (Call rt)} {v : CallVisit rt}
    {metrics : Bytes32} (hv : v ∈ history rt L calls) (haddress : IsRoundAddress rt a)
    (hran : ranOn v a = some (.finalizeRound metrics)) : ¬StaysInGraph v := by
  intro hstays
  rcases (ranOn_eq_some hv).mp hran with ⟨hok, hposition⟩
  have hopen : ∀ roundId deadline template bump, CoordinationInstruction.finalizeRound metrics ≠
      .openRound roundId deadline template bump := by simp
  have hclose : CoordinationInstruction.finalizeRound metrics ≠ .closeRound := by simp
  rcases haddress.step hopen hclose (accountStep_of_execute hok a) with
    ⟨-, hidle⟩ | ⟨-, round, round', hround, hstep, hstore⟩
  · exact hidle hposition
  · have hafter : RoundAt rt v.after a round' :=
      ⟨by rw [hstore, Account.store_owner, hround.owned], by rw [hstore, Account.read_store]⟩
    have hfollows := hstays a round round' haddress hround hafter
    rw [hok.follows_graph_iff hopen hclose haddress hround hafter] at hfollows
    exact hfollows ⟨rfl, hposition⟩

/-- A run from any ledger stays in the declared graph, {lit}`OpenRound` and
{lit}`CloseRound` aside, exactly when none of its calls finalizes a round. -/
theorem stays_in_graph_iff (L : Ledger) (calls : List (Call rt)) :
    (∀ v ∈ history rt L calls, ∀ instruction, Succeeded v instruction →
      (∀ roundId deadline template bump,
        instruction ≠ .openRound roundId deadline template bump) →
      instruction ≠ .closeRound → StaysInGraph v) ↔
      ∀ v ∈ history rt L calls, ∀ a metrics, IsRoundAddress rt a →
        ranOn v a ≠ some (.finalizeRound metrics) := by
  constructor
  · intro hstays v hv a metrics haddress hran
    have hok := ((ranOn_eq_some hv).mp hran).1
    exact not_staysInGraph_of_finalizes hv haddress hran
      (hstays v hv _ hok (by simp) (by simp))
  · intro hnever v hv instruction hok hopen hclose a round round' haddress hround hround'
    rw [hok.follows_graph_iff hopen hclose haddress hround hround']
    rintro ⟨hfinalize, hposition⟩
    cases instruction with
    | finalizeRound metrics =>
        exact hnever v hv a metrics haddress ((ranOn_eq_some hv).mpr ⟨hok, hposition⟩)
    | _ => cases hfinalize

/-! ## The missing edge -/

/-- The only round of the small chain runs to its end. -/
def demoFinalizing : List (Call demoRuntime) :=
  demoInitialize :: demoOpen :: demoLife

theorem demoKey_isRoundAddress : IsRoundAddress demoRuntime (demoKey 21) :=
  ⟨demoKey 11, 0, 255, by decide⟩

/-- The last call goes from the execution window to completion, and the graph
has no such edge. -/
theorem finalize_leaves_graph :
    Genesis demoRuntime demoLedger ∧
      ¬∀ v ∈ history demoRuntime demoLedger demoFinalizing, ∀ instruction,
        Succeeded v instruction →
          (∀ roundId deadline template bump,
            instruction ≠ .openRound roundId deadline template bump) →
          instruction ≠ .closeRound → StaysInGraph v := by
  refine ⟨demoLedger_genesis, fun hstays => ?_⟩
  have hran : ∃ v ∈ history demoRuntime demoLedger demoFinalizing,
      ranOn v (demoKey 21) = some (.finalizeRound (demoKey 70)) := by
    decide +kernel
  rcases hran with ⟨v, hv, hran⟩
  have hok := ((ranOn_eq_some hv).mp hran).1
  exact not_staysInGraph_of_finalizes hv demoKey_isRoundAddress hran
    (hstays v hv _ hok (by simp) (by simp))

end MirrorPool
