import MirrorPool.Program.History

/-!
# Live rounds

A round is live from the call that opens it to the call that closes it.  While
it is live it is changed by guarded edits only, whatever account lists the
senders choose.

Main results:

- Theorem {lit}`Opens.live`: an opened round is live and fresh.
- Theorem {lit}`LiveRound.step`: a live round is edited by a guarded step,
  closed, or left alone.
- Theorem {lit}`LiveRound.visit`: a live round stays live until it is closed.
-/

namespace MirrorPool

variable {rt : Runtime} {L : Ledger} {calls : List (Call rt)} {v : CallVisit rt} {a : Pubkey}

/-- The address holds the round that was opened there: the address is the
derived one, the version byte is set, and the pool is a derived address. -/
structure LiveRound (rt : Runtime) (L : Ledger) (a : Pubkey) (round : RoundAccount) : Prop
    extends RoundAt rt L a round where
  version : round.version = 1
  derived : rt.createProgramAddress (Runtime.roundSeeds round.pool round.roundId round.bump)
    rt.programId = some a
  pool_derived : rt.IsDerived round.pool

theorem LiveRound.isDerived {round : RoundAccount} (hlive : LiveRound rt L a round) :
    rt.IsDerived a :=
  ⟨_, hlive.derived⟩

/-- A live round is edited by a guarded step, closed, or left alone.  It is
never taken for a pool: its pool field would be the authority, and no derived
address signs. -/
theorem LiveRound.step {call : Call rt} {instruction : CoordinationInstruction}
    {account : Account} {round : RoundAccount} (hlive : LiveRound rt L a round)
    (hstep : AccountStep rt L call a instruction account) :
    (account = L a ∧ roundKey instruction call.accounts ≠ some a) ∨
      (roundKey instruction call.accounts = some a ∧
        ∃ round', RoundStep rt L call instruction round round' ∧
          account = (L a).store RoundAccount.codec round') ∨
      (instruction = .closeRound ∧ keyAt call.accounts 2 = some a ∧ round.state.IsTerminal) := by
  have hhead : (L a).data.head? = some 1 := hlive.version ▸ hlive.toRoundAt.head?
  cases hstep with
  | same untouched => exact Or.inl ⟨rfl, untouched.roundKey_ne⟩
  | wallet _ signed => exact absurd signed (not_signedBy_of_isDerived hlive.isDerived)
  | initialized _ _ _ derived => exact (Runtime.pool_ne_round derived hlive.derived).elim
  | opened _ _ _ _ _ _ _ _ allocated => exact (allocated.not_of_head? hlive.owned hhead).elim
  | counted passed _ signed =>
      rcases pool_authority_eq_round_pool passed.read hlive.read with ⟨-, hkey⟩
      rw [hkey] at signed
      exact absurd signed (not_signedBy_of_isDerived hlive.pool_derived)
  | recorded _ _ _ derived => exact (Runtime.participant_ne_round derived hlive.derived).elim
  | edited position round_at step =>
      rcases round_at.unique hlive.toRoundAt with rfl
      exact Or.inr (Or.inl ⟨position, _, step, rfl⟩)
  | closed _ position _ round_at terminal =>
      rcases round_at.unique hlive.toRoundAt with rfl
      exact Or.inr (Or.inr ⟨rfl, position, terminal⟩)

/-- The round at the address is closed. -/
def Closes (v : CallVisit rt) (a : Pubkey) : Prop :=
  Succeeded v .closeRound ∧ keyAt v.input.accounts 2 = some a

theorem not_closes_of_ran (hv : v ∈ history rt L calls) (hran : ran v ≠ some .closeRound) :
    ¬Closes v a :=
  fun hcloses => hran ((ran_eq_some hv).mpr hcloses.1)

/-- What a call that does not close a live round does to it. -/
inductive RoundVisit (v : CallVisit rt) (a : Pubkey) (round : RoundAccount) :
    RoundAccount → Prop where
  | kept (same : v.after a = v.before a)
      (idle : ∀ instruction, Succeeded v instruction →
        roundKey instruction v.input.accounts ≠ some a) : RoundVisit v a round round
  | edited {instruction : CoordinationInstruction} {round' : RoundAccount}
      (ok : Succeeded v instruction)
      (position : roundKey instruction v.input.accounts = some a)
      (step : RoundStep rt v.before v.input instruction round round') :
      RoundVisit v a round round'

/-- A live round stays live until it is closed. -/
theorem LiveRound.visit {round : RoundAccount} (hv : v ∈ history rt L calls)
    (hlive : LiveRound rt v.before a round) (hopen : ¬Closes v a) :
    ∃ round', LiveRound rt v.after a round' ∧ RoundVisit v a round round' := by
  rcases succeeded_or_unchanged hv with ⟨instruction, hok⟩ | ⟨hsame, hnone⟩
  · rcases hlive.step (accountStep_of_execute hok a) with
      ⟨hsame, hidle⟩ | ⟨hposition, round', hstep, hstore⟩ | ⟨rfl, hposition, -⟩
    · refine ⟨round, ?_, .kept hsame fun instruction' hok' => ?_⟩
      · exact { hlive with owned := hsame ▸ hlive.owned, read := hsame ▸ hlive.read }
      · rw [← hok.instruction_unique hok']
        exact hidle
    · rcases hstep.identity with ⟨hversion, hidentity⟩
      simp only [RoundAccount.identity, Prod.mk.injEq] at hidentity
      rcases hidentity with ⟨hpool, hid, hbump, -, -⟩
      refine ⟨round', ?_, .edited hok hposition hstep⟩
      exact
        { owned := by rw [hstore]; exact hlive.owned
          read := by rw [hstore]; exact Account.read_store
          version := hversion.trans hlive.version
          derived := by rw [hpool, hid, hbump]; exact hlive.derived
          pool_derived := hpool ▸ hlive.pool_derived }
    · exact absurd ⟨hok, hposition⟩ hopen
  · refine ⟨round, ?_, .kept (by rw [hsame]) fun instruction hok => absurd hok (hnone _)⟩
    rw [hsame]
    exact hlive

/-- A round is opened at the address. -/
def Opens (v : CallVisit rt) (a : Pubkey) : Prop :=
  ∃ roundId deadline template bump,
    Succeeded v (.openRound roundId deadline template bump) ∧
      keyAt v.input.accounts 2 = some a

theorem opens_of_ran {roundId deadline : UInt64} {template : Bytes32} {bump : UInt8}
    (hv : v ∈ history rt L calls) (hran : ran v = some (.openRound roundId deadline template bump))
    (hposition : keyAt v.input.accounts 2 = some a) : Opens v a :=
  ⟨roundId, deadline, template, bump, (ran_eq_some hv).mp hran, hposition⟩

/-- An opened round is live and fresh, and its pool is the account that was
passed with the signature of its authority. -/
theorem Opens.live (hconsistent : Consistent rt v.before) (hopens : Opens v a) :
    ∃ round pool, LiveRound rt v.after a round ∧ round.state = .registration ∧
      round.acceptedCount = 0 ∧ PassedPool rt v.before v.input round.pool pool ∧
      SignedBy v.input.accounts pool.authority := by
  rcases hopens with ⟨roundId, deadline, template, bump, hok, hposition⟩
  have hwrites : 2 ∈ (CoordinationInstruction.openRound roundId deadline template bump).writes :=
    List.mem_cons_of_mem _ List.mem_cons_self
  have hstep := accountStep_of_execute hok a
  generalize hafter : v.after a = account at hstep
  cases hstep with
  | same untouched => exact absurd hposition (untouched 2 hwrites)
  | wallet untouched => exact absurd hposition (untouched 2 hwrites)
  | opened passed _ signed _ _ _ _ derived allocated =>
      refine ⟨.fresh _ roundId deadline template bump, _, ?_, rfl, rfl, passed, signed⟩
      exact
        { owned := by rw [hafter]; exact allocated.owner_eq
          read := by rw [hafter]; exact Account.read_store
          version := rfl
          derived := derived
          pool_derived := (hconsistent _ passed.owned).isDerived }
  | counted _ position => exact absurd hposition position
  | edited _ _ step => cases step

end MirrorPool
