import MirrorPool.Library.Streams
import MirrorPool.Program.OwnPool

/-!
# Calls on separate accounts

The runtime runs calls side by side when none of them lists an account that
another one may write.  For this program the rule is sound: a call changes only
accounts it lists as writable, and its outcome depends only on the accounts it
lists.

Main results:

- Theorem {lit}`execute_eqOn`: on ledgers that agree on the listed accounts a
  call does the same.
- Theorem {lit}`confined_applyCall`: a call is confined to its account list.
- Theorem {lit}`separate_teams`: teams whose calls share no writable account
  reach one ledger in every order, and each sees the outcomes of being alone.
-/

namespace MirrorPool

open Fallible

/-! ## Account locks -/

namespace Call

variable {rt : Runtime}

/-- The accounts a call lists. -/
def keys (call : Call rt) : Set Pubkey :=
  {a | ∃ info ∈ call.accounts, info.key = a}

/-- The accounts a call lists as writable. -/
def writableKeys (call : Call rt) : Set Pubkey :=
  {a | ∃ info ∈ call.accounts, info.isWritable = true ∧ info.key = a}

theorem writableKeys_subset (call : Call rt) : call.writableKeys ⊆ call.keys := by
  rintro a ⟨info, hinfo, -, rfl⟩
  exact ⟨info, hinfo, rfl⟩

theorem mem_keys_of_getElem? {call : Call rt} {position : Nat} {info : AccountInfo}
    (hinfo : call.accounts[position]? = some info) : info.key ∈ call.keys :=
  ⟨info, List.mem_of_getElem? hinfo, rfl⟩

/-- The other call lists no account that this one lists as writable. -/
def WritesApart (call other : Call rt) : Prop :=
  ∀ info ∈ call.accounts, info.isWritable = true → ∀ listed ∈ other.accounts,
    listed.key ≠ info.key

instance (call other : Call rt) : Decidable (call.WritesApart other) :=
  inferInstanceAs (Decidable (∀ info ∈ call.accounts, _ → ∀ listed ∈ other.accounts, _))

theorem WritesApart.disjoint {call other : Call rt} (hapart : call.WritesApart other) :
    Disjoint call.writableKeys other.keys := by
  refine Set.disjoint_left.mpr ?_
  rintro a ⟨info, hinfo, hwritable, rfl⟩ ⟨listed, hlisted, hkey⟩
  exact hapart info hinfo hwritable listed hlisted hkey

end Call

variable {rt : Runtime} {L L' M : Ledger} {call : Call rt} {a : Pubkey}

/-- A successful call changes only accounts it lists as writable. -/
theorem execute_frame (hok : execute rt L call = .ok L') (hfree : a ∉ call.writableKeys) :
    L' a = L a := by
  rcases execute_eq_ok.mp hok with ⟨⟨instruction, -, hdispatch⟩, hreadOnly⟩
  by_cases hlisted : ∃ info ∈ call.accounts, info.key = a
  · rcases hlisted with ⟨info, hinfo, rfl⟩
    refine hreadOnly info hinfo (Bool.eq_false_iff.mpr fun hwritable => ?_)
    exact hfree ⟨info, hinfo, hwritable, rfl⟩
  · rcases (dispatch_step hdispatch a).eq_or_listed with
      hsame | ⟨payer, hpayer, -, hkey⟩ | ⟨position, -, hkey⟩
    · exact hsame
    · exact absurd ⟨payer, List.mem_of_getElem? hpayer, hkey⟩ hlisted
    · rcases Option.map_eq_some_iff.mp hkey with ⟨info, hinfo, hkey⟩
      exact absurd ⟨info, List.mem_of_getElem? hinfo, hkey⟩ hlisted

/-- A call changes only accounts it lists as writable. -/
theorem applyCall_frame (hfree : a ∉ call.writableKeys) : applyCall rt L call a = L a := by
  unfold applyCall
  cases hexecuted : execute rt L call with
  | ok L' => exact execute_frame hexecuted hfree
  | error error => rfl

/-! ## Writes on ledgers that agree -/

section Agreement

variable {K : Set Pubkey} {b : Pubkey}

theorem Ledger.eqOn_update (hagree : Set.EqOn L M K) (a : Pubkey) (account : Account) :
    Set.EqOn (Function.update L a account) (Function.update M a account) K := by
  intro b hb
  by_cases hba : b = a
  · subst hba
    rw [Function.update_self, Function.update_self]
  · rw [Function.update_of_ne hba, Function.update_of_ne hba]
    exact hagree hb

theorem Ledger.eqOn_setData (hagree : Set.EqOn L M K) (ha : a ∈ K) (data : List UInt8) :
    Set.EqOn (L.setData a data) (M.setData a data) K := by
  rw [setData, setData, hagree ha]
  exact eqOn_update hagree a _

theorem Ledger.eqOn_setLamports (hagree : Set.EqOn L M K) (ha : a ∈ K) (lamports : UInt64) :
    Set.EqOn (L.setLamports a lamports) (M.setLamports a lamports) K := by
  rw [setLamports, setLamports, hagree ha]
  exact eqOn_update hagree a _

theorem Ledger.eqOn_setRound (hagree : Set.EqOn L M K) (ha : a ∈ K) (round : RoundAccount) :
    Set.EqOn (L.setRound a round) (M.setRound a round) K := by
  rw [setRound, setRound, hagree ha]
  exact eqOn_setData hagree ha _

theorem Ledger.eqOn_setPool (hagree : Set.EqOn L M K) (ha : a ∈ K) (pool : PoolAccount) :
    Set.EqOn (L.setPool a pool) (M.setPool a pool) K := by
  rw [setPool, setPool, hagree ha]
  exact eqOn_setData hagree ha _

theorem Ledger.eqOn_setRecord (hagree : Set.EqOn L M K) (ha : a ∈ K)
    (record : ParticipantRecord) :
    Set.EqOn (L.setRecord a record) (M.setRecord a record) K := by
  rw [setRecord, setRecord, hagree ha]
  exact eqOn_setData hagree ha _

theorem Ledger.eqOn_closeRound (hagree : Set.EqOn L M K) (ha : a ∈ K) (hb : b ∈ K)
    (credited : UInt64) :
    Set.EqOn (L.closeRound a b credited) (M.closeRound a b credited) K := by
  rw [closeRound, closeRound, hagree hb]
  exact eqOn_setData (eqOn_setLamports (eqOn_setLamports hagree ha _) hb _) hb _

theorem Ledger.eqOn_createAccount (hagree : Set.EqOn L M K) (ha : a ∈ K) (b : Pubkey)
    (lamports : UInt64) (space : Nat) (owner : Pubkey) :
    Set.EqOn (L.createAccount a b lamports space owner) (M.createAccount a b lamports space owner)
      K := by
  rw [createAccount, createAccount, hagree ha]
  exact eqOn_update (eqOn_setLamports hagree ha _) b _

/-- Creation is possible on both ledgers or on none. -/
theorem Creatable.congr (hagree : Set.EqOn L M K) {payer account : AccountInfo}
    {lamports : UInt64} {derived : Option Pubkey} (hpayer : payer.key ∈ K)
    (haccount : account.key ∈ K) (hcreatable : Creatable L payer account lamports derived) :
    Creatable M payer account lamports derived := by
  rcases hcreatable with ⟨hsigns, hwritable, htarget, hderived, hdistinct, hwallet, hfunded,
    hunused, hunfunded⟩
  rw [hagree hpayer] at hwallet hfunded
  rw [hagree haccount] at hunused hunfunded
  exact ⟨hsigns, hwritable, htarget, hderived, hdistinct, hwallet, hfunded, hunused, hunfunded⟩

/-- Allocation does the same on both ledgers. -/
theorem createPdaAccount_eqOn (hagree : Set.EqOn L M K) {payer account system : AccountInfo}
    {space : Nat} {seeds : List (List UInt8)} (hspace : space ≤ 10240) (hpayer : payer.key ∈ K)
    (haccount : account.key ∈ K)
    (hok : createPdaAccount rt L payer account system space seeds = .ok L') :
    ∃ M', createPdaAccount rt M payer account system space seeds = .ok M' ∧
      Set.EqOn L' M' K := by
  rcases (createPdaAccount_eq_ok hspace).mp hok with
    ⟨howned, hblank, rfl⟩ | ⟨hother, hsystem, hcreatable, rfl⟩
  · rw [hagree haccount] at howned hblank
    exact ⟨M, (createPdaAccount_eq_ok hspace).mpr (.inl ⟨howned, hblank, rfl⟩), hagree⟩
  · rw [hagree haccount] at hother
    exact ⟨_, (createPdaAccount_eq_ok hspace).mpr
      (.inr ⟨hother, hsystem, hcreatable.congr hagree hpayer haccount, rfl⟩),
      Ledger.eqOn_createAccount hagree hpayer ..⟩

end Agreement

/-! ## Handlers on ledgers that agree -/

section Handlers

variable {instruction : CoordinationInstruction}

/-- The accounts of an administrative instruction are in order on both ledgers or
on none. -/
theorem AdminContext.congr (hagree : Set.EqOn L M call.keys) {admin : AdminAccounts}
    {pool : PoolAccount} {round : RoundAccount}
    (ctx : AdminContext rt L call.accounts admin pool round) :
    AdminContext rt M call.accounts admin pool round := by
  rcases ctx with ⟨hauthority, hpool, hround, hsigned, hpoolOwned, hroundOwned, hpoolRead,
    hroundRead⟩
  rw [hagree (Call.mem_keys_of_getElem? hpool)] at hpoolOwned hpoolRead
  rw [hagree (Call.mem_keys_of_getElem? hround)] at hroundOwned hroundRead
  exact ⟨hauthority, hpool, hround, hsigned, hpoolOwned, hroundOwned, hpoolRead, hroundRead⟩

/-- An edit of the round is made on both ledgers. -/
theorem AdminContext.eqOn_setRound (hagree : Set.EqOn L M call.keys) {admin : AdminAccounts}
    {pool : PoolAccount} {round : RoundAccount}
    (ctx : AdminContext rt L call.accounts admin pool round) (round' : RoundAccount) :
    Set.EqOn (L.setRound admin.round.key round') (M.setRound admin.round.key round') call.keys :=
  Ledger.eqOn_setRound hagree (Call.mem_keys_of_getElem? ctx.round_at) round'

/-- {lit}`InitializePool` does the same on both ledgers. -/
theorem initializePool_eqOn (hagree : Set.EqOn L M call.keys) {poolId templateHash : Bytes32}
    {min max : UInt32} {minDelay maxDelay window : UInt64} {backend : Backend} {bump : UInt8}
    (hok : initializePool rt L call.accounts poolId templateHash min max minDelay maxDelay window
      backend bump = .ok L') :
    ∃ M', initializePool rt M call.accounts poolId templateHash min max minDelay maxDelay window
      backend bump = .ok M' ∧ Set.EqOn L' M' call.keys := by
  rcases initializePool_eq_ok.mp hok with ⟨authority, poolInfo, systemInfo, L₁, hpolicy,
    hauthority, hpool, hsystem, hsigned, hderived, hcreate, hfits, rfl⟩
  have hpoolKey := Call.mem_keys_of_getElem? hpool
  rcases createPdaAccount_eqOn hagree (by decide) (Call.mem_keys_of_getElem? hauthority) hpoolKey
    hcreate with ⟨M₁, hcreate', hagree'⟩
  rw [hagree' hpoolKey] at hfits
  exact ⟨_, initializePool_eq_ok.mpr ⟨authority, poolInfo, systemInfo, M₁, hpolicy, hauthority,
    hpool, hsystem, hsigned, hderived, hcreate', hfits, rfl⟩,
    Ledger.eqOn_setPool hagree' hpoolKey _⟩

/-- {lit}`OpenRound` does the same on both ledgers. -/
theorem openRound_eqOn (hagree : Set.EqOn L M call.keys) {roundId deadline : UInt64}
    {template : Bytes32} {bump : UInt8}
    (hok : openRound rt call.slot L call.accounts roundId deadline template bump = .ok L') :
    ∃ M', openRound rt call.slot M call.accounts roundId deadline template bump = .ok M' ∧
      Set.EqOn L' M' call.keys := by
  rcases openRound_eq_ok.mp hok with ⟨authority, poolInfo, roundInfo, systemInfo, pool,
    nextRound, L₁, hauthority, hpool, hround, hsystem, hsigned, howned, hread, hguards⟩
  rcases hguards with ⟨hauth, hpaused, hnext, htemplate, hdeadline, hderived, hcreate, hadd,
    hpoolFits, hroundFits, rfl⟩
  have hpoolKey := Call.mem_keys_of_getElem? hpool
  have hroundKey := Call.mem_keys_of_getElem? hround
  rcases createPdaAccount_eqOn hagree (by decide) (Call.mem_keys_of_getElem? hauthority) hroundKey
    hcreate with ⟨M₁, hcreate', hagree'⟩
  rw [hagree hpoolKey] at howned hread
  rw [hagree' hpoolKey] at hpoolFits
  rw [hagree' hroundKey] at hroundFits
  exact ⟨_, openRound_eq_ok.mpr ⟨authority, poolInfo, roundInfo, systemInfo, pool, nextRound, M₁,
    hauthority, hpool, hround, hsystem, hsigned, howned, hread, hauth, hpaused, hnext, htemplate,
    hdeadline, hderived, hcreate', hadd, hpoolFits, hroundFits, rfl⟩,
    Ledger.eqOn_setRound (Ledger.eqOn_setPool hagree' hpoolKey _) hroundKey _⟩

/-- {lit}`RegisterTransparent` does the same on both ledgers. -/
theorem registerTransparent_eqOn (hagree : Set.EqOn L M call.keys) {key : Bytes32} {bump : UInt8}
    (hok : registerTransparent rt call.slot L call.accounts key bump = .ok L') :
    ∃ M', registerTransparent rt call.slot M call.accounts key bump = .ok M' ∧
      Set.EqOn L' M' call.keys := by
  rcases registerTransparent_eq_ok.mp hok with ⟨payer, poolInfo, roundInfo, recordInfo, systemInfo,
    pool, round, count, L₁, hpayer, hpool, hround, hrecord, hsystem, hsigned, hpoolOwned,
    hroundOwned, hpoolRead, hroundRead, hguards⟩
  rcases hguards with ⟨hbackend, hlink, hstate, hdeadline, hroom, hderived, hcreate, hadd,
    hrecordFits, hroundFits, rfl⟩
  have hpoolKey := Call.mem_keys_of_getElem? hpool
  have hroundKey := Call.mem_keys_of_getElem? hround
  have hrecordKey := Call.mem_keys_of_getElem? hrecord
  rcases createPdaAccount_eqOn hagree (by decide) (Call.mem_keys_of_getElem? hpayer) hrecordKey
    hcreate with ⟨M₁, hcreate', hagree'⟩
  rw [hagree hpoolKey] at hpoolOwned hpoolRead
  rw [hagree hroundKey] at hroundOwned hroundRead
  rw [hagree' hrecordKey] at hrecordFits
  rw [hagree' hroundKey] at hroundFits
  exact ⟨_, registerTransparent_eq_ok.mpr ⟨payer, poolInfo, roundInfo, recordInfo, systemInfo,
    pool, round, count, M₁, hpayer, hpool, hround, hrecord, hsystem, hsigned, hpoolOwned,
    hroundOwned, hpoolRead, hroundRead, hbackend, hlink, hstate, hdeadline, hroom, hderived,
    hcreate', hadd, hrecordFits, hroundFits, rfl⟩,
    Ledger.eqOn_setRound (Ledger.eqOn_setRecord hagree' hrecordKey _) hroundKey _⟩

/-- {lit}`BeginExecutionWindow` does the same on both ledgers. -/
theorem begin_eqOn (hagree : Set.EqOn L M call.keys)
    (hok : begin rt call.slot L call.accounts = .ok L') :
    ∃ M', begin rt call.slot M call.accounts = .ok M' ∧ Set.EqOn L' M' call.keys := by
  rcases begin_eq_ok.mp hok with ⟨info, round, hinfo, howned, hread, hguards, rfl⟩
  have hkey := Call.mem_keys_of_getElem? hinfo
  rw [hagree hkey] at howned hread
  exact ⟨_, begin_eq_ok.mpr ⟨info, round, hinfo, howned, hread, hguards, rfl⟩,
    Ledger.eqOn_setRound hagree hkey _⟩

/-- {lit}`CloseRound` does the same on both ledgers. -/
theorem close_eqOn (hagree : Set.EqOn L M call.keys) (hok : close rt L call.accounts = .ok L') :
    ∃ M', close rt M call.accounts = .ok M' ∧ Set.EqOn L' M' call.keys := by
  rcases close_eq_ok.mp hok with ⟨admin, pool, round, ctx, credited, hguards, rfl⟩
  have hauthority := Call.mem_keys_of_getElem? ctx.authority_at
  have hround := Call.mem_keys_of_getElem? ctx.round_at
  rw [hagree hauthority, hagree hround] at hguards
  exact ⟨_, close_eq_ok.mpr ⟨admin, pool, round, ctx.congr hagree, credited, hguards, rfl⟩,
    Ledger.eqOn_closeRound hagree hauthority hround credited⟩

/-- A handler does the same on ledgers that agree on the listed accounts. -/
theorem dispatch_eqOn (hagree : Set.EqOn L M call.keys)
    (hok : dispatch rt call.slot L call.accounts instruction = .ok L') :
    ∃ M', dispatch rt call.slot M call.accounts instruction = .ok M' ∧
      Set.EqOn L' M' call.keys := by
  cases instruction with
  | initializePool => exact initializePool_eqOn hagree hok
  | openRound => exact openRound_eqOn hagree hok
  | registerTransparent => exact registerTransparent_eqOn hagree hok
  | publishCohortRoot root count =>
      rcases publishRoot_eq_ok.mp hok with ⟨admin, pool, round, ctx, hguards, rfl⟩
      exact ⟨_, publishRoot_eq_ok.mpr ⟨admin, pool, round, ctx.congr hagree, hguards, rfl⟩,
        ctx.eqOn_setRound hagree _⟩
  | sealRound =>
      rcases sealRound_eq_ok.mp hok with ⟨admin, pool, round, ctx, hguards, rfl⟩
      exact ⟨_, sealRound_eq_ok.mpr ⟨admin, pool, round, ctx.congr hagree, hguards, rfl⟩,
        ctx.eqOn_setRound hagree _⟩
  | scheduleRelease release =>
      rcases schedule_eq_ok.mp hok with
        ⟨admin, pool, round, ctx, delay, windowEndSlot, hguards, rfl⟩
      exact ⟨_, schedule_eq_ok.mpr
        ⟨admin, pool, round, ctx.congr hagree, delay, windowEndSlot, hguards, rfl⟩,
        ctx.eqOn_setRound hagree _⟩
  | beginExecutionWindow => exact begin_eqOn hagree hok
  | finalizeRound metrics =>
      rcases finalize_eq_ok.mp hok with ⟨admin, pool, round, ctx, hguards, rfl⟩
      exact ⟨_, finalize_eq_ok.mpr ⟨admin, pool, round, ctx.congr hagree, hguards, rfl⟩,
        ctx.eqOn_setRound hagree _⟩
  | cancelRound =>
      rcases cancel_eq_ok.mp hok with ⟨admin, pool, round, ctx, hguards, rfl⟩
      exact ⟨_, cancel_eq_ok.mpr ⟨admin, pool, round, ctx.congr hagree, hguards, rfl⟩,
        ctx.eqOn_setRound hagree _⟩
  | closeRound => exact close_eqOn hagree hok

end Handlers

/-! ## Calls on ledgers that agree -/

/-- On ledgers that agree on the listed accounts a call does the same. -/
theorem execute_eqOn (hagree : Set.EqOn L M call.keys) (hok : execute rt L call = .ok L') :
    ∃ M', execute rt M call = .ok M' ∧ Set.EqOn L' M' call.keys := by
  rcases execute_eq_ok.mp hok with ⟨⟨instruction, hdecoded, hdispatch⟩, hreadOnly⟩
  rcases dispatch_eqOn hagree hdispatch with ⟨M', hdispatch', hagree'⟩
  refine ⟨M', execute_eq_ok.mpr ⟨⟨instruction, hdecoded, hdispatch'⟩, ?_⟩, hagree'⟩
  intro info hinfo hwritable
  have hkey : info.key ∈ call.keys := ⟨info, hinfo, rfl⟩
  rw [← hagree' hkey, ← hagree hkey]
  exact hreadOnly info hinfo hwritable

/-- A call runs through on both ledgers or on none. -/
theorem ran_congr (hagree : Set.EqOn L M call.keys) :
    ran (callVisit rt L call) = ran (callVisit rt M call) := by
  unfold ran
  cases hL : execute rt L call with
  | ok L' =>
      rcases execute_eqOn hagree hL with ⟨M', hM, -⟩
      simp only [hM]
      cases CoordinationInstruction.tryFromSlice call.data <;> rfl
  | error error =>
      cases hM : execute rt M call with
      | ok M' =>
          rcases execute_eqOn hagree.symm hM with ⟨L', hL', -⟩
          rw [hL] at hL'
          cases hL'
      | error error' =>
          cases CoordinationInstruction.tryFromSlice call.data <;> rfl

/-- A call is confined to its account list. -/
theorem confined_applyCall (rt : Runtime) :
    Streams.Confined (applyCall rt) Call.keys Call.writableKeys where
  writes_touched := Call.writableKeys_subset
  frame _ _ _ hfree := applyCall_frame hfree
  determined {L M} call hagree := by
    unfold applyCall
    cases hL : execute rt L call with
    | ok L' =>
        rcases execute_eqOn hagree hL with ⟨M', hM, hagree'⟩
        simpa only [hM] using hagree'
    | error error =>
        cases hM : execute rt M call with
        | ok M' =>
            rcases execute_eqOn hagree.symm hM with ⟨L', hL', -⟩
            rw [hL] at hL'
            cases hL'
        | error error' => exact hagree

/-! ## Teams -/

section Teams

variable {Team : Type} [DecidableEq Team]

/-- No call of a team lists an account that a call of another team may write. -/
def SeparateTeams (calls : List (Team × Call rt)) : Prop :=
  ∀ c ∈ calls, ∀ d ∈ calls, c.1 ≠ d.1 → c.2.WritesApart d.2

instance (calls : List (Team × Call rt)) : Decidable (SeparateTeams calls) :=
  inferInstanceAs (Decidable (∀ c ∈ calls, ∀ d ∈ calls, _ → _))

/-- The calls of one team in order. -/
abbrev callsOf (team : Team) (calls : List (Team × Call rt)) : List (Call rt) :=
  Streams.stream team calls

/-- The ledger after the calls of all teams in the given order. -/
abbrev ledgerAfterAll (rt : Runtime) (L : Ledger) (calls : List (Team × Call rt)) : Ledger :=
  ledgerAfter rt L (calls.map Prod.snd)

/-- The instructions that ran through for one team among all calls, with the
calls that failed as {lit}`none`. -/
def ranFor (rt : Runtime) (L : Ledger) (team : Team) (calls : List (Team × Call rt)) :
    List (Option CoordinationInstruction) :=
  Streams.outcomes (applyCall rt) (fun M call => ran (callVisit rt M call)) team L calls

/-- Teams that keep off each other's accounts reach the same ledger in every
order, and each team sees what it would see alone: the same calls run through,
and its accounts end the same. -/
theorem separate_teams (L : Ledger) {calls calls' : List (Team × Call rt)}
    (hseparate : SeparateTeams calls) (hteams : ∀ team, callsOf team calls = callsOf team calls') :
    ledgerAfterAll rt L calls = ledgerAfterAll rt L calls' ∧
      ∀ team, ranFor rt L team calls = (history rt L (callsOf team calls)).map ran ∧
        ∀ call ∈ callsOf team calls, ∀ info ∈ call.accounts,
          ledgerAfterAll rt L calls info.key =
            ledgerAfter rt L (callsOf team calls) info.key := by
  have happart : Streams.Separate Call.keys Call.writableKeys calls := fun c hc d hd hne =>
    (hseparate c hc d hd hne).disjoint
  refine ⟨?_, fun team => ⟨?_, ?_⟩⟩
  · have hsame := Streams.run_eq_of_streams (s := L) (confined_applyCall rt) happart hteams
    rwa [Streams.run_tagged, Streams.run_tagged] at hsame
  · exact Streams.outcomes_eq (confined_applyCall rt) happart (fun _ => ran_congr) team
  · intro call hcall info hinfo
    have halone := Streams.run_eqOn_territory (s := L) (confined_applyCall rt) happart team
      ⟨call, hcall, info, hinfo, rfl⟩
    rwa [Streams.run_tagged] at halone

end Teams

/-- Two wallets set up a pool each, and the first one opens a round. -/
def demoTeams : List (Bool × Call demoRuntime) :=
  [(true, demoInitialize), (false, demoInitializeOther), (true, demoOpen)]

/-- The second wallet comes first. -/
def demoTeamsReordered : List (Bool × Call demoRuntime) :=
  [(false, demoInitializeOther), (true, demoInitialize), (true, demoOpen)]

theorem separate_teams_demo :
    ledgerAfterAll demoRuntime demoLedger demoTeams =
        ledgerAfterAll demoRuntime demoLedger demoTeamsReordered ∧
      ranFor demoRuntime demoLedger true demoTeams =
        (history demoRuntime demoLedger [demoInitialize, demoOpen]).map ran ∧
      (history demoRuntime demoLedger [demoInitialize, demoOpen]).map ran =
        [some (.initializePool (demoKey 1) (demoKey 50) 2 10 5 50 20 .transparentRegistry 255),
          some (.openRound 0 100 (demoKey 50) 255)] := by
  have hseparate : SeparateTeams demoTeams := by decide
  have hstreams (team : Bool) : callsOf team demoTeams = callsOf team demoTeamsReordered := by
    cases team <;> rfl
  have hteams := separate_teams demoLedger hseparate hstreams
  exact ⟨hteams.1, (hteams.2 true).1, by decide +kernel⟩

end MirrorPool
