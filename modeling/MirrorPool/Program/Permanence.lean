import MirrorPool.Program.Lamports
import MirrorPool.Program.PoolBytes
import MirrorPool.Program.Registration

/-!
# What stays for good

No instruction deletes an account.  A participant record stays as it was written
by its registration, a round that was closed is not opened again, and the
authority of a pool is the signer who created it until the account is closed.

Main results:

- Theorem {lit}`records_permanent`: a record exists exactly for the keys that
  were registered, and neither its bytes nor its balance change.
- Theorem {lit}`opened_once`: no round number of a pool is used twice, and a
  closed round does not come back.
- Theorem {lit}`authority_permanent`: the authority and the minimum of a pool do
  not change hands.
-/

namespace MirrorPool

variable {rt : Runtime} {L : Ledger} {calls : List (Call rt)} {v : CallVisit rt} {a : Pubkey}

/-! ## Participant records -/

/-- A record is too short to be read as a pool or as a round, its version byte
bars it from allocation, and nobody signs for it. -/
theorem AccountStep.record_same {call : Call rt} {instruction : CoordinationInstruction}
    {account : Account} {round : Pubkey} {key : Bytes32} {bump : UInt8}
    (hstep : AccountStep rt L call a instruction account) (hconsistent : Consistent rt L)
    (hderived : rt.createProgramAddress (Runtime.participantSeeds round key bump) rt.programId =
      some a)
    (howned : (L a).owner = rt.programId) : account = L a := by
  have hkind := hconsistent a howned
  obtain ⟨hsize, hwritten⟩ := hkind.record_written hderived
  cases hstep with
  | same => rfl
  | wallet _ signed => exact absurd signed (not_signedBy_of_isDerived hkind.isDerived)
  | initialized _ _ _ derived => exact (Runtime.participant_ne_pool hderived derived).elim
  | opened _ _ _ _ _ _ _ derived => exact (Runtime.participant_ne_round hderived derived).elim
  | counted passed =>
      have hfits := PoolAccount.codec.width_le_of_read passed.read
      exact absurd (hsize ▸ hfits) (by decide)
  | recorded _ _ _ _ allocated => exact (allocated.not_of_head? howned hwritten).elim
  | edited _ round_at =>
      have hfits := RoundAccount.codec.width_le_of_read round_at.read
      exact absurd (hsize ▸ hfits) (by decide)
  | closed _ _ _ round_at =>
      have hfits := RoundAccount.codec.width_le_of_read round_at.read
      exact absurd (hsize ▸ hfits) (by decide)

/-- A record address is taken by the registration of its round and its key. -/
theorem registers_of_taken {round : Pubkey} {key : Bytes32} {bump : UInt8}
    (hv : v ∈ history rt L calls)
    (hderived : rt.createProgramAddress (Runtime.participantSeeds round key bump) rt.programId =
      some a)
    (hfree : (v.before a).owner ≠ rt.programId) (htaken : (v.after a).owner = rt.programId) :
    Succeeded v (.registerTransparent key bump) ∧ keyAt v.input.accounts 2 = some round := by
  rcases succeeded_or_unchanged hv with ⟨instruction, hok⟩ | ⟨hsame, -⟩
  · have hstep := accountStep_of_execute hok a
    generalize v.after a = account at hstep htaken
    cases hstep with
    | same => exact absurd htaken hfree
    | wallet => exact absurd htaken hfree
    | initialized _ _ _ derived => exact (Runtime.participant_ne_pool hderived derived).elim
    | opened _ _ _ _ _ _ _ derived =>
        exact (Runtime.participant_ne_round hderived derived).elim
    | counted passed => exact absurd passed.owned hfree
    | recorded position _ _ derived =>
        obtain ⟨rfl, rfl, rfl⟩ := Runtime.participantSeeds_inj hderived derived
        exact ⟨hok, position⟩
    | edited _ round_at => exact absurd round_at.owned hfree
    | closed _ _ _ round_at => exact absurd round_at.owned hfree
  · rw [hsame] at htaken
    exact absurd htaken hfree

/-- An existing record is the same account at the end of every run. -/
theorem record_run {round : Pubkey} {key : Bytes32} {bump : UInt8}
    (hconsistent : Consistent rt L)
    (hderived : rt.createProgramAddress (Runtime.participantSeeds round key bump) rt.programId =
      some a)
    (howned : (L a).owner = rt.programId) (calls : List (Call rt)) :
    ledgerAfter rt L calls a = L a := by
  refine ((Runs.run_invariant (fun L' : Ledger => Consistent rt L' ∧ L' a = L a)
    ⟨hconsistent, rfl⟩ fun v hv hbefore => ⟨consistent_step hv hbefore.1, ?_⟩).1).2
  rcases succeeded_or_unchanged hv with ⟨instruction, hok⟩ | ⟨hsame, -⟩
  · rw [(accountStep_of_execute hok a).record_same hbefore.1 hderived (hbefore.2 ▸ howned)]
    exact hbefore.2
  · rw [hsame]
    exact hbefore.2

/-- An existing record names its round, its key and its bump. -/
theorem record_content (hgenesis : Genesis rt L) {round : Pubkey} {key : Bytes32} {bump : UInt8}
    (hderived : rt.createProgramAddress (Runtime.participantSeeds round key bump) rt.programId =
      some a)
    (howned : (ledgerAfter rt L calls a).owner = rt.programId) :
    (∃ v ∈ history rt L calls, Succeeded v (.registerTransparent key bump) ∧
        keyAt v.input.accounts 2 = some round) ∧
      RecordAt rt (ledgerAfter rt L calls) a
        { version := 1, bump, round, coordinationKey := key } := by
  rcases Runs.exists_visit_turning (fun L' : Ledger => (L' a).owner = rt.programId) (hgenesis a)
    howned with ⟨v, hv, hfree, htaken⟩
  have hregisters := registers_of_taken hv hderived hfree htaken
  refine ⟨⟨v, hv, hregisters⟩, ?_⟩
  have hconsistent := (consistent_of_genesis hgenesis calls).2 v hv
  rcases registration_creates_record hconsistent.1 hregisters.1 hregisters.2 with
    ⟨record, -, hrecord, -, hcontent⟩
  rcases Option.some.inj (hrecord.symm.trans hderived) with rfl
  -- nothing changes the record after the visit that wrote it
  rcases Runs.mem_visits.mp hv with ⟨earlier, later, hcalls, hbefore, hafter⟩
  have hend : ledgerAfter rt L calls = ledgerAfter rt v.after later := by
    rw [hcalls, ledgerAfter, Runs.run_append, Runs.run_cons, ← hbefore, ← hafter]
  have hsame := record_run hconsistent.2 hderived htaken later
  rw [hend]
  exact
    { owned := by rw [hsame]; exact hcontent.owned
      read := by rw [hsame]; exact hcontent.read }

/-- A record exists exactly if its key was registered for its round under its
bump, it says so, and no later call changes, removes or drains it. -/
theorem records_permanent (hgenesis : Genesis rt L) {round : Pubkey} {key : Bytes32}
    {bump : UInt8}
    (hderived : rt.createProgramAddress (Runtime.participantSeeds round key bump) rt.programId =
      some a) (calls : List (Call rt)) :
    ((ledgerAfter rt L calls a).owner = rt.programId ↔
        ∃ v ∈ history rt L calls, Succeeded v (.registerTransparent key bump) ∧
          keyAt v.input.accounts 2 = some round) ∧
      ((ledgerAfter rt L calls a).owner = rt.programId →
        RecordAt rt (ledgerAfter rt L calls) a
            { version := 1, bump, round, coordinationKey := key } ∧
          ∀ later, ledgerAfter rt L (calls ++ later) a = ledgerAfter rt L calls a) := by
  have hconsistent := consistent_of_genesis hgenesis calls
  refine ⟨⟨fun howned => (record_content hgenesis hderived howned).1, ?_⟩, fun howned => ?_⟩
  · rintro ⟨v, hv, hok, hround⟩
    rcases registration_creates_record (hconsistent.2 v hv).1 hok hround with
      ⟨record, -, hrecord, -, hcontent⟩
    rcases Option.some.inj (hrecord.symm.trans hderived) with rfl
    rcases Runs.mem_visits.mp hv with ⟨earlier, later, hcalls, hbefore, hafter⟩
    have hend : ledgerAfter rt L calls = ledgerAfter rt v.after later := by
      rw [hcalls, ledgerAfter, Runs.run_append, Runs.run_cons, ← hbefore, ← hafter]
    rw [hend, record_run (hconsistent.2 v hv).2 hderived hcontent.owned]
    exact hcontent.owned
  · refine ⟨(record_content hgenesis hderived howned).2, fun later => ?_⟩
    rw [ledgerAfter_append]
    exact record_run hconsistent.1 hderived howned later

theorem records_permanent_demo :
    ((ledgerAfter demoRuntime demoLedger [demoInitialize, demoOpen, demoRegister]
        (demoKey 31)).owner = demoRuntime.programId ↔
      ∃ v ∈ history demoRuntime demoLedger [demoInitialize, demoOpen, demoRegister],
        Succeeded v (.registerTransparent (demoKey 61) 255) ∧
          keyAt v.input.accounts 2 = some (demoKey 21)) ∧
    ((ledgerAfter demoRuntime demoLedger [demoInitialize, demoOpen, demoRegister]
        (demoKey 31)).owner = demoRuntime.programId →
      RecordAt demoRuntime
          (ledgerAfter demoRuntime demoLedger [demoInitialize, demoOpen, demoRegister])
          (demoKey 31)
          { version := 1, bump := 255, round := demoKey 21, coordinationKey := demoKey 61 } ∧
        ∀ later, ledgerAfter demoRuntime demoLedger
            ([demoInitialize, demoOpen, demoRegister] ++ later) (demoKey 31) =
          ledgerAfter demoRuntime demoLedger [demoInitialize, demoOpen, demoRegister]
            (demoKey 31)) :=
  records_permanent demoLedger_genesis (by decide +kernel) [demoInitialize, demoOpen, demoRegister]

/-! ## Round numbers -/

/-- The version byte of an emptied account is zero. -/
theorem version_of_zeros {n : Nat} {round : RoundAccount}
    (hread : RoundAccount.codec.read (List.replicate n 0) = some round) : round.version ≠ 1 := by
  intro hversion
  rcases RoundAccount.codec.read_eq_some.mp hread with ⟨rest, hzero⟩
  have hhead := round.head?_encode rest
  rw [← hzero, hversion] at hhead
  exact absurd (List.eq_of_mem_replicate (List.mem_of_head? hhead)) (by decide)

/-- A closed round is not live. -/
theorem Closes.not_live (hcloses : Closes v a) (round : RoundAccount) :
    ¬LiveRound rt v.after a round := by
  intro hlive
  have hread := hlive.read
  have hstep := accountStep_of_execute hcloses.1 a
  have hwrites : 2 ∈ CoordinationInstruction.closeRound.writes := List.mem_singleton_self 2
  generalize v.after a = account at hstep hread
  cases hstep with
  | same untouched => exact absurd hcloses.2 (untouched 2 hwrites)
  | wallet untouched => exact absurd hcloses.2 (untouched 2 hwrites)
  | edited _ _ step => cases step
  | closed => exact version_of_zeros hread hlive.version

/-- A round comes to life where it is opened. -/
theorem opens_of_live {round : RoundAccount} (hv : v ∈ history rt L calls)
    (hlive : LiveRound rt v.after a round)
    (hbefore : ∀ earlier, ¬LiveRound rt v.before a earlier) : Opens v a := by
  rcases succeeded_or_unchanged hv with ⟨instruction, hok⟩ | ⟨hsame, -⟩
  · have hstep := accountStep_of_execute hok a
    have howned := hlive.owned
    have hread := hlive.read
    generalize v.after a = account at hstep howned hread
    cases hstep with
    | same => exact absurd { hlive with owned := howned, read := hread } (hbefore round)
    | wallet => exact absurd { hlive with owned := howned, read := hread } (hbefore round)
    | initialized _ _ _ derived => exact (Runtime.pool_ne_round derived hlive.derived).elim
    | opened _ position => exact ⟨_, _, _, _, hok, position⟩
    | counted passed _ signed =>
        -- a pool that reads as a round has the pool of that round as authority
        obtain ⟨-, hkey⟩ := pool_authority_eq_round_pool Account.read_store hread
        rw [show _ = round.pool from hkey] at signed
        exact absurd signed (not_signedBy_of_isDerived hlive.pool_derived)
    | recorded _ _ _ derived => exact (Runtime.participant_ne_round derived hlive.derived).elim
    | @edited _ earlier later _ round_at step =>
        rcases Option.some.inj (Account.read_store.symm.trans hread) with rfl
        obtain ⟨hversion, hidentity⟩ := step.identity
        simp only [RoundAccount.identity, Prod.mk.injEq] at hidentity
        obtain ⟨hpool, hid, hbump, -, -⟩ := hidentity
        refine absurd ?_ (hbefore earlier)
        exact
          { round_at with
            version := hversion ▸ hlive.version
            derived := by rw [← hpool, ← hid, ← hbump]; exact hlive.derived
            pool_derived := hpool ▸ hlive.pool_derived }
    | closed => exact absurd hlive.version (version_of_zeros hread)
  · rw [hsame] at hlive
    exact absurd hlive (hbefore round)

/-- An opened round carries the number that the call counts up. -/
theorem Opens.roundOpened {pool : Pubkey} {id : UInt64} {bump : UInt8}
    (hv : v ∈ history rt L calls) (hopens : Opens v a)
    (hderived : rt.createProgramAddress (Runtime.roundSeeds pool id bump) rt.programId = some a) :
    roundOpened pool v = some id := by
  rcases hopens with ⟨roundId, deadline, template, bump', hok, hposition⟩
  have hstep := accountStep_of_execute hok a
  have hwrites : 2 ∈ (CoordinationInstruction.openRound roundId deadline template bump').writes :=
    List.mem_cons_of_mem _ List.mem_cons_self
  generalize v.after a = account at hstep
  cases hstep with
  | same untouched => exact absurd hposition (untouched 2 hwrites)
  | wallet untouched => exact absurd hposition (untouched 2 hwrites)
  | opened passed _ _ _ _ _ _ derived =>
      obtain ⟨rfl, rfl, -⟩ := Runtime.roundSeeds_inj hderived derived
      rw [MirrorPool.roundOpened, (ran_eq_some hv).mpr hok]
      exact if_pos passed.position
  | counted _ position => exact absurd hposition position
  | edited _ _ step => cases step

/-- The pool at the address is past a number. -/
def Past (rt : Runtime) (L : Ledger) (poolKey : Pubkey) (id : UInt64) : Prop :=
  ∃ pool, LivePool rt L poolKey pool ∧ id < pool.nextRound

section Numbers

variable {poolKey : Pubkey} {id : UInt64}

/-- A pool that is past a number stays so. -/
theorem Past.visit (hv : v ∈ history rt L calls) (hpast : Past rt v.before poolKey id)
    (hplace : ¬TakenForRound rt v.before v.input poolKey) : Past rt v.after poolKey id := by
  rcases hpast with ⟨pool, hlive, hid⟩
  rcases hlive.visit hv hplace with ⟨next, hnext, hvisit⟩
  refine ⟨_, hnext, ?_⟩
  cases hvisit with
  | kept => exact hid
  | counted _ _ next_eq =>
      rw [UInt64.lt_iff_toNat_lt] at hid ⊢
      exact hid.trans (by rw [next_eq]; exact Nat.lt_succ_self _)

/-- A round is opened on a live pool with the number of its counter. -/
theorem livePool_of_roundOpened (hv : v ∈ history rt L calls)
    (hconsistent : Consistent rt v.before) (hsound : SoundLedger rt v.before)
    (hsystem : ¬SignedBy v.input.accounts systemProgramId)
    (hopened : roundOpened poolKey v = some id) :
    ∃ pool, LivePool rt v.before poolKey pool ∧ pool.nextRound = id := by
  unfold roundOpened at hopened
  split at hopened
  · rename_i roundId deadline template bump hran
    rw [Option.ite_none_right_eq_some, Option.some.injEq] at hopened
    obtain ⟨hposition, rfl⟩ := hopened
    have hok := (ran_eq_some hv).mp hran
    rcases execute_eq_ok.mp hok.executed with ⟨⟨instruction, hdecoded, hdispatch⟩, -⟩
    rcases Option.some.inj (hdecoded.symm.trans hok.decoded) with rfl
    obtain ⟨authority, poolInfo, roundInfo, systemInfo, pool, nextRound, L₁, hauthority, hpool,
      hround, -, hsigned, howned, hread, hkey, -, hnext, -⟩ := openRound_eq_ok.mp hdispatch
    rcases Option.some.inj ((keyAt_of_getElem? hpool).symm.trans hposition) with rfl
    have hpassed : PassedPool rt v.before v.input poolInfo.key pool :=
      { owned := howned, read := hread, position := keyAt_of_getElem? hpool }
    have hby : SignedBy v.input.accounts pool.authority :=
      hkey ▸ signedBy_of_getElem? hauthority hsigned
    exact ⟨pool, (hpassed.live_of_sound hconsistent hsound hby hsystem).1, hnext⟩
  · contradiction

/-- Opening a round takes the pool past its number. -/
theorem past_of_roundOpened (hv : v ∈ history rt L calls)
    (hconsistent : Consistent rt v.before) (hsound : SoundLedger rt v.before)
    (hsystem : ¬SignedBy v.input.accounts systemProgramId)
    (hplace : ¬TakenForRound rt v.before v.input poolKey)
    (hopened : roundOpened poolKey v = some id) :
    ¬Past rt v.before poolKey id ∧ Past rt v.after poolKey id := by
  rcases livePool_of_roundOpened hv hconsistent hsound hsystem hopened with ⟨pool, hlive, rfl⟩
  refine ⟨?_, ?_⟩
  · rintro ⟨pool', hlive', hid⟩
    rcases hlive.toPoolAt.unique hlive'.toPoolAt with rfl
    exact absurd hid (UInt64.lt_irrefl _)
  · rcases hlive.visit hv hplace with ⟨next, hnext, hvisit⟩
    refine ⟨_, hnext, ?_⟩
    cases hvisit with
    | kept _ idle => exact nomatch idle.symm.trans hopened
    | counted _ _ next_eq =>
        rw [UInt64.lt_iff_toNat_lt, next_eq]
        exact Nat.lt_succ_self _

/-- The bytes are sound before every call of a run. -/
theorem sound_before (hgenesis : Genesis rt L) (hv : v ∈ history rt L calls) :
    SoundLedger rt v.before := by
  rcases Runs.mem_visits.mp hv with ⟨earlier, -, -, hbefore, -⟩
  rw [hbefore]
  exact sound_of_genesis hgenesis earlier

/-- A run opens a round under each number of a pool at most once. -/
theorem countP_roundOpened_le_one (hgenesis : Genesis rt L)
    (hsystem : ∀ v ∈ history rt L calls, ¬SignedBy v.input.accounts systemProgramId)
    (hplace : ∀ v ∈ history rt L calls, ¬TakenForRound rt v.before v.input poolKey) :
    (history rt L calls).countP (fun v => roundOpened poolKey v = some id) ≤ 1 := by
  refine Runs.countP_visits_le_one (fun L' => ¬Past rt L' poolKey id) (fun v hv hfires => ?_)
    fun v hv hpast => ?_
  · rcases past_of_roundOpened hv ((consistent_of_genesis hgenesis calls).2 v hv).1
      (sound_before hgenesis hv) (hsystem v hv) (hplace v hv) (of_decide_eq_true hfires) with
      ⟨hbefore, hafter⟩
    exact ⟨hbefore, not_not.mpr hafter⟩
  · rw [not_not] at hpast ⊢
    exact hpast.visit hv (hplace v hv)

/-- A round that is live at the end of a part of a run but not at its start is
opened in it. -/
theorem exists_opening {bump : UInt8} {round : RoundAccount}
    (hderived : rt.createProgramAddress (Runtime.roundSeeds poolKey id bump) rt.programId = some a)
    (hstart : ∀ earlier, ¬LiveRound rt L a earlier)
    (hlive : LiveRound rt (ledgerAfter rt L calls) a round) :
    0 < (history rt L calls).countP (fun v => roundOpened poolKey v = some id) := by
  rcases Runs.exists_visit_turning (fun L' => ∃ round, LiveRound rt L' a round)
    (not_exists.mpr hstart) ⟨round, hlive⟩ with ⟨v, hv, hbefore, ⟨later, hlater⟩⟩
  have hopens := opens_of_live hv hlater (not_exists.mp hbefore)
  exact List.countP_pos_iff.mpr ⟨v, hv, decide_eq_true (hopens.roundOpened hv hderived)⟩

end Numbers

/-- As long as a pool is not taken for a round, and the System Program never
signs, none of its round numbers is used twice, under whichever bump, and a round
that was closed is never live again. -/
theorem opened_once (hgenesis : Genesis rt L) (poolKey : Pubkey) (id : UInt64)
    (hsystem : ∀ v ∈ history rt L calls, ¬SignedBy v.input.accounts systemProgramId)
    (hplace : ∀ v ∈ history rt L calls, ¬TakenForRound rt v.before v.input poolKey) :
    (history rt L calls).countP (fun v => roundOpened poolKey v = some id) ≤ 1 ∧
      ∀ a bump before closing life,
        rt.createProgramAddress (Runtime.roundSeeds poolKey id bump) rt.programId = some a →
        calls = before ++ closing :: life →
        (∃ round, LiveRound rt (ledgerAfter rt L before) a round) →
        Closes (callVisit rt (ledgerAfter rt L before) closing) a →
        ∀ round, ¬LiveRound rt (ledgerAfter rt L calls) a round := by
  have honce : (history rt L calls).countP (fun v => roundOpened poolKey v = some id) ≤ 1 :=
    countP_roundOpened_le_one hgenesis hsystem hplace
  refine ⟨honce, ?_⟩
  rintro a bump before closing life hderived rfl ⟨opened, hopened⟩ hcloses round hround
  have hgone := hcloses.not_live
  rw [← ledgerAfter_concat] at hgone
  rw [ledgerAfter_append_cons] at hround
  have hfirst := exists_opening hderived (fun _ h => hgenesis a h.owned) hopened
  have hsecond := exists_opening hderived hgone hround
  -- the number is used once before the round is closed and once after that
  have hsplit : history rt L (before ++ [closing]) =
      history rt L before ++ history rt (ledgerAfter rt L before) [closing] :=
    Runs.visits_append ..
  rw [history_append_cons, hsplit, List.countP_append, List.countP_append] at honce
  omega

/-- A round is opened, cancelled and closed, and its opening is sent again. -/
def demoReopening : List (Call demoRuntime) :=
  [demoInitialize, demoOpen, demoCancel, demoClosing, demoOpen]

theorem opened_once_demo :
    (history demoRuntime demoLedger demoReopening).countP
        (fun v => roundOpened (demoKey 11) v = some 0) ≤ 1 ∧
      ∀ a bump before closing life,
        demoRuntime.createProgramAddress (Runtime.roundSeeds (demoKey 11) 0 bump)
          demoRuntime.programId = some a →
        demoReopening = before ++ closing :: life →
        (∃ round, LiveRound demoRuntime (ledgerAfter demoRuntime demoLedger before) a round) →
        Closes (callVisit demoRuntime (ledgerAfter demoRuntime demoLedger before) closing) a →
        ∀ round,
          ¬LiveRound demoRuntime (ledgerAfter demoRuntime demoLedger demoReopening) a round := by
  have hsystem : ∀ v ∈ history demoRuntime demoLedger demoReopening,
      ¬SignedBy v.input.accounts systemProgramId := by
    simp only [demoReopening, forall_mem_history_cons]
    exact ⟨by decide, by decide, by decide, by decide, by decide, by simp⟩
  refine opened_once demoLedger_genesis (demoKey 11) 0 hsystem ?_
  simp only [demoReopening, forall_mem_history_cons]
  exact ⟨not_takenForRound_tableCall (by decide), not_takenForRound_tableCall (by decide),
    not_takenForRound_tableCall (by decide), not_takenForRound_tableCall (by decide),
    not_takenForRound_tableCall (by decide), by simp⟩

/-! ## The authority of a pool -/

/-- What stays of a pool that was created for an authority until its account is
closed, also when it is taken for a round. -/
structure PoolHeader (rt : Runtime) (L : Ledger) (a authority : Pubkey) (minimum : UInt32) :
    Prop where
  derived : rt.IsPoolAddress a
  undelegated : ¬rt.IsDerived authority
  owned : (L a).owner = rt.programId
  version : (L a).data.head? = some 1
  key : headerKey (L a).data = authority.toList
  minimum_eq : minimumBytes (L a).data = FixedCodec.leBytes 4 minimum.toNat

namespace PoolHeader

variable {authority : Pubkey} {minimum : UInt32}

/-- A pool that is read has the authority and the minimum of its header. -/
theorem read_eq (hheader : PoolHeader rt L a authority minimum) {pool : PoolAccount}
    (hpool : PoolAt rt L a pool) :
    pool.authority = authority ∧ pool.minParticipants = minimum := by
  have hkey := hheader.key
  have hminimum := hheader.minimum_eq
  rw [PoolAccount.headerKey_eq hpool.read] at hkey
  rw [PoolAccount.minimumBytes_eq hpool.read] at hminimum
  exact ⟨Vector.toList_inj.mp hkey,
    (FixedCodec.u32.encode_append_inj (congrArg (· ++ []) hminimum)).1⟩

/-- A successful call keeps the header of a pool or closes its account. -/
theorem step {call : Call rt} {instruction : CoordinationInstruction} {account : Account}
    (hheader : PoolHeader rt L a authority minimum) (hconsistent : Consistent rt L)
    (hstep : AccountStep rt L call a instruction account) :
    (account.owner = rt.programId ∧ account.data.head? = (L a).data.head? ∧
        headerKey account.data = headerKey (L a).data ∧
        minimumBytes account.data = minimumBytes (L a).data) ∨
      (instruction = .closeRound ∧ keyAt call.accounts 2 = some a) := by
  rcases hheader.derived with ⟨poolId, bump, hderived⟩
  cases hstep with
  | same => exact Or.inl ⟨hheader.owned, rfl, rfl, rfl⟩
  | wallet => exact Or.inl ⟨hheader.owned, rfl, rfl, rfl⟩
  | initialized _ _ _ _ allocated =>
      exact (allocated.not_of_head? hheader.owned hheader.version).elim
  | opened _ _ _ _ _ _ _ derived => exact (Runtime.pool_ne_round hderived derived).elim
  | counted passed =>
      refine Or.inl ⟨hheader.owned, passed.head?.symm, ?_, ?_⟩
      · rw [PoolAccount.headerKey_eq passed.read, PoolAccount.headerKey_eq Account.read_store]
      · rw [PoolAccount.minimumBytes_eq passed.read,
          PoolAccount.minimumBytes_eq Account.read_store]
  | recorded _ _ _ derived => exact (Runtime.participant_ne_pool derived hderived).elim
  | @edited _ round round' _ round_at step =>
      have hkey : headerKey ((L a).store RoundAccount.codec round').data =
          headerKey (L a).data := by
        rw [RoundAccount.headerKey_eq round_at.read, RoundAccount.headerKey_eq Account.read_store,
          step.pool_eq]
      have hhead : ((L a).store RoundAccount.codec round').data.head? = (L a).data.head? := by
        rw [round_at.head?, ← step.identity.1]
        rfl
      refine Or.inl ⟨hheader.owned, hhead, hkey, ?_⟩
      rw [RoundAccount.minimumBytes_eq round_at.read,
        RoundAccount.minimumBytes_eq Account.read_store]
      -- a new root needs the pool of the round, which would be the authority
      by_contra hchange
      rcases step.passed_of_root fun hroot => hchange (by rw [hroot]) with ⟨pool, hpassed⟩
      have hsame := RoundAccount.headerKey_eq round_at.read
      rw [hheader.key] at hsame
      rw [← Vector.toList_inj.mp hsame] at hpassed
      exact hheader.undelegated (hconsistent _ hpassed.owned).isDerived
  | closed _ position => exact Or.inr ⟨rfl, position⟩

/-- A call that does not close the account keeps the header. -/
theorem visit (hv : v ∈ history rt L calls) (hheader : PoolHeader rt v.before a authority minimum)
    (hconsistent : Consistent rt v.before) (hopen : ¬Closes v a) :
    PoolHeader rt v.after a authority minimum := by
  rcases succeeded_or_unchanged hv with ⟨instruction, hok⟩ | ⟨hsame, -⟩
  · rcases hheader.step hconsistent (accountStep_of_execute hok a) with
      ⟨howned, hhead, hkey, hminimum⟩ | ⟨rfl, hposition⟩
    · exact
        { derived := hheader.derived
          undelegated := hheader.undelegated
          owned := howned
          version := hhead.trans hheader.version
          key := hkey.trans hheader.key
          minimum_eq := hminimum.trans hheader.minimum_eq }
    · exact absurd ⟨hok, hposition⟩ hopen
  · rw [hsame]
    exact hheader

end PoolHeader

/-- The instructions that only the authority of the pool in position one may
call. -/
def CoordinationInstruction.NeedsAuthority : CoordinationInstruction → Prop
  | .initializePool .. => False
  | .registerTransparent .. => False
  | .beginExecutionWindow => False
  | _ => True

/-- Such an instruction runs through only with the signature of the authority
of its pool. -/
theorem Succeeds.authority_signed {call : Call rt} {instruction : CoordinationInstruction}
    {L' : Ledger} (hok : Succeeds rt L call instruction L')
    (hneeds : instruction.NeedsAuthority) :
    ∃ poolKey pool, PassedPool rt L call poolKey pool ∧
      SignedBy call.accounts pool.authority := by
  rcases execute_eq_ok.mp hok.executed with ⟨⟨decoded, hdecoded, hdispatch⟩, -⟩
  rcases Option.some.inj (hdecoded.symm.trans hok.decoded) with rfl
  have hadmin {admin : AdminAccounts} {pool : PoolAccount} {round : RoundAccount}
      (ctx : AdminContext rt L call.accounts admin pool round)
      (hkey : pool.authority = admin.authority.key) :
      ∃ poolKey pool, PassedPool rt L call poolKey pool ∧
        SignedBy call.accounts pool.authority := by
    refine ⟨admin.pool.key, pool, ?_, hkey ▸ signedBy_of_getElem? ctx.authority_at ctx.signed⟩
    exact
      { owned := ctx.pool_owned
        read := ctx.pool_read
        position := keyAt_of_getElem? ctx.pool_at }
  cases decoded with
  | initializePool => exact hneeds.elim
  | registerTransparent => exact hneeds.elim
  | beginExecutionWindow => exact hneeds.elim
  | openRound =>
      obtain ⟨authority, poolInfo, roundInfo, systemInfo, pool, nextRound, L₁, hauthority, hpool,
        hround, -, hsigned, howned, hread, hkey, -⟩ := openRound_eq_ok.mp hdispatch
      exact ⟨poolInfo.key, pool,
        { owned := howned, read := hread, position := keyAt_of_getElem? hpool },
        hkey ▸ signedBy_of_getElem? hauthority hsigned⟩
  | publishCohortRoot =>
      obtain ⟨admin, pool, round, ctx, ⟨-, -, -, -, -, -, -, hkey⟩, -⟩ :=
        publishRoot_eq_ok.mp hdispatch
      exact hadmin ctx hkey
  | sealRound =>
      obtain ⟨admin, pool, round, ctx, ⟨hkey, -⟩, -⟩ := sealRound_eq_ok.mp hdispatch
      exact hadmin ctx hkey
  | scheduleRelease =>
      obtain ⟨admin, pool, round, ctx, _, _, ⟨-, hkey, -⟩, -⟩ := schedule_eq_ok.mp hdispatch
      exact hadmin ctx hkey
  | finalizeRound =>
      obtain ⟨admin, pool, round, ctx, ⟨hkey, -⟩, -⟩ := finalize_eq_ok.mp hdispatch
      exact hadmin ctx hkey
  | cancelRound =>
      obtain ⟨admin, pool, round, ctx, ⟨hkey, -⟩, -⟩ := cancel_eq_ok.mp hdispatch
      exact hadmin ctx hkey
  | closeRound =>
      obtain ⟨admin, pool, round, ctx, _, ⟨hkey, -⟩, -⟩ := close_eq_ok.mp hdispatch
      exact hadmin ctx hkey

/-- A created pool has the header of the signer who created it. -/
theorem Initializes.header (hinit : Initializes v a) :
    ∃ pool, PoolAt rt v.after a pool ∧ SignedBy v.input.accounts pool.authority ∧
      PoolHeader rt v.after a pool.authority pool.minParticipants := by
  rcases hinit.live with ⟨pool, hlive, -, hsigned, -⟩
  refine ⟨pool, hlive.toPoolAt, hsigned, ?_⟩
  exact
    { derived := hlive.derived
      undelegated := fun hderived => not_signedBy_of_isDerived hderived hsigned
      owned := hlive.owned
      version := hlive.toPoolAt.head?.trans (congrArg some hlive.version)
      key := PoolAccount.headerKey_eq hlive.read
      minimum_eq := PoolAccount.minimumBytes_eq hlive.read }

/-- Until the account of a pool is closed, whoever created it stays its
authority: its key stays in the bytes of the account, also when these were
overwritten as a round, the pool is never read with another authority or another
minimum, and nothing that needs the authority runs through on it without that
signature. -/
theorem authority_permanent (hgenesis : Genesis rt L) (before life : List (Call rt))
    (creation : Call rt)
    (hinit : Initializes (callVisit rt (ledgerAfter rt L before) creation) a)
    (hopen : ∀ v ∈ history rt (ledgerAfter rt L (before ++ [creation])) life, ¬Closes v a) :
    ∃ pool, PoolAt rt (ledgerAfter rt L (before ++ [creation])) a pool ∧
      SignedBy creation.accounts pool.authority ∧
      ∀ v ∈ history rt (ledgerAfter rt L (before ++ [creation])) life,
        ((v.after a).owner = rt.programId ∧ headerKey (v.after a).data = pool.authority.toList) ∧
        (∀ later, PoolAt rt v.after a later → later.authority = pool.authority ∧
          later.minParticipants = pool.minParticipants) ∧
        ∀ instruction, Succeeded v instruction → instruction.NeedsAuthority →
          keyAt v.input.accounts 1 = some a → SignedBy v.input.accounts pool.authority := by
  rcases hinit.header with ⟨pool, hpool, hsigned, hheader⟩
  rw [← ledgerAfter_concat] at hpool hheader
  refine ⟨pool, hpool, hsigned, fun v hv => ?_⟩
  have hconsistent := (consistent_of_genesis hgenesis (before ++ [creation])).1
  have hmoments := (Runs.run_invariant
    (fun L' => Consistent rt L' ∧ PoolHeader rt L' a pool.authority pool.minParticipants)
    ⟨hconsistent, hheader⟩ fun v hv h =>
      ⟨consistent_step hv h.1, h.2.visit hv h.1 (hopen v hv)⟩).2 v hv
  refine ⟨⟨hmoments.2.2.owned, hmoments.2.2.key⟩, fun later hlater => hmoments.2.2.read_eq hlater,
    fun instruction hok hneeds hat => ?_⟩
  rcases hok.authority_signed hneeds with ⟨poolKey, passed, hpassed, hby⟩
  rcases Option.some.inj (hpassed.position.symm.trans hat) with rfl
  rw [← (hmoments.1.2.read_eq hpassed.toPoolAt).1]
  exact hby

theorem authority_permanent_demo :
    ∃ pool, PoolAt demoRuntime (ledgerAfter demoRuntime demoLedger [demoInitialize]) (demoKey 11)
        pool ∧
      SignedBy demoInitialize.accounts pool.authority ∧
      ∀ v ∈ history demoRuntime (ledgerAfter demoRuntime demoLedger [demoInitialize])
          [demoCancelPool, demoOpen],
        ((v.after (demoKey 11)).owner = demoRuntime.programId ∧
          headerKey (v.after (demoKey 11)).data = pool.authority.toList) ∧
        (∀ later, PoolAt demoRuntime v.after (demoKey 11) later →
          later.authority = pool.authority ∧ later.minParticipants = pool.minParticipants) ∧
        ∀ instruction, Succeeded v instruction → instruction.NeedsAuthority →
          keyAt v.input.accounts 1 = some (demoKey 11) →
          SignedBy v.input.accounts pool.authority := by
  have hvisits : ∀ v ∈ history demoRuntime
      (ledgerAfter demoRuntime demoLedger [demoInitialize]) [demoCancelPool, demoOpen],
      ran v ≠ some .closeRound := by
    decide +kernel
  exact authority_permanent demoLedger_genesis [] [demoCancelPool, demoOpen] demoInitialize
    demoInitialize_initializes fun v hv => not_closes_of_ran hv (hvisits v hv)

end MirrorPool
