import MirrorPool.Program.PoolBytes
import MirrorPool.Program.Registration

/-!
# Cohort counting

The participant count of a round is filled in two ways.  On a transparent
registry every registration adds one and leaves a record behind; on a Merkle
cohort one instruction publishes the count.  Either way the round waits below
the minimum of its pool and leaves {lit}`Registration` when the count reaches
it, as long as the policy stored at the pool stays what it was.

Main results:

- Structure {lit}`CountSound`: the count and the state of a round fit the bounds
  of its pool.
- Theorem {lit}`RoundStep.countSound`: every edit keeps that.
- Theorem {lit}`LiveRound.published`: the count of a Merkle cohort is published
  once.
- Theorem {lit}`LiveRound.cohortCount`: the count of a live round over a run.
- Theorem {lit}`cohort_counting`: what the count of a round is over every run.
-/

namespace MirrorPool

variable {rt : Runtime} {L L' : Ledger} {calls : List (Call rt)} {v : CallVisit rt} {a : Pubkey}

/-! ## The policy of a round -/

/-- What the address holds as a pool has the backend and the bounds of the given
pool. -/
def HasPolicy (rt : Runtime) (L : Ledger) (poolKey : Pubkey) (pool : PoolAccount) : Prop :=
  ∀ current, PoolAt rt L poolKey current →
    current.backend = pool.backend ∧ current.minParticipants = pool.minParticipants ∧
      current.maxParticipants = pool.maxParticipants

/-- The backend and the bounds stored at the pool of the round at an address
are the same in two ledgers. -/
def SamePolicy (rt : Runtime) (L L' : Ledger) (a : Pubkey) : Prop :=
  ∀ round pool, RoundAt rt L a round → PoolAt rt L round.pool pool →
    HasPolicy rt L' round.pool pool

/-- The count and the state of a round fit the bounds of a pool: the count is
below the minimum during registration, and it has reached the minimum ever
after, unless the round was cancelled. -/
structure CountSound (pool : PoolAccount) (round : RoundAccount) : Prop where
  waiting : round.state = .registration → round.acceptedCount < pool.minParticipants
  reached : round.state ≠ .registration → round.state ≠ .cancelled →
    pool.minParticipants ≤ round.acceptedCount
  within : round.acceptedCount ≤ pool.maxParticipants

section RoundStep

variable {call : Call rt} {instruction : CoordinationInstruction} {pool : PoolAccount}
variable {round round' : RoundAccount}

/-- An edit that keeps the count and does not start in registration keeps the
bounds. -/
theorem CountSound.of_count_eq (hsound : CountSound pool round)
    (hcount : round'.acceptedCount = round.acceptedCount)
    (hbefore : round.state ≠ .registration ∧ round.state ≠ .cancelled)
    (hafter : round'.state ≠ .registration) : CountSound pool round' where
  waiting h := absurd h hafter
  reached _ _ := by
    rw [hcount]
    exact hsound.reached hbefore.1 hbefore.2
  within := by
    rw [hcount]
    exact hsound.within

/-- A registration keeps the bounds. -/
theorem CountSound.registered {current : PoolAccount} {acceptedCount : UInt32}
    (hsound : CountSound pool round)
    (hmin : current.minParticipants = pool.minParticipants)
    (hroom : round.acceptedCount < pool.maxParticipants)
    (hcount : acceptedCount.toNat = round.acceptedCount.toNat + 1) :
    CountSound pool (round.registered current acceptedCount) := by
  have hmore : round.acceptedCount ≤ acceptedCount := by
    rw [UInt32.le_iff_toNat_le]
    omega
  have hwithin : acceptedCount ≤ pool.maxParticipants := by
    rw [UInt32.lt_iff_toNat_lt] at hroom
    rw [UInt32.le_iff_toNat_le]
    omega
  rw [RoundAccount.registered, hmin]
  by_cases hreached : pool.minParticipants ≤ acceptedCount
  · rw [if_pos hreached]
    refine ⟨fun h => ?_, fun _ _ => hreached, hwithin⟩
    contradiction
  · rw [if_neg hreached]
    refine ⟨fun _ => UInt32.not_le.mp hreached, fun hleft hlive => ?_, hwithin⟩
    exact absurd (UInt32.le_trans (hsound.reached hleft hlive) hmore) hreached

/-- Every edit keeps the bounds of the pool of the round. -/
theorem RoundStep.countSound (hpolicy : HasPolicy rt L round.pool pool)
    (hsound : CountSound pool round) (hstep : RoundStep rt L call instruction round round') :
    CountSound pool round' := by
  cases hstep with
  | registered passed _ own _ _ room count =>
      rcases hpolicy _ (own ▸ passed.toPoolAt) with ⟨-, hmin, hmax⟩
      exact hsound.registered hmin (hmax ▸ room) count
  | published passed _ _ own _ min max =>
      rcases hpolicy _ (own ▸ passed.toPoolAt) with ⟨-, hmin, hmax⟩
      exact ⟨nofun, fun _ _ => hmin ▸ min, hmax ▸ max⟩
  | sealed _ _ _ state => exact hsound.of_count_eq rfl (by rw [state]; exact ⟨nofun, nofun⟩) nofun
  | scheduled _ _ state =>
      exact hsound.of_count_eq rfl (by rw [state]; exact ⟨nofun, nofun⟩) nofun
  | begun state => exact hsound.of_count_eq rfl (by rw [state]; exact ⟨nofun, nofun⟩) nofun
  | finalized _ _ state =>
      exact hsound.of_count_eq rfl (by rw [state]; exact ⟨nofun, nofun⟩) nofun
  | cancelled => exact ⟨nofun, fun _ h => absurd rfl h, hsound.within⟩

/-- An edit that leaves a round cancelled keeps its count. -/
theorem RoundStep.count_of_cancelled (hstep : RoundStep rt L call instruction round round')
    (hcancelled : round'.state = .cancelled) : round'.acceptedCount = round.acceptedCount := by
  cases hstep with
  | registered _ _ _ state =>
      rw [RoundAccount.registered] at hcancelled
      split at hcancelled
      · contradiction
      · rw [show round.state = .cancelled from hcancelled] at state
        exact absurd state (by decide)
  | published => contradiction
  | _ => rfl

/-- An edit leaves registration, other than by cancellation, if and only if the
count reaches the minimum with it. -/
theorem RoundStep.leaves_iff (hbefore : CountSound pool round) (hafter : CountSound pool round')
    (hstep : RoundStep rt L call instruction round round') :
    (round.state = .registration ∧ round'.state ≠ .registration ∧ round'.state ≠ .cancelled) ↔
      (round.acceptedCount < pool.minParticipants ∧
        pool.minParticipants ≤ round'.acceptedCount) := by
  constructor
  · rintro ⟨hwaiting, hleft, hlive⟩
    exact ⟨hbefore.waiting hwaiting, hafter.reached hleft hlive⟩
  · rintro ⟨hbelow, hreached⟩
    refine ⟨?_, fun hwaiting => ?_, fun hcancelled => ?_⟩
    · by_contra hleft
      have hlive : round.state ≠ .cancelled := by
        intro hcancelled
        exact hstep.not_terminal (Or.inr (Or.inl hcancelled))
      exact absurd (hbefore.reached hleft hlive) (UInt32.not_le.mpr hbelow)
    · exact absurd hreached (UInt32.not_le.mpr (hafter.waiting hwaiting))
    · rw [hstep.count_of_cancelled hcancelled] at hreached
      exact absurd hreached (UInt32.not_le.mpr hbelow)

end RoundStep

/-! ## The published count -/

/-- The count that the call publishes for the round at the address, if it
publishes one. -/
def publishedCount (a : Pubkey) (v : CallVisit rt) : Option UInt32 :=
  match ranOn v a with
  | some (.publishCohortRoot _ count) => some count
  | _ => none

/-- The pool of the round at the address has the Merkle backend. -/
def MerkleRound (rt : Runtime) (L : Ledger) (a : Pubkey) : Prop :=
  ∀ round pool, RoundAt rt L a round → PoolAt rt L round.pool pool →
    pool.backend = .merkleCohort

/-- On a Merkle cohort the count is published at the end of registration and is
not changed otherwise. -/
theorem RoundStep.count_of_merkle {call : Call rt} {instruction : CoordinationInstruction}
    {round round' : RoundAccount} (hround : RoundAt rt L a round)
    (hmerkle : MerkleRound rt L a) (hstep : RoundStep rt L call instruction round round') :
    (∃ root, instruction = .publishCohortRoot root round'.acceptedCount ∧
        round.state = .registration ∧ round'.state ≠ .registration) ∨
      ((∀ root count, instruction ≠ .publishCohortRoot root count) ∧
        round'.acceptedCount = round.acceptedCount) := by
  cases hstep with
  | registered passed backend own =>
      have hbackend := hmerkle round _ hround (own ▸ passed.toPoolAt)
      exact nomatch backend.symm.trans hbackend
  | published _ _ _ _ state => exact Or.inl ⟨_, rfl, state, nofun⟩
  | _ => exact Or.inr ⟨nofun, rfl⟩

/-- A later round in registration was in registration before. -/
theorem RoundAccount.Later.registration {round round' : RoundAccount}
    (hlater : round.Later round') (hstate : round'.state = .registration) :
    round.state = .registration := by
  have hrank := hlater.rank_le
  rw [hstate] at hrank
  revert hrank
  cases round.state <;> decide

/-- The count of a Merkle cohort is kept until it is published, and it is
published once. -/
theorem LiveRound.published {opened : RoundAccount} {life : List (Call rt)}
    (hlive : LiveRound rt L a opened) (hopen : ∀ v ∈ history rt L life, ¬Closes v a)
    (hmerkle : ∀ v ∈ history rt L life, MerkleRound rt v.before a) :
    ∃ last, LiveRound rt (ledgerAfter rt L life) a last ∧
      ((history rt L life).filterMap (publishedCount a) = [] ∧
          last.acceptedCount = opened.acceptedCount ∨
        (history rt L life).filterMap (publishedCount a) = [last.acceptedCount] ∧
          opened.state = .registration) := by
  induction life generalizing L opened with
  | nil => exact ⟨opened, hlive, Or.inl ⟨rfl, rfl⟩⟩
  | cons call life ih =>
      rw [forall_mem_history_cons] at hopen hmerkle
      have hmem := callVisit_mem_history rt L call
      rcases hlive.visit hmem hopen.1 with ⟨next, hnext, hvisit⟩
      rcases ih hnext hopen.2 hmerkle.2 with ⟨last, hlast, hlater⟩
      refine ⟨last, hlast, ?_⟩
      have hkept (hnone : publishedCount a (callVisit rt L call) = none)
          (hcount : next.acceptedCount = opened.acceptedCount) :
          (history rt L (call :: life)).filterMap (publishedCount a) = [] ∧
              last.acceptedCount = opened.acceptedCount ∨
            (history rt L (call :: life)).filterMap (publishedCount a) = [last.acceptedCount] ∧
              opened.state = .registration := by
        rw [history_cons, List.filterMap_cons_none hnone, ← hcount]
        exact hlater.imp_right (And.imp_right hvisit.later.registration)
      rcases hvisit.step hmem with ⟨-, rfl, hran⟩ | ⟨instruction, hran, hstep⟩
      · exact hkept (by rw [publishedCount, hran]) rfl
      · rcases hstep.count_of_merkle hlive.toRoundAt hmerkle.1 with
          ⟨root, rfl, hstate, hleft⟩ | ⟨hother, hcount⟩
        · have hsome : publishedCount a (callVisit rt L call) = some next.acceptedCount := by
            rw [publishedCount, hran]
          rcases hlater with ⟨hnever, hcount⟩ | ⟨-, hwaiting⟩
          · refine Or.inr ⟨?_, hstate⟩
            rw [history_cons, List.filterMap_cons_some hsome, hnever, hcount]
          · exact absurd hwaiting hleft
        · refine hkept ?_ hcount
          rw [publishedCount, hran]
          cases instruction with
          | publishCohortRoot root count => exact absurd rfl (hother root count)
          | _ => rfl

/-! ## The opening -/

/-- An opened round starts at zero below the minimum of its pool, which stays
readable with a raised round counter. -/
theorem Opens.countSound (hconsistent : Consistent rt v.before)
    (hsound : SoundLedger rt v.before) (hsystem : ¬SignedBy v.input.accounts systemProgramId)
    (hopens : Opens v a) :
    ∃ round pool, LiveRound rt v.after a round ∧ PoolAt rt v.after round.pool pool ∧
      round.acceptedCount = 0 ∧ CountSound pool round := by
  rcases hopens.live hconsistent with ⟨round, pool, hlive, hstate, hzero, hpassed, hsigned⟩
  rcases hpassed.live_of_sound hconsistent hsound hsigned hsystem with ⟨hpool, htwo⟩
  have hcount (nextRound : UInt64) : CountSound { pool with nextRound } round := by
    refine ⟨fun _ => ?_, fun hleft => absurd hstate hleft, ?_⟩
    · rw [hzero]
      exact UInt32.lt_of_lt_of_le (by decide) htwo
    · rw [hzero]
      exact UInt32.zero_le
  rcases hopens with ⟨roundId, deadline, template, bump, hok, -⟩
  have hkept (hsame : v.after round.pool = v.before round.pool) :
      PoolAt rt v.after round.pool pool :=
    { owned := hsame ▸ hpool.owned, read := hsame ▸ hpool.read }
  rcases hpool.step hok.decoded (accountStep_of_execute hok round.pool) with
    ⟨hsame, -⟩ | ⟨_, _, _, _, nextRound, -, -, -, -, -, hstore⟩ | htaken
  · exact ⟨round, pool, hlive, hkept hsame, hzero, hcount pool.nextRound⟩
  · refine ⟨round, { pool with nextRound }, hlive, ?_, hzero, hcount nextRound⟩
    exact
      { owned := by rw [hstore]; exact hpool.owned
        read := by rw [hstore]; exact Account.read_store }
  · cases htaken with
    | edited decoded _ _ step =>
        rcases Option.some.inj (decoded.symm.trans hok.decoded) with rfl
        cases step
    | closed decoded => exact nomatch decoded.symm.trans hok.decoded

/-! ## Runs -/

/-- The pool of a round is the same at all moments. -/
theorem Moment.pool_eq {opened last round round' : RoundAccount}
    (hmoment : Moment v a opened last round round') : round.pool = opened.pool :=
  congrArg Prod.fst hmoment.since.identity

/-- The count and the state of a round fit the bounds of its pool at every
moment. -/
theorem LiveRound.countSound {opened : RoundAccount} {pool : PoolAccount}
    {life : List (Call rt)} (hlive : LiveRound rt L a opened)
    (hopen : ∀ v ∈ history rt L life, ¬Closes v a)
    (hpolicy : ∀ v ∈ history rt L life, HasPolicy rt v.before opened.pool pool)
    (hsound : CountSound pool opened) :
    (∃ last, RoundAt rt (ledgerAfter rt L life) a last ∧ CountSound pool last) ∧
      ∀ v ∈ history rt L life,
        (∃ round, RoundAt rt v.before a round ∧ CountSound pool round) ∧
          ∃ round, RoundAt rt v.after a round ∧ CountSound pool round := by
  rcases hlive.run hopen with ⟨last, -, -, hmoments⟩
  refine Runs.run_invariant (fun L => ∃ round, RoundAt rt L a round ∧ CountSound pool round)
    ⟨opened, hlive.toRoundAt, hsound⟩ fun v hv hbefore => ?_
  rcases hmoments v hv with ⟨round, round', hmoment⟩
  rcases hbefore with ⟨found, hfound, hcount⟩
  rcases hfound.unique hmoment.live_before.toRoundAt with rfl
  refine ⟨round', hmoment.live_after.toRoundAt, ?_⟩
  rcases hmoment.step hv with ⟨-, rfl, -⟩ | ⟨instruction, -, hstep⟩
  · exact hcount
  · exact hstep.countSound (hmoment.pool_eq ▸ hpolicy v hv) hcount

/-- A registration that counts: it ran before the deadline, found room, and
created the record of the round and the key. -/
structure CountedKey (v : CallVisit rt) (a : Pubkey) (opened : RoundAccount)
    (pool : PoolAccount) (key : Bytes32) : Prop where
  deadline : v.input.slot < opened.registrationDeadline
  room : ∃ count, fieldAt RoundAccount.acceptedCount v.before a = some count ∧
    count < pool.maxParticipants
  record : ∃ record bump, recordKey a v = some record ∧
    (v.before record).owner ≠ rt.programId ∧
      RecordAt rt v.after record { version := 1, bump, round := a, coordinationKey := key }

/-- What the count of a round is over the calls of its life, for the policy of
its pool when it was opened; {lit}`last` is the record at the end. -/
structure CohortCount (a : Pubkey) (pool : PoolAccount) (opened last : RoundAccount)
    (vs : List (CallVisit rt)) : Prop where
  transparent : pool.backend = .transparentRegistry →
    last.acceptedCount.toNat = (vs.filterMap (registeredKey a)).length
  registered : ∀ v ∈ vs, ∀ key, registeredKey a v = some key → CountedKey v a opened pool key
  records : (vs.filterMap (recordKey a)).Nodup
  merkle : pool.backend = .merkleCohort →
    vs.filterMap (publishedCount a) = [] ∧ last.acceptedCount = 0 ∨
      vs.filterMap (publishedCount a) = [last.acceptedCount]
  leaves : ∀ v ∈ vs, ∀ round round', RoundChange v a round round' →
    ((round.state = .registration ∧ round'.state ≠ .registration ∧ round'.state ≠ .cancelled) ↔
      (round.acceptedCount < pool.minParticipants ∧
        pool.minParticipants ≤ round'.acceptedCount))
  waiting : last.state = .registration → last.acceptedCount < pool.minParticipants
  bounded : State.sealed.rank ≤ last.state.rank → last.state.rank ≤ State.completed.rank →
    pool.minParticipants ≤ last.acceptedCount ∧ last.acceptedCount ≤ pool.maxParticipants

/-- A registration in the life of a round is counted. -/
theorem Moment.countedKey {opened last round round' : RoundAccount} {pool : PoolAccount}
    {key : Bytes32} (hv : v ∈ history rt L calls) (hmoment : Moment v a opened last round round')
    (hconsistent : Consistent rt v.before) (hpolicy : HasPolicy rt v.before opened.pool pool)
    (hkey : registeredKey a v = some key) : CountedKey v a opened pool key := by
  rcases (registeredKey_eq_some hv).mp hkey with ⟨bump, hok, hround⟩
  rcases registration_creates_record hconsistent hok hround with
    ⟨record, hrecord, -, hfree, htaken⟩
  have hdeadline : round.registrationDeadline = opened.registrationDeadline :=
    congrArg (·.2.2.2.1) hmoment.since.identity
  have hran : ranOn v a = some (.registerTransparent key bump) :=
    (ranOn_eq_some hv).mpr ⟨hok, hround⟩
  cases hmoment.roundStep hv hran with
  | registered passed _ own _ deadline room =>
      rw [← own, hmoment.pool_eq] at passed
      rcases hpolicy _ passed.toPoolAt with ⟨-, -, hmax⟩
      constructor
      · rw [← hdeadline]
        exact deadline
      · exact ⟨_, hmoment.live_before.fieldAt_eq, hmax ▸ room⟩
      · exact ⟨record, bump, Option.bind_eq_some_iff.mpr ⟨key, hkey, hrecord⟩, hfree, htaken⟩

/-- In each moment of its life a round leaves registration, other than by
cancellation, if and only if its count reaches the minimum. -/
theorem Moment.leaves_iff {opened last round round' : RoundAccount} {pool : PoolAccount}
    (hv : v ∈ history rt L calls) (hmoment : Moment v a opened last round round')
    (hbefore : CountSound pool round) (hafter : CountSound pool round') :
    (round.state = .registration ∧ round'.state ≠ .registration ∧ round'.state ≠ .cancelled) ↔
      (round.acceptedCount < pool.minParticipants ∧
        pool.minParticipants ≤ round'.acceptedCount) := by
  rcases hmoment.step hv with ⟨-, rfl, -⟩ | ⟨instruction, -, hstep⟩
  · constructor
    · rintro ⟨hwaiting, hleft, -⟩
      exact absurd hwaiting hleft
    · rintro ⟨hbelow, hreached⟩
      exact absurd hreached (UInt32.not_le.mpr hbelow)
  · exact hstep.leaves_iff hbefore hafter

/-- A moment sees the pool of the round under the policy of its opening. -/
theorem Moment.backend_eq {opened last round round' : RoundAccount} {pool : PoolAccount}
    (hmoment : Moment v a opened last round round')
    (hpolicy : HasPolicy rt v.before opened.pool pool) {found : RoundAccount}
    {current : PoolAccount} (hfound : RoundAt rt v.before a found)
    (hcurrent : PoolAt rt v.before found.pool current) : current.backend = pool.backend := by
  rcases hfound.unique hmoment.live_before.toRoundAt with rfl
  rw [hmoment.pool_eq] at hcurrent
  exact (hpolicy current hcurrent).1

/-- The count of a live round over calls that keep it open and its policy as it
is. -/
theorem LiveRound.cohortCount {opened : RoundAccount} {pool : PoolAccount} {life : List (Call rt)}
    (hlive : LiveRound rt L a opened) (hzero : opened.acceptedCount = 0)
    (hsound : CountSound pool opened) (hopen : ∀ v ∈ history rt L life, ¬Closes v a)
    (hpolicy : ∀ v ∈ history rt L life, HasPolicy rt v.before opened.pool pool)
    (hconsistent : ∀ v ∈ history rt L life, Consistent rt v.before)
    (hrecords : ((history rt L life).filterMap (recordKey a)).Nodup) :
    ∃ last, RoundAt rt (ledgerAfter rt L life) a last ∧
      CohortCount a pool opened last (history rt L life) := by
  rcases hlive.run hopen with ⟨last, hlast, -, hmoments⟩
  rcases hlive.countSound hopen hpolicy hsound with ⟨⟨last', hlast', hend⟩, hsounds⟩
  rcases hlast'.unique hlast.toRoundAt with rfl
  have hbackend : ∀ v ∈ history rt L life, ∀ found current, RoundAt rt v.before a found →
      PoolAt rt v.before found.pool current → current.backend = pool.backend := by
    intro v hv found current hfound hcurrent
    rcases hmoments v hv with ⟨round, round', hmoment⟩
    exact hmoment.backend_eq (hpolicy v hv) hfound hcurrent
  refine ⟨last', hlast', ?_⟩
  constructor
  case transparent =>
    intro htransparent
    have hrounds : ∀ v ∈ history rt L life, TransparentRound rt v.before a :=
      fun v hv found current hfound hcurrent =>
        (hbackend v hv found current hfound hcurrent).trans htransparent
    rcases hlive.acceptedCount hopen hrounds with ⟨found, hfound, hcount⟩
    rw [hlast'.unique hfound.toRoundAt, hcount, hzero]
    exact Nat.zero_add _
  case registered =>
    intro v hv key hkey
    rcases hmoments v hv with ⟨round, round', hmoment⟩
    exact hmoment.countedKey hv (hconsistent v hv) (hpolicy v hv) hkey
  case records => exact hrecords
  case merkle =>
    intro hmerkle
    have hrounds : ∀ v ∈ history rt L life, MerkleRound rt v.before a :=
      fun v hv found current hfound hcurrent =>
        (hbackend v hv found current hfound hcurrent).trans hmerkle
    rcases hlive.published hopen hrounds with ⟨found, hfound, hcount⟩
    rcases hlast'.unique hfound.toRoundAt with rfl
    rcases hcount with ⟨hnever, hcount⟩ | ⟨honce, -⟩
    · exact Or.inl ⟨hnever, hcount.trans hzero⟩
    · exact Or.inr honce
  case leaves =>
    intro v hv round round' hchange
    rcases hmoments v hv with ⟨r, r', hmoment⟩
    rcases hmoment.unique hchange with ⟨rfl, rfl⟩
    rcases hsounds v hv with ⟨⟨first, hfirst, hbefore⟩, second, hsecond, hafter⟩
    rcases hfirst.unique hchange.round_before with rfl
    rcases hsecond.unique hchange.round_after with rfl
    exact hmoment.leaves_iff hv hbefore hafter
  case waiting => exact hend.waiting
  case bounded =>
    intro hsealed hcompleted
    refine ⟨hend.reached (fun h => ?_) (fun h => ?_), hend.within⟩
    · rw [h] at hsealed
      exact absurd hsealed (by decide)
    · rw [h] at hcompleted
      exact absurd hcompleted (by decide)

/-- From the call that opens a round over any calls that do not close it, as
long as the policy stored at its pool is the one at the opening, the count of
the round is the number of its registrations or the published count, and the
round leaves registration when the count reaches the minimum.  Nobody signs for
the address of the System Program. -/
theorem cohort_counting (hgenesis : Genesis rt L) (before life : List (Call rt))
    (opening : Call rt) (hopens : Opens (callVisit rt (ledgerAfter rt L before) opening) a)
    (hsystem : ¬SignedBy opening.accounts systemProgramId)
    (hopen : ∀ v ∈ history rt (ledgerAfter rt L (before ++ [opening])) life, ¬Closes v a)
    (hpolicy : ∀ v ∈ history rt (ledgerAfter rt L (before ++ [opening])) life,
      SamePolicy rt (ledgerAfter rt L (before ++ [opening])) v.before a) :
    ∃ opened pool last,
      RoundAt rt (ledgerAfter rt L (before ++ [opening])) a opened ∧
        PoolAt rt (ledgerAfter rt L (before ++ [opening])) opened.pool pool ∧
        RoundAt rt (ledgerAfter rt L (before ++ opening :: life)) a last ∧
        CohortCount a pool opened last
          (history rt (ledgerAfter rt L (before ++ [opening])) life) := by
  have hconsistent := (consistent_of_genesis hgenesis (before ++ opening :: life)).2
  rw [history_append_cons] at hconsistent
  have hrecords := nodup_filterMap_history before life opening
    (countP_recordKey_le_one (a := a) hgenesis)
  obtain ⟨opened, pool, hlive, hpool, hzero, hsound⟩ := hopens.countSound
    (consistent_of_genesis hgenesis before).1 (sound_of_genesis hgenesis before) hsystem
  rw [← ledgerAfter_concat] at hlive hpool
  rcases hlive.cohortCount hzero hsound hopen
    (fun v hv => hpolicy v hv opened pool hlive.toRoundAt hpool)
    (fun v hv => (hconsistent v (List.mem_append_right _ hv)).1) hrecords with
    ⟨last, hlast, hcount⟩
  rw [ledgerAfter_append_cons before life opening]
  exact ⟨opened, pool, last, hlive.toRoundAt, hpool, hlast, hcount⟩

/-- The backend and the bounds of the pool stored at an address. -/
def policyAt (L : Ledger) (a : Pubkey) : Option (Backend × UInt32 × UInt32) :=
  (PoolAccount.codec.read (L a).data).map fun pool =>
    (pool.backend, pool.minParticipants, pool.maxParticipants)

/-- Equal stored policies are the same policy of the round. -/
theorem SamePolicy.of_policyAt {poolKey : Pubkey}
    (hround : fieldAt RoundAccount.pool L a = some poolKey)
    (hpolicy : policyAt L' poolKey = policyAt L poolKey) : SamePolicy rt L L' a := by
  intro round pool hopened hpool current hcurrent
  rw [Option.some.inj (hopened.fieldAt_eq.symm.trans hround)] at hpool hcurrent
  rw [policyAt, policyAt, hpool.read, hcurrent.read, Option.map_some, Option.map_some,
    Option.some.injEq, Prod.mk.injEq, Prod.mk.injEq] at hpolicy
  exact hpolicy

theorem cohort_counting_demo :
    ∃ opened pool last,
      RoundAt demoRuntime (ledgerAfter demoRuntime demoLedger [demoInitialize, demoOpen])
          (demoKey 21) opened ∧
        PoolAt demoRuntime (ledgerAfter demoRuntime demoLedger [demoInitialize, demoOpen])
          opened.pool pool ∧
        RoundAt demoRuntime
          (ledgerAfter demoRuntime demoLedger (demoInitialize :: demoOpen :: demoLife))
          (demoKey 21) last ∧
        CohortCount (demoKey 21) pool opened last
          (history demoRuntime
            (ledgerAfter demoRuntime demoLedger [demoInitialize, demoOpen]) demoLife) := by
  have hround : fieldAt RoundAccount.pool
      (ledgerAfter demoRuntime demoLedger [demoInitialize, demoOpen]) (demoKey 21) =
      some (demoKey 11) := by decide +kernel
  have hpolicy : ∀ v ∈ history demoRuntime
      (ledgerAfter demoRuntime demoLedger [demoInitialize, demoOpen]) demoLife,
      policyAt v.before (demoKey 11) = policyAt
        (ledgerAfter demoRuntime demoLedger [demoInitialize, demoOpen]) (demoKey 11) := by
    decide +kernel
  exact cohort_counting demoLedger_genesis [demoInitialize] demoLife demoOpen demoOpen_opens
    (by decide) demoLife_open fun v hv => .of_policyAt hround (hpolicy v hv)

end MirrorPool
