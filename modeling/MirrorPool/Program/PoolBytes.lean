import MirrorPool.Program.Pools

/-!
# What pool bytes keep

A pool that is taken for a round has some of its bytes overwritten.  Two fields
are out of the reach of every edit: the authority, which lies on the pool of a
round, and the minimum of participants, which lies within the root.  Therefore a
round is never opened on a pool without a minimum.

Main results:

- Definitions {lit}`headerKey` and {lit}`minimumBytes`: the bytes of the two
  fields.
- Structure {lit}`SoundBytes`: what holds of the bytes of a program account.
- Theorem {lit}`sound_of_genesis`: it holds of all of them after every run.
- Theorem {lit}`PassedPool.live_of_sound`: a pool that is passed with the
  signature of its authority has a minimum of two at least.
-/

namespace MirrorPool

/-! ## Two fields by their offsets -/

/-- The bytes of the key in the header, the authority of a pool or the pool of a
round. -/
def headerKey (bytes : List UInt8) : List UInt8 := (bytes.drop 2).take 32

/-- The bytes of the minimum of participants of a pool. -/
def minimumBytes (bytes : List UInt8) : List UInt8 := (bytes.drop 98).take 4

/-- A slice that starts behind the first list and ends with the second. -/
theorem take_drop_append {α : Type} (front items rest : List α) {n m : Nat}
    (hfront : front.length = n) (hitems : items.length = m) :
    ((front ++ (items ++ rest)).drop n).take m = items := by
  rw [List.drop_left' hfront, List.take_left' hitems]

variable {rt : Runtime} {L : Ledger} {a : Pubkey}

section Offsets

variable {bytes : List UInt8}

/-- The bytes that a pool is read from, up to the minimum of participants. -/
theorem PoolAccount.bytes_eq {pool : PoolAccount}
    (hread : PoolAccount.codec.read bytes = some pool) :
    ∃ tail, bytes = [pool.version, pool.bump] ++ (pool.authority.toList ++
      (pool.poolId.toList ++ (pool.templateHash.toList ++
        (FixedCodec.leBytes 4 pool.minParticipants.toNat ++ tail)))) := by
  rcases PoolAccount.codec.read_eq_some.mp hread with ⟨rest, rfl⟩
  have hencode : ∃ tail, PoolAccount.codec.encode pool = [pool.version, pool.bump] ++
      (pool.authority.toList ++ (pool.poolId.toList ++ (pool.templateHash.toList ++
        (FixedCodec.leBytes 4 pool.minParticipants.toNat ++ tail)))) := ⟨_, rfl⟩
  rcases hencode with ⟨tail, hencode⟩
  refine ⟨tail ++ rest, ?_⟩
  rw [hencode]
  simp only [List.append_assoc]

/-- The bytes that a round is read from, up to the root. -/
theorem RoundAccount.bytes_eq {round : RoundAccount}
    (hread : RoundAccount.codec.read bytes = some round) :
    ∃ tail, bytes = [round.version, round.bump] ++ (round.pool.toList ++
      (FixedCodec.leBytes 8 round.roundId.toNat ++ ([round.state.tag] ++
        (FixedCodec.leBytes 8 round.registrationDeadline.toNat ++ (round.templateHash.toList ++
          (FixedCodec.leBytes 4 round.acceptedCount.toNat ++
            (round.cohortRoot.toList ++ tail))))))) := by
  rcases RoundAccount.codec.read_eq_some.mp hread with ⟨rest, rfl⟩
  have hencode : ∃ tail, RoundAccount.codec.encode round = [round.version, round.bump] ++
      (round.pool.toList ++ (FixedCodec.leBytes 8 round.roundId.toNat ++ ([round.state.tag] ++
        (FixedCodec.leBytes 8 round.registrationDeadline.toNat ++ (round.templateHash.toList ++
          (FixedCodec.leBytes 4 round.acceptedCount.toNat ++
            (round.cohortRoot.toList ++ tail))))))) := ⟨_, rfl⟩
  rcases hencode with ⟨tail, hencode⟩
  refine ⟨tail ++ rest, ?_⟩
  rw [hencode]
  simp only [List.append_assoc]

theorem PoolAccount.headerKey_eq {pool : PoolAccount}
    (hread : PoolAccount.codec.read bytes = some pool) :
    headerKey bytes = pool.authority.toList := by
  rcases pool.bytes_eq hread with ⟨tail, rfl⟩
  have hauthority : pool.authority.toList.length = 32 := Vector.length_toList
  exact take_drop_append _ _ _ rfl hauthority

theorem RoundAccount.headerKey_eq {round : RoundAccount}
    (hread : RoundAccount.codec.read bytes = some round) :
    headerKey bytes = round.pool.toList := by
  rcases round.bytes_eq hread with ⟨tail, rfl⟩
  have hpool : round.pool.toList.length = 32 := Vector.length_toList
  exact take_drop_append _ _ _ rfl hpool

theorem PoolAccount.minimumBytes_eq {pool : PoolAccount}
    (hread : PoolAccount.codec.read bytes = some pool) :
    minimumBytes bytes = FixedCodec.leBytes 4 pool.minParticipants.toNat := by
  rcases pool.bytes_eq hread with ⟨tail, rfl⟩
  have hminimum := FixedCodec.length_leBytes 4 pool.minParticipants.toNat
  rw [← List.append_assoc, ← List.append_assoc, ← List.append_assoc]
  exact take_drop_append _ _ _ (by simp) hminimum

/-- The minimum of a pool lies within the root of a round. -/
theorem RoundAccount.minimumBytes_eq {round : RoundAccount}
    (hread : RoundAccount.codec.read bytes = some round) :
    minimumBytes bytes = (round.cohortRoot.toList.drop 11).take 4 := by
  rcases round.bytes_eq hread with ⟨tail, rfl⟩
  have hroot : 4 ≤ (round.cohortRoot.toList.drop 11).length := by simp
  have hfront : ([round.version, round.bump] ++ round.pool.toList ++
      FixedCodec.leBytes 8 round.roundId.toNat ++ [round.state.tag] ++
      FixedCodec.leBytes 8 round.registrationDeadline.toNat ++ round.templateHash.toList ++
      FixedCodec.leBytes 4 round.acceptedCount.toNat).length = 87 := by
    simp [FixedCodec.length_leBytes]
  simp only [minimumBytes, ← List.append_assoc]
  rw [List.append_assoc _ _ tail, show 98 = 87 + 11 from rfl, ← List.drop_drop,
    List.drop_left' hfront, List.drop_append_of_le_length (by simp),
    List.take_append_of_le_length hroot]

end Offsets

/-! ## The invariant -/

/-- The address was derived for a pool. -/
def Runtime.IsPoolAddress (rt : Runtime) (a : Pubkey) : Prop :=
  ∃ poolId bump, rt.createProgramAddress (Runtime.poolSeeds poolId bump) rt.programId = some a

/-- What holds of the bytes of a program account.  Without a version byte the
header holds the zero key.  With one, an account at the address of a pool has
an authority that no call derives and a minimum of two at least, whatever was
written over its other fields. -/
structure SoundBytes (rt : Runtime) (a : Pubkey) (bytes : List UInt8) : Prop where
  blank : bytes.head? ≠ some 1 → headerKey bytes = systemProgramId.toList
  authority : rt.IsPoolAddress a → bytes.head? = some 1 →
    ∀ key, rt.IsDerived key → headerKey bytes ≠ key.toList
  minimum : rt.IsPoolAddress a → bytes.head? = some 1 →
    ∀ min : UInt32, minimumBytes bytes = FixedCodec.leBytes 4 min.toNat → 2 ≤ min

/-- The bytes of every program account are sound. -/
def SoundLedger (rt : Runtime) (L : Ledger) : Prop :=
  ∀ a, (L a).owner = rt.programId → SoundBytes rt a (L a).data

/-- Bytes that agree on the version and the two fields are as sound. -/
theorem SoundBytes.of_eq {bytes bytes' : List UInt8} (hsound : SoundBytes rt a bytes)
    (hhead : bytes'.head? = bytes.head?) (hkey : headerKey bytes' = headerKey bytes)
    (hminimum : rt.IsPoolAddress a → bytes.head? = some 1 →
      minimumBytes bytes' = minimumBytes bytes) : SoundBytes rt a bytes' where
  blank h := by
    rw [hkey]
    exact hsound.blank (hhead ▸ h)
  authority hpool h := by
    rw [hkey]
    exact hsound.authority hpool (hhead ▸ h)
  minimum hpool h := by
    rw [hminimum hpool (hhead ▸ h)]
    exact hsound.minimum hpool (hhead ▸ h)

/-- A written record at an address of another kind is sound. -/
theorem SoundBytes.of_not_pool {bytes : List UInt8} (hhead : bytes.head? = some 1)
    (hother : ¬rt.IsPoolAddress a) : SoundBytes rt a bytes where
  blank h := absurd hhead h
  authority hpool := absurd hpool hother
  minimum hpool := absurd hpool hother

/-- The header of an emptied account is zero. -/
theorem SoundBytes.of_replicate {n : Nat} (hsize : 34 ≤ n) :
    SoundBytes rt a (List.replicate n 0) := by
  have hhead : (List.replicate n (0 : UInt8)).head? ≠ some 1 := by
    intro hone
    exact absurd (List.eq_of_mem_replicate (List.mem_of_head? hone)) (by decide)
  constructor
  · intro _
    have hkey : headerKey (List.replicate n 0) = List.replicate 32 0 := by
      rw [headerKey, List.drop_replicate, List.take_replicate]
      congr 1
      omega
    rw [hkey]
    rfl
  · exact fun _ h => absurd h hhead
  · exact fun _ h => absurd h hhead

/-- The root of a round changes only with the pool of the round at hand. -/
theorem RoundStep.passed_of_root {call : Call rt} {instruction : CoordinationInstruction}
    {round round' : RoundAccount} (hstep : RoundStep rt L call instruction round round')
    (hchange : round'.cohortRoot ≠ round.cohortRoot) :
    ∃ pool, PassedPool rt L call round.pool pool := by
  cases hstep with
  | published passed _ _ own => exact ⟨_, own ▸ passed⟩
  | _ => exact absurd rfl hchange

/-- A new pool is sound: its authority signed, and its policy was checked. -/
theorem SoundBytes.of_pool {call : Call rt} {bytes : List UInt8} {pool : PoolAccount}
    (hread : PoolAccount.codec.read bytes = some pool) (hhead : bytes.head? = some 1)
    (hsigned : SignedBy call.accounts pool.authority) (htwo : 2 ≤ pool.minParticipants) :
    SoundBytes rt a bytes where
  blank h := absurd hhead h
  authority _ _ key hderived heq := by
    rw [PoolAccount.headerKey_eq hread] at heq
    rw [Vector.toList_inj.mp heq] at hsigned
    exact not_signedBy_of_isDerived hderived hsigned
  minimum _ _ min heq := by
    rw [PoolAccount.minimumBytes_eq hread] at heq
    have hsame := (FixedCodec.u32.encode_append_inj (congrArg (· ++ []) heq)).1
    exact hsame ▸ htwo

/-- A successful call keeps the bytes of every program account sound. -/
theorem AccountStep.sound {call : Call rt} {instruction : CoordinationInstruction}
    {account : Account} (hstep : AccountStep rt L call a instruction account)
    (hconsistent : Consistent rt L) (hsound : SoundLedger rt L)
    (howned : account.owner = rt.programId) : SoundBytes rt a account.data := by
  cases hstep with
  | same => exact hsound a howned
  | wallet => exact hsound a howned
  | initialized policy _ signed =>
      have htwo := UInt32.not_lt.mp (not_or.mp policy).1
      exact .of_pool Account.read_store (PoolAccount.head?_encode ..) signed htwo
  | opened _ _ _ _ _ _ _ derived =>
      refine .of_not_pool (RoundAccount.head?_encode ..) ?_
      rintro ⟨poolId, bump, hpool⟩
      exact Runtime.pool_ne_round hpool derived
  | counted passed =>
      refine (hsound a howned).of_eq passed.head?.symm ?_ fun _ _ => ?_
      · rw [PoolAccount.headerKey_eq passed.read, PoolAccount.headerKey_eq Account.read_store]
      · rw [PoolAccount.minimumBytes_eq passed.read,
          PoolAccount.minimumBytes_eq Account.read_store]
  | recorded _ _ _ derived =>
      refine .of_not_pool (ParticipantRecord.head?_encode ..) ?_
      rintro ⟨poolId, bump, hpool⟩
      exact Runtime.participant_ne_pool derived hpool
  | @edited _ round round' _ round_at step =>
      have hhead : ((L a).store RoundAccount.codec round').data.head? = (L a).data.head? := by
        rw [round_at.head?, ← step.identity.1]
        rfl
      refine (hsound a howned).of_eq hhead ?_ fun hpool hone => ?_
      · rw [RoundAccount.headerKey_eq round_at.read, RoundAccount.headerKey_eq Account.read_store,
          step.pool_eq]
      · rw [RoundAccount.minimumBytes_eq round_at.read,
          RoundAccount.minimumBytes_eq Account.read_store]
        -- a new root needs the pool of the round, whose key is derived
        by_contra hchange
        rcases step.passed_of_root fun hroot => hchange (by rw [hroot]) with ⟨pool, hpassed⟩
        exact (hsound a howned).authority hpool hone _ (hconsistent _ hpassed.owned).isDerived
          (RoundAccount.headerKey_eq round_at.read)
  | closed _ _ _ round_at =>
      have hsize := RoundAccount.codec.width_le_of_read round_at.read
      exact .of_replicate (le_trans (by decide) hsize)

/-- Every moment of a run from a genesis ledger has sound bytes. -/
theorem sound_of_genesis (hgenesis : Genesis rt L) (calls : List (Call rt)) :
    SoundLedger rt (ledgerAfter rt L calls) := by
  have hconsistent := (consistent_of_genesis hgenesis calls).2
  refine (Runs.run_invariant (SoundLedger rt) (fun a howned => absurd howned (hgenesis a))
    fun v hv hbefore => ?_).1
  rcases succeeded_or_unchanged hv with ⟨instruction, hok⟩ | ⟨hsame, -⟩
  · intro a howned
    exact (accountStep_of_execute hok a).sound (hconsistent v hv).1 hbefore howned
  · rw [hsame]
    exact hbefore

/-- A pool that is passed with the signature of its authority is live and has a
minimum of two at least.  Nobody signs for the zero key of the System Program,
which an emptied account names as its authority. -/
theorem PassedPool.live_of_sound {call : Call rt} {poolKey : Pubkey} {pool : PoolAccount}
    (hconsistent : Consistent rt L) (hsound : SoundLedger rt L)
    (hpassed : PassedPool rt L call poolKey pool)
    (hsigned : SignedBy call.accounts pool.authority)
    (hsystem : ¬SignedBy call.accounts systemProgramId) :
    LivePool rt L poolKey pool ∧ 2 ≤ pool.minParticipants := by
  have hbytes := hsound poolKey hpassed.owned
  have hhead := hpassed.head?
  have hversion : pool.version = 1 := by
    by_contra hother
    have hblank := hbytes.blank (by rw [hhead]; exact fun h => hother (Option.some.inj h))
    rw [PoolAccount.headerKey_eq hpassed.read] at hblank
    rw [Vector.toList_inj.mp hblank] at hsigned
    exact hsystem hsigned
  have hlive := hpassed.live hconsistent hsigned hversion
  rw [hversion] at hhead
  exact ⟨hlive, hbytes.minimum hlive.derived hhead _ (PoolAccount.minimumBytes_eq hpassed.read)⟩

end MirrorPool
