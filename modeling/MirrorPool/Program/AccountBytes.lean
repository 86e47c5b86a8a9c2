import MirrorPool.Program.TableRuntime

/-!
# Account bytes

A write fills an account of the program with an encoding and zeros up to the end
of the buffer, so that nothing of an earlier value survives, however long that
one was.  The law is one for every layout that fits the buffer; the program has
three layouts and allocates their accounts with room to spare.

A record is shorter than a pool and a round are, so that its account can be read
as neither of them.

Main results:

- Theorem {lit}`exists_write`: the round trip, for every layout that fits.
- Theorem {lit}`account_bytes`: the round trips of the three layouts at the sizes
  that the program allocates.
-/

namespace MirrorPool

open Fallible

variable {rt : Runtime} {L : Ledger} {info : AccountInfo} {α : Type} {width : Nat}

/-! ## Refused accounts -/

/-- A buffer that is shorter than the layout cannot be read. -/
theorem readAccount_of_short {codec : FixedCodec α width}
    (hshort : (L info.key).data.length < width) :
    readAccount codec L info = .error .invalidAccountData := by
  have hread : codec.read (L info.key).data = none := by
    rw [Option.eq_none_iff_forall_ne_some]
    intro value hvalue
    exact absurd (codec.width_le_of_read hvalue) (Nat.not_le.mpr hshort)
  rw [readAccount, hread]
  rfl

/-- An account of the program whose first byte is not zero is not created
again. -/
theorem createPdaAccount_initialized {payer system : AccountInfo} {space : Nat}
    {seeds : List (List UInt8)} {version : UInt8} (howned : (L info.key).owner = rt.programId)
    (hhead : (L info.key).data.head? = some version) (hversion : version ≠ 0) :
    createPdaAccount rt L payer info system space seeds = .error .accountAlreadyInitialized := by
  unfold createPdaAccount
  rw [if_pos howned, hhead, Option.getD_some, failIf, if_pos hversion]
  rfl

/-! ## Round trips -/

/-- What writing a value to an account leaves there. -/
structure Written (rt : Runtime) (codec : FixedCodec α width) (version : α → UInt8) (L : Ledger)
    (info : AccountInfo) (value : α) (L' : Ledger) : Prop where
  write : writeAccount codec L info value = .ok L'
  read : readAccount codec L' info = .ok value
  length : (L' info.key).data.length = (L info.key).data.length
  encoded : (L' info.key).data.take (codec.encode value).length = codec.encode value
  cleared : ∀ i, (codec.encode value).length ≤ i → i < (L info.key).data.length →
    (L' info.key).data[i]? = some 0
  account : (L' info.key).owner = (L info.key).owner ∧
    (L' info.key).lamports = (L info.key).lamports
  frame : ∀ a, a ≠ info.key → L' a = L a
  initialized : version value = 1 → ∀ payer system space seeds,
    createPdaAccount rt L' payer info system space seeds = .error .accountAlreadyInitialized

/-- A value is written to every account of the program that its layout fits. -/
theorem exists_write {codec : FixedCodec α width} {version : α → UInt8} {value : α}
    (hversion : ∀ rest, (codec.encode value ++ rest).head? = some (version value))
    (howned : (L info.key).owner = rt.programId) (hfits : width ≤ (L info.key).data.length) :
    ∃ L', Written rt codec version L info value L' := by
  have hlength := codec.length_encode value
  have hdata : ((L.setData info.key (codec.padded value (L info.key).data.length))
      info.key).data = codec.padded value (L info.key).data.length := by
    rw [Ledger.setData_self]
  refine ⟨L.setData info.key (codec.padded value (L info.key).data.length), ?_⟩
  exact {
    write := writeAccount_eq_ok.mpr ⟨hfits, rfl⟩
    read := by rw [readAccount_eq_ok, hdata, codec.read_padded]
    length := by rw [hdata, codec.length_padded value hfits]
    encoded := by rw [hdata, FixedCodec.padded, List.take_left]
    cleared := fun i hpast hi => by rw [hdata, codec.getElem?_padded value (hlength ▸ hpast) hi]
    account := by rw [Ledger.setData_self]; exact ⟨rfl, rfl⟩
    frame := fun a hne => Ledger.setData_of_ne L _ hne
    initialized := by
      intro hone payer system space seeds
      have hnonzero : version value ≠ 0 := by
        rw [hone]
        decide
      refine createPdaAccount_initialized ?_ ?_ hnonzero
      · rw [Ledger.setData_self]
        exact howned
      · rw [hdata]
        exact hversion _ }

/-- The bytes of the accounts of the program: each of the three records goes
round in an account of the size that is allocated for it, and a record account is
read neither as a pool nor as a round. -/
structure AccountBytes (rt : Runtime) (L : Ledger) (info : AccountInfo) : Prop where
  pool : (L info.key).data.length = poolAccountSize → ∀ value : PoolAccount,
    ∃ L', Written rt PoolAccount.codec PoolAccount.version L info value L'
  round : (L info.key).data.length = roundAccountSize → ∀ value : RoundAccount,
    ∃ L', Written rt RoundAccount.codec RoundAccount.version L info value L'
  record : (L info.key).data.length = participantRecordSize → ∀ value : ParticipantRecord,
    ∃ L', Written rt ParticipantRecord.codec ParticipantRecord.version L info value L'
  record_not_pool : (L info.key).data.length = participantRecordSize →
    readAccount PoolAccount.codec L info = .error .invalidAccountData
  record_not_round : (L info.key).data.length = participantRecordSize →
    readAccount RoundAccount.codec L info = .error .invalidAccountData

/-- Account bytes go round, whatever was in the account before. -/
theorem account_bytes (rt : Runtime) (L : Ledger) (info : AccountInfo)
    (howned : (L info.key).owner = rt.programId) : AccountBytes rt L info where
  pool hsize value := exists_write value.head?_encode howned (by rw [hsize]; decide)
  round hsize value := exists_write value.head?_encode howned (by rw [hsize]; decide)
  record hsize value := exists_write value.head?_encode howned (by rw [hsize]; decide)
  record_not_pool hsize := readAccount_of_short (by rw [hsize]; decide)
  record_not_round hsize := readAccount_of_short (by rw [hsize]; decide)

/-- A ledger in which every account belongs to the program and is full of
ones. -/
def demoStaleLedger : Ledger := fun _ =>
  { owner := demoKey 200, lamports := 1, data := List.replicate 256 1 }

/-- A pool account without a zero byte, before it is written. -/
theorem account_bytes_stale : (demoStaleLedger (demoKey 11)).owner = demoRuntime.programId ∧
    (demoStaleLedger (demoKey 11)).data.length = poolAccountSize ∧
    AccountBytes demoRuntime demoStaleLedger (demoAccount 11) :=
  ⟨rfl, List.length_replicate,
    account_bytes demoRuntime demoStaleLedger (demoAccount 11) rfl⟩

end MirrorPool
