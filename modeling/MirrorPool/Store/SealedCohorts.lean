import MirrorPool.Store.History

/-!
# Integrity of sealed cohorts

A root that is in the database was written by a sealing call together with one
proof for every accepted ticket of its round.  Nothing that comes later changes
the root, the proofs, or a release schedule, and later calls for the round get
the same answers.

Main results:

- Structure {lit}`IntactCohort`: what holds of a root row after a history.
- Theorem {lit}`sealed_cohort_intact`: it holds after every history.
-/

namespace MirrorPool

open Sessions Tables

variable {D : Type} [LinearOrder D] {h : Blake3 D} {calls : List (StoreCall D)}

/-- What holds of a root row after a history: how it was created, what its
proofs are, and what later calls may find. -/
structure IntactCohort (h : Blake3 D) (calls : List (StoreCall D)) (row : CohortRootRow D)
    (roundId : UInt64) (count : UInt32) : Prop where
  columns : asI64 roundId = .ok row.roundId ∧ row.cohortSize = count.toNat
  created : ∃ v ∈ storeHistory h calls, ∃ minimum,
    v.input = .sealCohort row.poolId roundId minimum ∧
      row ∉ v.before.cohortRoots.rows ∧ row ∈ v.after.cohortRoots.rows ∧
      v.reply h = .ok (.sealed row.root count) ∧ minimum ≤ count
  count_pos : 1 ≤ count
  proofs_length : (proofsOf (storeAfter h calls) row.poolId row.roundId).length = count.toNat
  proofs_distinct :
    ((proofsOf (storeAfter h calls) row.poolId row.roundId).map CohortProofRow.commitment).Nodup
  proofs_accepted : ∀ proof ∈ proofsOf (storeAfter h calls) row.poolId row.roundId,
    ∃ v ∈ storeHistory h calls, ∃ ticket, v.input = .acceptTicket ticket ∧
      v.reply h = .ok (.accepted proof.commitment) ∧ ticket.commitment h = proof.commitment ∧
      ticket.poolId = row.poolId ∧ ticket.roundId = roundId
  proofs_verify : ∀ proof ∈ proofsOf (storeAfter h calls) row.poolId row.roundId,
    proof.proofJson.leafHash = proof.commitment ∧
      proof.proofJson.verify h row.root roundId = .ok ()
  rows_kept : ∀ later, row ∈ (storeAfter h (calls ++ later)).cohortRoots.rows ∧
    proofsOf (storeAfter h (calls ++ later)) row.poolId row.roundId =
      proofsOf (storeAfter h calls) row.poolId row.roundId
  seal_again : ∀ later minimum,
    (StoreCall.sealCohort row.poolId roundId minimum).perform h (storeAfter h (calls ++ later)) =
      (.ok (.sealed row.root count), storeAfter h (calls ++ later))
  schedule_kept : ∀ schedule ∈ (storeAfter h calls).releaseSchedules.rows,
    schedule.poolId = row.poolId → schedule.roundId = row.roundId →
      ∃ release finish, asI64 release = .ok schedule.releaseSlot ∧
        asI64 finish = .ok schedule.windowEndSlot ∧ ∀ later,
          schedule ∈ (storeAfter h (calls ++ later)).releaseSchedules.rows ∧
          ∀ release' finish', ((StoreCall.scheduleRelease row.poolId roundId release'
            finish').perform h (storeAfter h (calls ++ later))).1 = .ok .stored ↔
              release' = release ∧ finish' = finish

/-! ## The moment of the sealing -/

section Sealing

variable {call : StoreCall D} {reply : Except StoreError (StoreReply D)} {db db' : Database D}
variable {row : CohortRootRow D} {roundId : UInt64} {minimum count : UInt32}
variable {cohort : MerkleCohort h} {proofs : List (CohortProofRow D)}

/-- After the sealing the proofs of the round are those that were written. -/
theorem Sealing.proofsOf_eq
    (hsealing : Sealing h call reply db db' row roundId minimum count cohort proofs)
    (hrooted : ProofsRooted db) : proofsOf db' row.poolId row.roundId = proofs := by
  have hbefore : db.cohortProofs.rows.filter
      (fun proof => proof.poolId = row.poolId ∧ proof.roundId = row.roundId) = [] := by
    rw [List.filter_eq_nil_iff]
    intro proof hproof hkey
    simp only [decide_eq_true_eq] at hkey
    rcases hrooted proof hproof with ⟨other, hother, hpool, hid⟩
    exact hsealing.fresh other hother ⟨hpool.trans hkey.1, hid.trans hkey.2⟩
  have hwritten : proofs.filter
      (fun proof => proof.poolId = row.poolId ∧ proof.roundId = row.roundId) = proofs := by
    rw [List.filter_eq_self]
    intro proof hproof
    simpa using hsealing.proof_rows.keys proof hproof
  rw [proofsOf, Table.select, hsealing.proofs_eq, List.filter_append, hbefore, hwritten,
    List.nil_append]

/-- There is one proof for each leaf. -/
theorem Sealing.proofs_length
    (hsealing : Sealing h call reply db db' row roundId minimum count cohort proofs) :
    proofs.length = count.toNat := by
  rw [← hsealing.length_eq, ← hsealing.proof_rows.commitments, List.length_map]

/-- The proofs have distinct commitments. -/
theorem Sealing.proofs_nodup
    (hsealing : Sealing h call reply db db' row roundId minimum count cohort proofs) :
    (proofs.map CohortProofRow.commitment).Nodup := by
  rw [hsealing.proof_rows.commitments]
  exact MerkleCohort.nodup_of_build hsealing.build_eq

/-- A cohort has at least one ticket. -/
theorem Sealing.count_pos
    (hsealing : Sealing h call reply db db' row roundId minimum count cohort proofs) :
    1 ≤ count := by
  have hpos := MerkleCohort.length_pos_of_build hsealing.build_eq
  rw [hsealing.length_eq] at hpos
  rw [UInt32.le_iff_toNat_le]
  exact hpos

/-- Each proof is for an accepted ticket of the round. -/
theorem Sealing.ticket_of_proof
    (hsealing : Sealing h call reply db db' row roundId minimum count cohort proofs)
    {proof : CohortProofRow D} (hproof : proof ∈ proofs) :
    ∃ ticket ∈ db.joinTickets.rows, ticket.poolId = row.poolId ∧ ticket.roundId = row.roundId ∧
      ticket.commitment = proof.commitment := by
  have hleaf : proof.commitment ∈ leavesOf db row.poolId row.roundId := by
    rw [← hsealing.proof_rows.commitments]
    exact List.mem_map_of_mem hproof
  simp only [leavesOf, Store.ticketsOf, mem_sortDigests, List.mem_map, Table.mem_select] at hleaf
  rcases hleaf with ⟨ticket, ⟨hticket, hpool, hid⟩, hcommitment⟩
  exact ⟨ticket, hticket, hpool, hid, hcommitment⟩

/-- Each proof verifies. -/
theorem Sealing.verify
    (hsealing : Sealing h call reply db db' row roundId minimum count cohort proofs)
    {proof : CohortProofRow D} (hproof : proof ∈ proofs) :
    proof.proofJson.leafHash = proof.commitment ∧
      proof.proofJson.verify h row.root roundId = .ok () :=
  MerkleCohort.verify_of_proof hsealing.root_eq (hsealing.proof_rows.generated proof hproof)

end Sealing

/-- Every stored proof is for an accepted ticket and verifies against the root of
its round. -/
def ProofsSound (h : Blake3 D) (db : Database D) : Prop :=
  ∀ proof ∈ db.cohortProofs.rows, proof.proofJson.leafHash = proof.commitment ∧
    (∃ ticket ∈ db.joinTickets.rows, ticket.commitment = proof.commitment) ∧
    ∃ row ∈ db.cohortRoots.rows, row.poolId = proof.poolId ∧ row.roundId = proof.roundId ∧
      ∀ roundId, asI64 roundId = .ok row.roundId →
        proof.proofJson.verify h row.root roundId = .ok ()

/-- A call keeps the proofs sound. -/
theorem StoreStep.proofsSound {call : StoreCall D} {reply : Except StoreError (StoreReply D)}
    {db db' : Database D} (hstep : StoreStep h call reply db db') (hsound : ProofsSound h db) :
    ProofsSound h db' := by
  intro proof hproof
  by_cases hold : proof ∈ db.cohortProofs.rows
  · rcases hsound proof hold with ⟨hleaf, ⟨ticket, hticket, hcommitment⟩, row, hrow, hkept⟩
    exact ⟨hleaf, ⟨ticket, hstep.grows.tickets hticket, hcommitment⟩, row, hstep.grows.roots hrow,
      hkept⟩
  · cases hstep with
    | @cohortSealed pool roundId _ _ id root count _ _ _ cohort _ hid hfresh hcount hminimum hbuild
        hroot hroots hproofs hrows =>
        simp only [hproofs, List.mem_append, hold, false_or] at hproof
        rcases MerkleCohort.verify_of_proof hroot (hrows.generated proof hproof) with
          ⟨hleaf, hverify⟩
        rcases hrows.keys proof hproof with ⟨hpool, hkey⟩
        refine ⟨hleaf, ?_, ⟨pool, id, root, count.toNat⟩, by simp [hroots], hpool.symm,
          hkey.symm, ?_⟩
        · have hmem : proof.commitment ∈ leavesOf db pool id := by
            rw [← hrows.commitments]
            exact List.mem_map_of_mem hproof
          simp only [leavesOf, Store.ticketsOf, mem_sortDigests, List.mem_map,
            Table.mem_select] at hmem
          rcases hmem with ⟨ticket, ⟨hticket, -⟩, hcommitment⟩
          exact ⟨ticket, hticket, hcommitment⟩
        · intro other hother
          rwa [asI64_inj hother hid]
    | _ => exact absurd hproof hold

/-! ## Later calls -/

/-- A seal call for a round with a root returns the root and changes nothing. -/
theorem perform_sealCohort_of_mem (h : Blake3 D) {db : Database D} {row : CohortRootRow D}
    {roundId : UInt64} {count : UInt32} (hrow : row ∈ db.cohortRoots.rows)
    (hid : asI64 roundId = .ok row.roundId) (hcount : row.cohortSize = count.toNat)
    (minimum : UInt32) :
    (StoreCall.sealCohort row.poolId roundId minimum).perform h db =
      (.ok (.sealed row.root count), db) := by
  have hread := Store.root_of_mem hrow hid (u32Column_eq_ok.mpr hcount)
  simp only [StoreCall.perform, Store.sealCohort, Sessions.bind_eq_ok, Sessions.pure_eq_ok]
  exact ⟨(row.root, count), db, ⟨_, db, hread, by simp⟩, rfl, rfl⟩

/-- A schedule call for a scheduled round succeeds for the stored pair only. -/
theorem perform_scheduleRelease_of_mem (h : Blake3 D) {db : Database D}
    {row : ReleaseScheduleRow D} {roundId release finish : UInt64}
    (hrow : row ∈ db.releaseSchedules.rows) (hid : asI64 roundId = .ok row.roundId)
    (hrelease : asI64 release = .ok row.releaseSlot)
    (hfinish : asI64 finish = .ok row.windowEndSlot) (release' finish' : UInt64) :
    ((StoreCall.scheduleRelease row.poolId roundId release' finish').perform h db).1 =
      .ok .stored ↔ release' = release ∧ finish' = finish := by
  have hread := Store.schedule_of_mem hrow hid (u64Column_of_asI64 hrelease)
    (u64Column_of_asI64 hfinish)
  constructor
  · intro hok
    have hperform : (StoreCall.scheduleRelease row.poolId roundId release' finish').perform h db =
        (.ok .stored, _) := Prod.ext hok rfl
    simp only [StoreCall.perform, Store.scheduleRelease, Sessions.bind_eq_ok,
      Sessions.pure_eq_ok] at hperform
    rcases hperform with ⟨_, _, ⟨existing, _, hread', hcheck⟩, _⟩
    rw [hread] at hread'
    cases hread'
    simp only [lift_eq_ok, Fallible.failIf_eq_ok, ne_eq, not_not, Prod.mk.injEq] at hcheck
    exact ⟨hcheck.1.1.symm, hcheck.1.2.symm⟩
  · rintro ⟨rfl, rfl⟩
    have hperform : (StoreCall.scheduleRelease row.poolId roundId release' finish').perform h db =
        (.ok .stored, db) := by
      simp only [StoreCall.perform, Store.scheduleRelease, Sessions.bind_eq_ok,
        Sessions.pure_eq_ok]
      refine ⟨⟨⟩, db, ⟨_, db, hread, ?_⟩, trivial, rfl⟩
      simp [Fallible.failIf_eq_ok]
    rw [hperform]

/-- Every root in the database belongs to an intact cohort. -/
theorem sealed_cohort_intact {row : CohortRootRow D}
    (hrow : row ∈ (storeAfter h calls).cohortRoots.rows) :
    ∃ roundId count, IntactCohort h calls row roundId count := by
  rcases root_sealed hrow with
    ⟨v, hv, roundId, minimum, count, cohort, proofs, hwritten, hsealing⟩
  rcases mem_storeHistory.mp hv with ⟨earlier, later, hcalls, hbefore, hafter⟩
  have hold : row ∉ v.before.cohortRoots.rows :=
    fun hmem => hsealing.fresh row hmem ⟨rfl, rfl⟩
  -- from the sealing on, the proofs are those that it wrote
  have hproofs : proofsOf (storeAfter h calls) row.poolId row.roundId = proofs := by
    rw [hcalls, storeAfter_append, Runs.run_cons, ← hbefore, ← hafter, proofsOf_run hwritten,
      hsealing.proofsOf_eq (proofs_rooted hv)]
  refine ⟨roundId, count, ⟨hsealing.roundId_eq, hsealing.cohortSize_eq⟩,
    ⟨v, hv, minimum, hsealing.call_eq, hold, hwritten, hsealing.reply_eq, hsealing.minimum_le⟩,
    hsealing.count_pos, ?_, ?_, ?_, ?_, ?_, ?_, ?_⟩
  · rw [hproofs, hsealing.proofs_length]
  · rw [hproofs]
    exact hsealing.proofs_nodup
  · intro proof hproof
    rw [hproofs] at hproof
    rcases hsealing.ticket_of_proof hproof with ⟨ticket, hticket, hpool, hid, hcommitment⟩
    rw [hbefore] at hticket
    rcases ticket_accepted hticket with ⟨w, hw, accepted, id, hinput, hreply, hid', rfl⟩
    refine ⟨w, ?_, accepted, hinput, ?_, hcommitment, hpool, ?_⟩
    · rw [hcalls]
      exact storeHistory_append_subset hw _
    · rw [hreply, hcommitment]
    · exact asI64_inj (hid'.trans (congrArg Except.ok hid)) hsealing.roundId_eq
  · intro proof hproof
    rw [hproofs] at hproof
    exact hsealing.verify hproof
  · intro later
    refine ⟨(grows_append h calls later).roots hrow, ?_⟩
    rw [storeAfter_append]
    exact proofsOf_run hrow later
  · intro later minimum'
    exact perform_sealCohort_of_mem h ((grows_append h calls later).roots hrow)
      hsealing.roundId_eq hsealing.cohortSize_eq minimum'
  · intro schedule hschedule hpool hid
    rcases schedule_written hschedule with ⟨release, finish, hrelease, hfinish⟩
    refine ⟨release, finish, hrelease, hfinish, ?_⟩
    intro later
    have hkept := (grows_append h calls later).schedules hschedule
    refine ⟨hkept, ?_⟩
    intro release' finish'
    rw [← hpool]
    exact perform_scheduleRelease_of_mem h hkept (by rw [hsealing.roundId_eq, hid]) hrelease
      hfinish release' finish'

/-- Tickets are accepted, once too often and once too late; the cohort is sealed
and scheduled, and after a restart both are tried again. -/
def demoStoreCalls : List (StoreCall Nat) :=
  [.acceptTicket (sampleTicket 1 2 3 1), .acceptTicket (sampleTicket 1 2 3 2),
    .acceptTicket (sampleTicket 1 2 3 1), .sealCohort 1 7 2,
    .acceptTicket (sampleTicket 1 2 3 4), .scheduleRelease 1 7 20 30, .reopen,
    .sealCohort 1 7 9, .scheduleRelease 1 7 21 30]

theorem sealed_cohort_intact_demo :
    ∃ row ∈ (storeAfter Blake3.checksum demoStoreCalls).cohortRoots.rows,
      ∃ roundId count, IntactCohort Blake3.checksum demoStoreCalls row roundId count := by
  have hone : 0 < (storeAfter Blake3.checksum demoStoreCalls).cohortRoots.rows.length := by
    decide +kernel
  rcases List.exists_mem_of_length_pos hone with ⟨row, hrow⟩
  exact ⟨row, hrow, sealed_cohort_intact hrow⟩

end MirrorPool
