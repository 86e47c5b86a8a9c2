import MirrorPool.Client.Opening
import MirrorPool.Crypto.Issuance
import MirrorPool.Merkle.Binding
import MirrorPool.Store.SealedCohorts

/-!
# Cohorts on the side of the participants

A participant who has the tickets of a round builds the cohort again, in
whatever order the tickets came, and compares the root with the one that was
sealed.  The two agree on the tickets that were accepted before the sealing, and
they do not agree once a ticket was accepted after it.

Main results:

- Definitions {lit}`buildMerkleCohort`, {lit}`generateCohortProof` and
  {lit}`verifyCohortProof`: what participants do with tickets and proofs.
- Theorem {lit}`participants_join`: participants join a round by the functions of
  the client alone.
- Theorem {lit}`ticketsOf_storeAfter`: the ticket rows of a round are the accepted
  tickets in order.
- Theorem {lit}`cohort_rebuilt`: from the tickets before the sealing participants
  get the sealed root and the stored proofs.
- Theorem {lit}`rebuilt_root_iff`: from all tickets they get the sealed root
  exactly when none came late.
-/

namespace MirrorPool

open Fallible Sessions Tables

variable {D : Type} [LinearOrder D] {h : Blake3 D}

/-! ## Functions of the client -/

/-- Create a ticket without an activity-wallet identifier; the nonce stays with the
participant. -/
def createJoinTicket (h : Blake3 D) (scheme : SignatureScheme) (nonce : Vector UInt8 32)
    (signingKey : scheme.SigningKey) (binding : TicketBinding D) (expirySlot : UInt64) :
    JoinTicket D × Vector UInt8 32 :=
  JoinTicket.create h scheme nonce signingKey binding.poolId binding.roundId
    binding.actionTemplateHash expirySlot

/-- Verify a signed ticket. -/
def verifyJoinTicket (h : Blake3 D) (ed : Ed25519) (ticket : JoinTicket D) (slot : UInt64)
    (binding : TicketBinding D) : Except ClientError Unit :=
  (ticket.verify h ed slot binding).mapError fun _ => ClientError.ticket

/-- Build a deterministic cohort.  The commitment of a ticket does not fail. -/
def buildMerkleCohort (h : Blake3 D) (tickets : List (JoinTicket D)) :
    Except ClientError (MerkleCohort h) :=
  (MerkleCohort.build h (tickets.map (·.commitment h))).mapError fun _ => ClientError.merkle

/-- Generate an inclusion proof. -/
def generateCohortProof (cohort : MerkleCohort h) (ticket : JoinTicket D) (round : UInt64) :
    Option (Except ClientError (CohortProof D)) :=
  (cohort.proof (ticket.commitment h) round).map fun generated =>
    generated.mapError fun _ => ClientError.merkle

/-- Verify an inclusion proof. -/
def verifyCohortProof (h : Blake3 D) (proof : CohortProof D) (root : D) (round : UInt64) :
    Except ClientError Unit :=
  (proof.verify h root round).mapError fun _ => ClientError.merkle

theorem buildMerkleCohort_eq_ok {tickets : List (JoinTicket D)} {cohort : MerkleCohort h} :
    buildMerkleCohort h tickets = .ok cohort ↔
      MerkleCohort.build h (tickets.map (·.commitment h)) = .ok cohort :=
  mapError_eq_ok

theorem generateCohortProof_eq_ok {cohort : MerkleCohort h} {ticket : JoinTicket D}
    {round : UInt64} {proof : CohortProof D} :
    generateCohortProof cohort ticket round = some (.ok proof) ↔
      cohort.proof (ticket.commitment h) round = some (.ok proof) := by
  simp only [generateCohortProof, Option.map_eq_some_iff, mapError_eq_ok, exists_eq_right]

theorem verifyCohortProof_eq_ok {proof : CohortProof D} {root : D} {round : UInt64} {u : Unit} :
    verifyCohortProof h proof root round = .ok u ↔ proof.verify h root round = .ok u :=
  mapError_eq_ok

/-- The leaves of a cohort that participants build are those of their tickets. -/
theorem mem_leaves_of_tickets {tickets : List (JoinTicket D)} {cohort : MerkleCohort h} {digest : D}
    (hbuild : buildMerkleCohort h tickets = .ok cohort) :
    digest ∈ cohort.leaves ↔ ∃ ticket ∈ tickets, ticket.commitment h = digest := by
  rw [MerkleCohort.mem_leaves_of_build (buildMerkleCohort_eq_ok.mp hbuild), List.mem_map]

/-- The leaves of a cohort that participants build are commitments. -/
theorem areCommitments_of_build {tickets : List (JoinTicket D)} {cohort : MerkleCohort h}
    (hbuild : buildMerkleCohort h tickets = .ok cohort) :
    MerkleCohort.AreCommitments h cohort.leaves := by
  intro digest hdigest
  rcases (mem_leaves_of_tickets hbuild).mp hdigest with ⟨ticket, -, hcommitment⟩
  exact ⟨ticket, hcommitment⟩

/-! ## Participants among themselves -/

section Participants

variable {scheme : SignatureScheme} {binding : TicketBinding D} {expirySlot : UInt64}
variable {participants : List (scheme.SigningKey × Vector UInt8 32)}

/-- The tickets of some participants, each with a signing key and a nonce. -/
def ticketsFor (h : Blake3 D) (scheme : SignatureScheme) (binding : TicketBinding D)
    (expirySlot : UInt64) (participants : List (scheme.SigningKey × Vector UInt8 32)) :
    List (JoinTicket D) :=
  participants.map fun (signingKey, nonce) =>
    (createJoinTicket h scheme nonce signingKey binding expirySlot).1

omit [LinearOrder D] in
/-- Tickets under different keys have different commitments. -/
theorem commitments_ticketsFor (hfree : h.CollisionFree)
    (hkeys : (participants.map (scheme.verifyingKey ·.1)).Nodup) :
    ((ticketsFor h scheme binding expirySlot participants).map (·.commitment h)).Nodup := by
  refine List.Nodup.map (JoinTicket.commitment_injective hfree) ?_
  refine List.Nodup.of_map JoinTicket.coordinationPublicKey ?_
  rw [ticketsFor, List.map_map]
  exact hkeys

/-- Participants with different keys join a round by the functions of the client
alone: before the expiry each of their tickets verifies, the tickets make a
cohort, each participant gets a proof that verifies against its root, and a
proof that verifies for any ticket whatsoever shows that it is one of theirs. -/
theorem participants_join (hfree : h.CollisionFree) (hnonempty : participants ≠ [])
    (hbound : participants.length ≤ maxLeaves)
    (hkeys : (participants.map (scheme.verifyingKey ·.1)).Nodup) (round : UInt64) :
    (∀ slot < expirySlot, ∀ ticket ∈ ticketsFor h scheme binding expirySlot participants,
      verifyJoinTicket h scheme.toEd25519 ticket slot binding = .ok ()) ∧
    ∃ cohort root,
      buildMerkleCohort h (ticketsFor h scheme binding expirySlot participants) = .ok cohort ∧
      cohort.root = .ok root ∧
      (∀ ticket ∈ ticketsFor h scheme binding expirySlot participants, ∃ proof,
        generateCohortProof cohort ticket round = some (.ok proof) ∧
          proof.leafHash = ticket.commitment h ∧
          verifyCohortProof h proof root round = .ok ()) ∧
      ∀ (ticket : JoinTicket D) proof, proof.leafHash = ticket.commitment h →
        verifyCohortProof h proof root round = .ok () →
        ticket ∈ ticketsFor h scheme binding expirySlot participants := by
  refine ⟨?_, ?_⟩
  · intro slot hslot ticket hticket
    rcases List.mem_map.mp hticket with ⟨⟨signingKey, nonce⟩, -, rfl⟩
    exact mapError_eq_ok.mpr (JoinTicket.verify_create.mpr hslot)
  · have hlength : ((ticketsFor h scheme binding expirySlot participants).map
        (·.commitment h)).length = participants.length := by
      simp [ticketsFor]
    have hsome : (ticketsFor h scheme binding expirySlot participants).map (·.commitment h) ≠ [] :=
      List.ne_nil_of_length_pos (hlength ▸ List.length_pos_of_ne_nil hnonempty)
    rcases MerkleCohort.exists_build h hsome (hlength ▸ hbound)
      (commitments_ticketsFor hfree hkeys) with ⟨cohort, hcohort⟩
    have hbuild := buildMerkleCohort_eq_ok.mpr hcohort
    rcases cohort.exists_root with ⟨root, -, hroot⟩
    refine ⟨cohort, root, hbuild, hroot, ?_, ?_⟩
    · intro ticket hticket
      have hleaf := (mem_leaves_of_tickets hbuild).mpr ⟨ticket, hticket, rfl⟩
      rcases cohort.exists_proof hleaf hroot round with ⟨proof, hproof, hhash, -, -, hverify⟩
      exact ⟨proof, generateCohortProof_eq_ok.mpr hproof, hhash,
        verifyCohortProof_eq_ok.mpr hverify⟩
    · intro ticket proof hhash hverified
      have hclimb := (CohortProof.verify_eq_ok.mp (verifyCohortProof_eq_ok.mp hverified)).2.2
      have hwithin : PairTree.Within (parent h) (ticket.commitment h) root := by
        rw [← hhash, ← hclimb]
        exact PairTree.within_climb _ _ _ _
      have hmem := MerkleCohort.mem_of_within hfree (areCommitments_of_build hbuild) hroot
        ⟨ticket, rfl⟩ hwithin
      rcases (mem_leaves_of_tickets hbuild).mp hmem with ⟨other, hother, hsame⟩
      rwa [← JoinTicket.commitment_injective hfree hsame]

end Participants

/-- A scheme with a key for each byte, which is also its signature. -/
def byteScheme : SignatureScheme where
  isVerifyingKey _ := true
  SigningKey := UInt8
  verifyingKey key := .replicate 32 key
  sign key _ := .replicate 64 key
  accepts publicKey _ signature := signature == List.replicate 64 publicKey[0]
  isVerifyingKey_verifyingKey _ := rfl
  accepts_sign key _ := by simp

/-- Two participants with the keys one and two. -/
def demoParticipants : List (byteScheme.SigningKey × Vector UInt8 32) :=
  [((1 : UInt8), .replicate 32 5), ((2 : UInt8), .replicate 32 6)]

/-- What their tickets are bound to. -/
def demoBinding : TicketBinding (List (Fin 256)) where
  poolId := (MerkleCohort.demoTicket 1).poolId
  roundId := 7
  actionTemplateHash := (MerkleCohort.demoTicket 1).actionTemplateHash

/-- The tickets of the two participants. -/
def demoIssued : List (JoinTicket (List (Fin 256))) :=
  ticketsFor Blake3.verbatim byteScheme demoBinding 100 demoParticipants

theorem participants_join_demo :
    (∀ slot < 100, ∀ ticket ∈ demoIssued,
      verifyJoinTicket Blake3.verbatim byteScheme.toEd25519 ticket slot demoBinding = .ok ()) ∧
    ∃ cohort root, buildMerkleCohort Blake3.verbatim demoIssued = .ok cohort ∧
      cohort.root = .ok root ∧
      (∀ ticket ∈ demoIssued, ∃ proof, generateCohortProof cohort ticket 7 = some (.ok proof) ∧
        proof.leafHash = ticket.commitment Blake3.verbatim ∧
        verifyCohortProof Blake3.verbatim proof root 7 = .ok ()) ∧
      ∀ (ticket : JoinTicket (List (Fin 256))) proof,
        proof.leafHash = ticket.commitment Blake3.verbatim →
        verifyCohortProof Blake3.verbatim proof root 7 = .ok () → ticket ∈ demoIssued := by
  have hkeys : (demoParticipants.map (byteScheme.verifyingKey ·.1)).Nodup := by
    show [Vector.replicate 32 (1 : UInt8), Vector.replicate 32 2].Nodup
    decide
  exact participants_join Blake3.verbatim_collisionFree (by simp [demoParticipants])
    (by simp [demoParticipants, maxLeaves]) hkeys 7

/-! ## Accepted tickets -/

/-- The ticket of a round that a visit accepted. -/
def StoreVisit.acceptedFor (h : Blake3 D) (pool : D) (roundId : UInt64) (v : StoreVisit D) :
    Option (JoinTicket D) :=
  match v.input, v.reply h with
  | .acceptTicket ticket, .ok _ =>
      if ticket.poolId = pool ∧ ticket.roundId = roundId then some ticket else none
  | _, _ => none

/-- The tickets of a round that were accepted, in order. -/
def acceptedTickets (h : Blake3 D) (pool : D) (roundId : UInt64) (visits : List (StoreVisit D)) :
    List (JoinTicket D) :=
  visits.filterMap (StoreVisit.acceptedFor h pool roundId)

/-- The visits that find a root. -/
def visitsWith (row : CohortRootRow D) (visits : List (StoreVisit D)) : List (StoreVisit D) :=
  visits.filter fun v => row ∈ v.before.cohortRoots.rows

/-- The visits that do not find it yet. -/
def visitsWithout (row : CohortRootRow D) (visits : List (StoreVisit D)) : List (StoreVisit D) :=
  visits.filter fun v => row ∉ v.before.cohortRoots.rows

section Tickets

variable {pool : D} {roundId : UInt64} {id : Int} {calls : List (StoreCall D)}

/-- A call adds the row of the ticket that it accepts. -/
theorem StoreStep.ticketsOf_eq (v : StoreVisit D) (pool : D) (hid : asI64 roundId = .ok id)
    (hstep : StoreStep h v.input (v.reply h) v.before v.after) :
    Store.ticketsOf v.after pool id = Store.ticketsOf v.before pool id ++
      (v.acceptedFor h pool roundId).toList.map (ticketRow h · id) := by
  unfold StoreVisit.acceptedFor
  generalize v.input = call at hstep ⊢
  generalize v.reply h = reply at hstep ⊢
  generalize v.before = before at hstep ⊢
  generalize v.after = after at hstep ⊢
  cases hstep with
  | failed => cases call <;> simp
  | @ticketAccepted ticket _ ticketId tickets _ hticket hinsert =>
      have hround : ticketId = id ↔ ticket.roundId = roundId := by
        constructor
        · rintro rfl
          exact asI64_inj hticket hid
        · rintro rfl
          exact Except.ok.inj (hticket.symm.trans hid)
      simp only [Store.ticketsOf, Table.select, (Table.insert_eq_some.mp hinsert).2,
        List.filter_append, List.filter_cons, List.filter_nil]
      by_cases hkey : ticket.poolId = pool ∧ ticket.roundId = roundId
      · have hsame := hround.mpr hkey.2
        subst hsame
        simp [ticketRow, hkey]
      · have hother : ¬(ticket.poolId = pool ∧ ticketId = id) := by rwa [hround]
        simp [ticketRow, hkey, hother]
  | _ => simp [Store.ticketsOf]

/-- The accepted tickets of a round come behind the rows that it had. -/
theorem ticketsOf_run (hid : asI64 roundId = .ok id) (db : Database D) :
    Store.ticketsOf (Runs.run (storeStep h) db calls) pool id = Store.ticketsOf db pool id ++
      (acceptedTickets h pool roundId (Runs.visits (storeStep h) db calls)).map
        (ticketRow h · id) := by
  induction calls generalizing db with
  | nil => simp [acceptedTickets]
  | cons call calls ih =>
      have hstep := StoreStep.ticketsOf_eq (h := h) ⟨db, call, storeStep h db call⟩ pool hid
        (call.storeStep_perform h db)
      rw [Runs.run_cons, ih, hstep, Runs.visits_cons, List.append_assoc, acceptedTickets,
        acceptedTickets, List.filterMap_cons]
      cases StoreVisit.acceptedFor h pool roundId ⟨db, call, storeStep h db call⟩ <;> simp

/-- The ticket rows of a round are the accepted tickets in order. -/
theorem ticketsOf_storeAfter (hid : asI64 roundId = .ok id) :
    Store.ticketsOf (storeAfter h calls) pool id =
      (acceptedTickets h pool roundId (storeHistory h calls)).map (ticketRow h · id) := by
  rw [storeAfter, ticketsOf_run hid]
  simp [Store.ticketsOf, Table.select]

end Tickets

/-! ## The sealing splits the tickets -/

section Splitting

variable {row : CohortRootRow D} {pool : D} {roundId : UInt64} {calls : List (StoreCall D)}

theorem acceptedTickets_append {first second : List (StoreVisit D)} :
    acceptedTickets h pool roundId (first ++ second) =
      acceptedTickets h pool roundId first ++ acceptedTickets h pool roundId second :=
  List.filterMap_append

/-- Before a moment without the root no visit finds it. -/
theorem visits_before (db : Database D)
    (hold : row ∉ (Runs.run (storeStep h) db calls).cohortRoots.rows) :
    visitsWithout row (Runs.visits (storeStep h) db calls) = Runs.visits (storeStep h) db calls ∧
      visitsWith row (Runs.visits (storeStep h) db calls) = [] := by
  have hnone : ∀ v ∈ Runs.visits (storeStep h) db calls, row ∉ v.before.cohortRoots.rows := by
    intro v hv hmem
    rcases Runs.mem_visits.mp hv with ⟨earlier, later, rfl, hbefore, -⟩
    rw [Runs.run_append] at hold
    rw [hbefore] at hmem
    exact hold ((grows_run h _ _).roots hmem)
  constructor
  · exact List.filter_eq_self.mpr fun v hv => decide_eq_true (hnone v hv)
  · exact List.filter_eq_nil_iff.mpr fun v hv => by simpa using hnone v hv

/-- After a moment with the root every visit finds it. -/
theorem visits_after (calls : List (StoreCall D)) {db : Database D}
    (hrow : row ∈ db.cohortRoots.rows) :
    visitsWithout row (Runs.visits (storeStep h) db calls) = [] ∧
      visitsWith row (Runs.visits (storeStep h) db calls) = Runs.visits (storeStep h) db calls := by
  have hall : ∀ v ∈ Runs.visits (storeStep h) db calls, row ∈ v.before.cohortRoots.rows := by
    intro v hv
    rcases Runs.mem_visits.mp hv with ⟨earlier, later, -, hbefore, -⟩
    rw [hbefore]
    exact (grows_run h db earlier).roots hrow
  constructor
  · exact List.filter_eq_nil_iff.mpr fun v hv => by simpa using hall v hv
  · exact List.filter_eq_self.mpr fun v hv => decide_eq_true (hall v hv)

/-- A sealed root splits the history at its sealing: the tickets before it are
those that were sealed, and the rest came late. -/
theorem exists_sealing (hrow : row ∈ (storeAfter h calls).cohortRoots.rows)
    (hid : asI64 roundId = .ok row.roundId) :
    ∃ minimum count cohort proofs, ∃ v ∈ storeHistory h calls,
      row ∈ v.after.cohortRoots.rows ∧
      Sealing h v.input (v.reply h) v.before v.after row roundId minimum count cohort proofs ∧
      Store.ticketsOf v.before row.poolId row.roundId =
        (acceptedTickets h row.poolId roundId
          (visitsWithout row (storeHistory h calls))).map (ticketRow h · row.roundId) ∧
      acceptedTickets h row.poolId roundId (storeHistory h calls) =
        acceptedTickets h row.poolId roundId (visitsWithout row (storeHistory h calls)) ++
          acceptedTickets h row.poolId roundId (visitsWith row (storeHistory h calls)) := by
  rcases root_sealed hrow with
    ⟨v, hv, sealedId, minimum, count, cohort, proofs, hwritten, hsealing⟩
  rcases asI64_inj hsealing.roundId_eq hid with rfl
  have hold : row ∉ v.before.cohortRoots.rows := fun hmem => hsealing.fresh row hmem ⟨rfl, rfl⟩
  rcases mem_storeHistory.mp hv with ⟨earlier, later, hcalls, hbefore, hafter⟩
  have hhistory : storeHistory h calls =
      storeHistory h earlier ++ v :: Runs.visits (storeStep h) v.after later := by
    have hsplit : Runs.run (storeStep h) (Database.opened h) earlier = v.before := hbefore.symm
    rw [hcalls, storeHistory, Runs.visits_append, Runs.visits_cons, hsplit, ← hafter]
  rw [hbefore] at hold
  rcases visits_before (Database.opened h) hold with ⟨hfirst, hfirst'⟩
  rcases visits_after later hwritten with ⟨hrest, hrest'⟩
  rw [← hbefore] at hold
  -- the sealing itself accepts no ticket
  have hseal : v.acceptedFor h row.poolId sealedId = none := by
    rw [StoreVisit.acceptedFor, hsealing.call_eq]
  have hwithout : acceptedTickets h row.poolId sealedId
      (visitsWithout row (storeHistory h calls)) =
        acceptedTickets h row.poolId sealedId (storeHistory h earlier) := by
    rw [hhistory, visitsWithout, List.filter_append, List.filter_cons_of_pos (by simpa using hold)]
    rw [visitsWithout] at hfirst hrest
    rw [hfirst, hrest, acceptedTickets_append]
    simp [acceptedTickets, hseal]
  refine ⟨minimum, count, cohort, proofs, v, hv, hwritten, hsealing, ?_, ?_⟩
  · rw [hwithout, hbefore]
    exact ticketsOf_storeAfter hid
  · rw [hwithout, hhistory, visitsWith, List.filter_append,
      List.filter_cons_of_neg (by simpa using hold)]
    rw [visitsWith] at hfirst' hrest'
    rw [hfirst', hrest', acceptedTickets_append]
    simp [acceptedTickets, hseal]

end Splitting

/-! ## The sealed cohort is built again -/

section Rebuilding

variable {row : CohortRootRow D} {roundId : UInt64} {calls : List (StoreCall D)}
variable {tickets : List (JoinTicket D)}

/-- The leaves of the database are the commitments of the tickets of a round. -/
theorem leavesOf_perm {db : Database D} {pool : D} {id : Int}
    (hrows : Store.ticketsOf db pool id = tickets.map (ticketRow h · id)) :
    (tickets.map (·.commitment h)).Perm (leavesOf db pool id) := by
  have hcommitments : (tickets.map (ticketRow h · id)).map JoinTicketRow.commitment =
      tickets.map (·.commitment h) := by
    simp [ticketRow]
  rw [leavesOf, hrows, hcommitments]
  exact (sortDigests_perm _).symm

/-- From the tickets of a sealing, in any order, the sealed cohort is built. -/
theorem Sealing.rebuild {call : StoreCall D} {reply : Except StoreError (StoreReply D)}
    {db db' : Database D} {minimum count : UInt32} {cohort : MerkleCohort h}
    {proofs : List (CohortProofRow D)} {sealedTickets : List (JoinTicket D)}
    (hsealing : Sealing h call reply db db' row roundId minimum count cohort proofs)
    (hrows : Store.ticketsOf db row.poolId row.roundId =
      sealedTickets.map (ticketRow h · row.roundId)) (hperm : tickets.Perm sealedTickets) :
    (tickets.map (·.commitment h)).Perm (leavesOf db row.poolId row.roundId) ∧
      buildMerkleCohort h tickets = .ok cohort := by
  have hleaves := (hperm.map (·.commitment h)).trans (leavesOf_perm hrows)
  exact ⟨hleaves, buildMerkleCohort_eq_ok.mpr (MerkleCohort.build_of_perm hsealing.build_eq
    hleaves)⟩

/-- A stored proof is found. -/
theorem Store.proof_of_mem {db : Database D} {proof : CohortProofRow D}
    (hproof : proof ∈ db.cohortProofs.rows) (hid : asI64 roundId = .ok proof.roundId) :
    Store.proof proof.poolId roundId proof.commitment db = (.ok (some proof.proofJson), db) := by
  have hfind : db.cohortProofs.rows.find? (fun found => found.poolId = proof.poolId ∧
      found.roundId = proof.roundId ∧ found.commitment = proof.commitment) = some proof :=
    Table.find?_eq_some hproof (by simp)
  simp only [Store.proof, Sessions.bind_eq_ok, lift_eq_ok, query_eq_ok]
  exact ⟨proof.roundId, db, ⟨hid, rfl⟩, by simp only [hfind, Option.map_some], rfl⟩

/-- What a visit wrote is in the database at the end. -/
theorem grows_of_mem_storeHistory {v : StoreVisit D} (hv : v ∈ storeHistory h calls) :
    Grows v.after (storeAfter h calls) := by
  rcases mem_storeHistory.mp hv with ⟨earlier, later, rfl, hbefore, hafter⟩
  rw [storeAfter_append, Runs.run_cons, ← hbefore, ← hafter]
  exact grows_run h v.after later

/-- From the tickets that were accepted before a sealing, in any order,
participants build a cohort with the sealed root and as many leaves as were
counted, and the proof that they generate for a ticket is the one that the
database holds for it. -/
theorem cohort_rebuilt (hrow : row ∈ (storeAfter h calls).cohortRoots.rows)
    (hid : asI64 roundId = .ok row.roundId)
    (hperm : tickets.Perm
      (acceptedTickets h row.poolId roundId (visitsWithout row (storeHistory h calls)))) :
    ∃ cohort : MerkleCohort h, buildMerkleCohort h tickets = .ok cohort ∧
      cohort.root = .ok row.root ∧ row.cohortSize = tickets.length ∧
      ∀ ticket ∈ tickets, ∃ proof,
        generateCohortProof cohort ticket roundId = some (.ok proof) ∧
        verifyCohortProof h proof row.root roundId = .ok () ∧
        Store.proof row.poolId roundId (ticket.commitment h) (storeAfter h calls) =
          (.ok (some proof), storeAfter h calls) := by
  rcases exists_sealing hrow hid with
    ⟨minimum, count, cohort, proofs, v, hv, hwritten, hsealing, hrows, -⟩
  rcases hsealing.rebuild hrows hperm with ⟨hleaves, hbuild⟩
  refine ⟨cohort, hbuild, hsealing.root_eq, ?_, fun ticket hticket => ?_⟩
  · rw [hsealing.cohortSize_eq, ← hsealing.length_eq, ← hleaves.length_eq, List.length_map]
  · have hmem : ticket.commitment h ∈ leavesOf v.before row.poolId row.roundId :=
      hleaves.mem_iff.mp (List.mem_map_of_mem hticket)
    rw [← hsealing.proof_rows.commitments] at hmem
    rcases List.mem_map.mp hmem with ⟨proof, hproof, hcommitment⟩
    have hgenerated := hsealing.proof_rows.generated proof hproof
    have hverify := (hsealing.verify hproof).2
    have hstored : proof ∈ (storeAfter h calls).cohortProofs.rows := by
      refine (grows_of_mem_storeHistory hv).proofs ?_
      rw [hsealing.proofs_eq]
      exact List.mem_append_right _ hproof
    rcases hsealing.proof_rows.keys proof hproof with ⟨hpool, hround⟩
    have hfound := Store.proof_of_mem hstored (hid.trans (congrArg Except.ok hround.symm))
    rw [hpool, hcommitment] at hfound
    rw [hcommitment] at hgenerated
    exact ⟨proof.proofJson, generateCohortProof_eq_ok.mpr hgenerated,
      verifyCohortProof_eq_ok.mpr hverify, hfound⟩

/-- The root of a small history. -/
def demoStoredRow : CohortRootRow Nat where
  poolId := 1
  roundId := 7
  root := 3053
  cohortSize := 2

/-- It is in the database, and two tickets were accepted before it. -/
theorem demoStoredRow_evaluated :
    demoStoredRow ∈ (storeAfter Blake3.checksum demoStoreCalls).cohortRoots.rows ∧
      acceptedTickets Blake3.checksum 1 7
        (visitsWithout demoStoredRow (storeHistory Blake3.checksum demoStoreCalls)) =
          [sampleTicket 1 2 3 1, sampleTicket 1 2 3 2] := by
  decide +kernel

/-- The tickets came in the other order. -/
theorem cohort_rebuilt_demo :
    ∃ cohort : MerkleCohort Blake3.checksum,
      buildMerkleCohort Blake3.checksum [sampleTicket 1 2 3 2, sampleTicket 1 2 3 1] = .ok cohort ∧
      cohort.root = .ok demoStoredRow.root ∧ demoStoredRow.cohortSize = 2 ∧
      ∀ ticket ∈ [sampleTicket 1 2 3 2, sampleTicket 1 2 3 1], ∃ proof,
        generateCohortProof cohort ticket 7 = some (.ok proof) ∧
        verifyCohortProof Blake3.checksum proof demoStoredRow.root 7 = .ok () ∧
        Store.proof 1 7 (ticket.commitment Blake3.checksum)
            (storeAfter Blake3.checksum demoStoreCalls) =
          (.ok (some proof), storeAfter Blake3.checksum demoStoreCalls) := by
  rcases demoStoredRow_evaluated with ⟨hrow, haccepted⟩
  have hperm : [sampleTicket 1 2 3 2, sampleTicket 1 2 3 1].Perm (acceptedTickets Blake3.checksum
      demoStoredRow.poolId 7
      (visitsWithout demoStoredRow (storeHistory Blake3.checksum demoStoreCalls))) := by
    rw [show demoStoredRow.poolId = 1 from rfl, haccepted]
    exact List.Perm.swap _ _ _
  exact cohort_rebuilt hrow rfl hperm

/-- No two accepted tickets of a round have the same commitment. -/
theorem commitments_acceptedTickets (pool : D) (calls : List (StoreCall D)) {id : Int}
    (hid : asI64 roundId = .ok id) :
    ((acceptedTickets h pool roundId (storeHistory h calls)).map (·.commitment h)).Nodup := by
  have hdistinct : ((Store.ticketsOf (storeAfter h calls) pool id).map
      JoinTicketRow.commitment).Nodup := by
    rw [List.Nodup, List.pairwise_map]
    exact ((storeAfter h calls).joinTickets.distinct.filter _).imp
      fun hfree hsame => hfree (Or.inl hsame)
  rw [ticketsOf_storeAfter hid] at hdistinct
  simpa [ticketRow, Function.comp_def] using hdistinct

/-- From all accepted tickets of a round, in any order, participants build a
cohort with the sealed root exactly when no ticket was accepted after the
sealing. -/
theorem rebuilt_root_iff (hfree : h.CollisionFree)
    (hrow : row ∈ (storeAfter h calls).cohortRoots.rows)
    (hid : asI64 roundId = .ok row.roundId)
    (hperm : tickets.Perm (acceptedTickets h row.poolId roundId (storeHistory h calls))) :
    (∃ cohort : MerkleCohort h, buildMerkleCohort h tickets = .ok cohort ∧
      cohort.root = .ok row.root) ↔
      acceptedTickets h row.poolId roundId (visitsWith row (storeHistory h calls)) = [] := by
  rcases exists_sealing hrow hid with
    ⟨minimum, count, cohort, proofs, v, hv, hwritten, hsealing, hrows, hsplit⟩
  constructor
  · rintro ⟨other, hother, hroot⟩
    -- a late ticket would be a leaf of the sealed cohort, which is of earlier tickets
    have hbuild := (hsealing.rebuild hrows (List.Perm.refl _)).2
    have hsubset : other.leaves ⊆ cohort.leaves :=
      MerkleCohort.leaves_subset_of_root_eq hfree (areCommitments_of_build hother)
        (areCommitments_of_build hbuild) hroot hsealing.root_eq
    have hnodup := commitments_acceptedTickets (h := h) row.poolId calls hid
    rw [hsplit, List.map_append, List.nodup_append'] at hnodup
    rw [List.eq_nil_iff_forall_not_mem]
    intro late hlate
    have hleaf : late.commitment h ∈ other.leaves := by
      rw [mem_leaves_of_tickets hother]
      refine ⟨late, hperm.mem_iff.mpr ?_, rfl⟩
      rw [hsplit]
      exact List.mem_append_right _ hlate
    rcases (mem_leaves_of_tickets hbuild).mp (hsubset hleaf) with ⟨early, hearly, hsame⟩
    exact hnodup.2.2 (List.mem_map_of_mem hearly) (hsame ▸ List.mem_map_of_mem hlate)
  · intro hnone
    rw [hsplit, hnone, List.append_nil] at hperm
    exact ⟨cohort, (hsealing.rebuild hrows hperm).2, hsealing.root_eq⟩

end Rebuilding

/-- A ticket is sealed, and another one comes late. -/
def demoJoinCalls : List (StoreCall (List (Fin 256))) :=
  [.acceptTicket (MerkleCohort.demoTicket 1), .sealCohort demoBinding.poolId 7 1,
    .acceptTicket (MerkleCohort.demoTicket 2)]

/-- Both tickets, the late one first. -/
def demoBothTickets : List (JoinTicket (List (Fin 256))) :=
  [MerkleCohort.demoTicket 2, MerkleCohort.demoTicket 1]

/-- The root of the one ticket. -/
def demoJoinedRow : CohortRootRow (List (Fin 256)) where
  poolId := demoBinding.poolId
  roundId := 7
  root := (MerkleCohort.demoTicket 1).commitment Blake3.verbatim
  cohortSize := 1

/-- The root is in the database, and the tickets are split as they should be.  One
evaluation gives all of this. -/
theorem demoJoinCalls_evaluated :
    demoJoinedRow ∈ (storeAfter Blake3.verbatim demoJoinCalls).cohortRoots.rows ∧
      acceptedTickets Blake3.verbatim demoJoinedRow.poolId 7
        (visitsWith demoJoinedRow (storeHistory Blake3.verbatim demoJoinCalls)) =
          [MerkleCohort.demoTicket 2] ∧
      acceptedTickets Blake3.verbatim demoJoinedRow.poolId 7
        (storeHistory Blake3.verbatim demoJoinCalls) = demoBothTickets.reverse := by
  decide +kernel

/-- With the late ticket nobody gets the sealed root. -/
theorem rebuilt_root_iff_demo :
    ¬∃ cohort : MerkleCohort Blake3.verbatim,
      buildMerkleCohort Blake3.verbatim demoBothTickets = .ok cohort ∧
        cohort.root = .ok demoJoinedRow.root := by
  rcases demoJoinCalls_evaluated with ⟨hrow, hlate, haccepted⟩
  have hperm : demoBothTickets.Perm (acceptedTickets Blake3.verbatim demoJoinedRow.poolId 7
      (storeHistory Blake3.verbatim demoJoinCalls)) := by
    rw [haccepted]
    exact (List.reverse_perm _).symm
  rw [rebuilt_root_iff Blake3.verbatim_collisionFree hrow rfl hperm, hlate]
  simp

end MirrorPool
