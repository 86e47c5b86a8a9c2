import MirrorPool.Coordinator.Admission
import MirrorPool.Library.Simulation

/-!
# What a coordinator is for

Behind its tables a coordinator keeps a register of one round: the tickets that it
took, in order, and the cohort that it sealed, if there is one.  The register
knows no rows, no columns and no stored proofs; it counts its tickets, builds the
cohort when it is asked to, and generates proofs on demand.  The coordinator and
the register give the same replies in every history, those of failures included.

Main results:

- Definition {lit}`Register.perform`: the calls of a coordinator on a register.
- Definition {lit}`Represents`: how the tables hold a register.
- Theorem {lit}`simulates_register`: the tables simulate the register.
- Theorem {lit}`replies_of_register`: in every history the replies are those of the
  register.
-/

namespace MirrorPool

open Fallible Sessions Tables

variable {D : Type} [LinearOrder D]

/-! ## The register -/

/-- The tickets of a round in the order in which they were taken, and the cohort
that was sealed.  In front of them are the rate limiter and the tickets that
wait. -/
structure Register (h : Blake3 D) where
  rate : RateState
  waiting : List (JoinTicket D)
  accepted : List (JoinTicket D)
  cohort : Option (MerkleCohort h)

namespace Register

variable {h : Blake3 D}

/-- An empty register. -/
def fresh (h : Blake3 D) (now : Instant) : Register h where
  rate := { windowStarted := now, accepted := 0 }
  waiting := []
  accepted := []
  cohort := none

/-- A ticket with the commitment or with the key of another one. -/
def Repeats (h : Blake3 D) (ticket other : JoinTicket D) : Prop :=
  other.commitment h = ticket.commitment h ∨
    other.coordinationPublicKey = ticket.coordinationPublicKey

instance (ticket other : JoinTicket D) : Decidable (Repeats h ticket other) :=
  inferInstanceAs (Decidable (_ ∨ _))

/-- Take a ticket while there is room, unless it repeats one that was taken. -/
def accept (config : CoordinatorConfig D) (ticket : JoinTicket D) :
    Session (Register h) CoordinatorError D := fun r =>
  if config.maximumParticipants.toNat ≤ r.accepted.length then
    (.error .cohortFull, r)
  else if ∃ other ∈ r.accepted, Repeats h ticket other then
    (.error (.store .duplicateTicket), r)
  else
    (.ok (ticket.commitment h), { r with accepted := r.accepted ++ [ticket] })

/-- The root and the size of a cohort. -/
def sealedReply (cohort : MerkleCohort h) : Except CoordinatorError (CoordinatorReply D) :=
  match cohort.root with
  | .ok root => .ok (.sealed root (.ofNat cohort.leaves.length))
  | .error _ => .error (.store .merkle)

/-- Seal the cohort of the tickets, once there are enough of them.  A cohort that
was sealed stays. -/
def sealCohort (config : CoordinatorConfig D) :
    Session (Register h) CoordinatorError (CoordinatorReply D) := fun r =>
  match r.cohort with
  | some cohort => (sealedReply cohort, r)
  | none =>
      if r.accepted.length < config.minimumParticipants.toNat then
        (.error (.store .thresholdNotReached), r)
      else
        match MerkleCohort.build h (r.accepted.map (·.commitment h)) with
        | .error _ => (.error (.store .merkle), r)
        | .ok cohort => (sealedReply cohort, { r with cohort := some cohort })

/-- Generate the proof of a member of the sealed cohort. -/
def proofOf (roundId : UInt64) (commitment : D) (r : Register h) : Option (CohortProof D) :=
  r.cohort.bind fun cohort => (cohort.proof commitment roundId).bind Except.toOption

/-- Perform a call on a register. -/
def perform (ed : Ed25519) (config : CoordinatorConfig D) :
    CoordinatorCall D → Session (Register h) CoordinatorError (CoordinatorReply D)
  | .submit ticket currentSlot now resetAt => fun r =>
      match checkRate config now resetAt r.rate with
      | (.error error, rate) => (.error error, { r with rate })
      | (.ok _, rate) =>
          match ticket.verify h ed currentSlot config.binding with
          | .error _ => (.error .invalidTicket, { r with rate })
          | .ok _ => (.ok .waiting, { r with rate, waiting := r.waiting ++ [ticket] })
  | .admitWaiting position => fun r =>
      match r.waiting[position]? with
      | none => (.ok .nobody, r)
      | some ticket =>
          let (reply, after) := accept config ticket r
          (reply.map .submitted, { after with waiting := r.waiting.eraseIdx position })
  | .abandon position => fun r =>
      (.ok .abandoned, { r with waiting := r.waiting.eraseIdx position })
  | .sealCohort => sealCohort config
  | .proof commitment => fun r =>
      (.ok (.proof (r.proofOf config.binding.roundId commitment)), r)
  | .restart now => fun r =>
      (.ok .restarted, { r with rate := { windowStarted := now, accepted := 0 }, waiting := [] })

end Register

/-! ## Tables that hold a register -/

/-- The tables hold a register under the number of its round: each ticket has a
row, the sealed cohort has its root, and the stored proofs are those that the
register would generate. -/
structure Represents (config : CoordinatorConfig D) (id : Int) {h : Blake3 D} (s : Coordinator D)
    (r : Register h) : Prop where
  rate : s.rate = r.rate
  waiting : s.waiting = r.waiting
  tickets : s.store.joinTickets.rows = r.accepted.map (ticketRow h · id)
  own : ∀ ticket, ticket ∈ r.waiting ∨ ticket ∈ r.accepted →
    ticket.poolId = config.binding.poolId ∧ ticket.roundId = config.binding.roundId
  room : r.accepted.length ≤ config.maximumParticipants.toNat
  roots : ∀ row, row ∈ s.store.cohortRoots.rows ↔ ∃ cohort root, r.cohort = some cohort ∧
    cohort.root = .ok root ∧ row = ⟨config.binding.poolId, id, root, cohort.leaves.length⟩
  proofs : ∀ row, row ∈ s.store.cohortProofs.rows ↔ row.poolId = config.binding.poolId ∧
    row.roundId = id ∧ r.proofOf config.binding.roundId row.commitment = some row.proofJson

section Represents

variable {config : CoordinatorConfig D} {id : Int} {h : Blake3 D} {s : Coordinator D}
variable {r : Register h}

/-- The tickets of the round are those of the register. -/
theorem Represents.ticketsOf (hrep : Represents config id s r) :
    Store.ticketsOf s.store config.binding.poolId id = r.accepted.map (ticketRow h · id) := by
  rw [Store.ticketsOf, Table.select, hrep.tickets]
  refine List.filter_eq_self.mpr ?_
  intro row hrow
  rcases List.mem_map.mp hrow with ⟨ticket, hticket, rfl⟩
  simp [ticketRow, (hrep.own ticket (.inr hticket)).1]

omit [LinearOrder D] in
/-- The rows of two tickets of the round are in conflict when one repeats the
other. -/
theorem conflict_iff_repeats {ticket other : JoinTicket D} (hpool : other.poolId = ticket.poolId) :
    TicketConflict (ticketRow h other id) (ticketRow h ticket id) ↔
      Register.Repeats h ticket other := by
  simp [TicketConflict, ticketRow, Register.Repeats, hpool]

/-! ## Tickets -/

/-- A ticket in conflict with a row is reported as a duplicate. -/
theorem Store.acceptTicket_of_conflict {ticket : JoinTicket D} {db : Database D}
    (hid : asI64 ticket.roundId = .ok id)
    (hconflict : ∃ row ∈ db.joinTickets.rows, TicketConflict row (ticketRow h ticket id)) :
    Store.acceptTicket h ticket db = (.error .duplicateTicket, db) := by
  have hinsert : db.joinTickets.insert (ticketRow h ticket id) = none := by
    rw [Option.eq_none_iff_forall_ne_some]
    intro inserted hinserted
    rcases hconflict with ⟨row, hrow, hwith⟩
    exact (Table.insert_eq_some.mp hinserted).1 row hrow hwith
  have hwrite : (Database.insertTicket (ticketRow h ticket id) db).mapError Store.ticketError =
      .error .duplicateTicket := by
    rw [Database.insertTicket, Database.insertInto, hinsert]
    rfl
  rw [Store.acceptTicket]
  refine transaction_of_eq_error (t := db) ?_
  rw [bind_of_eq_ok (lift_eq_ok.mpr ⟨hid, rfl⟩)]
  exact bind_of_eq_error (statement_of_eq_error hwrite)

/-- The count that is read is that of the register. -/
theorem Represents.ticketCount (hrep : Represents config id s r)
    (hid : asI64 config.binding.roundId = .ok id) :
    Store.ticketCount config.binding.poolId config.binding.roundId s.store =
      (.ok (.ofNat r.accepted.length), s.store) := by
  have hbound := config.maximumParticipants.toNat_lt
  have hfits := hrep.room
  rw [ticketCount_eq_ok]
  refine ⟨⟨id, hid, ?_⟩, rfl⟩
  rw [hrep.ticketsOf, List.length_map, UInt32.toNat_ofNat_of_lt' (show _ < 2 ^ 32 by omega)]

/-- A ticket is accepted by the tables as by the register. -/
theorem Represents.accept (hrep : Represents config id s r)
    (hid : asI64 config.binding.roundId = .ok id) {ticket : JoinTicket D}
    (hpool : ticket.poolId = config.binding.poolId)
    (hround : ticket.roundId = config.binding.roundId) :
    (admitTicket h config ticket s.store).1 = (Register.accept config ticket r).1 ∧
      Represents config id { s with store := (admitTicket h config ticket s.store).2 }
        (Register.accept config ticket r).2 := by
  have hid' : asI64 ticket.roundId = .ok id := hround ▸ hid
  have hbound := config.maximumParticipants.toNat_lt
  have hroom := hrep.room
  have hword : (UInt32.ofNat r.accepted.length).toNat = r.accepted.length :=
    UInt32.toNat_ofNat_of_lt' (show _ < 2 ^ 32 by omega)
  have hcount : reportAs (Store.ticketCount config.binding.poolId config.binding.roundId)
      CoordinatorError.store s.store = (.ok (.ofNat r.accepted.length), s.store) :=
    reportAs_eq_ok.mpr (hrep.ticketCount hid)
  have hrepeats : (∃ row ∈ s.store.joinTickets.rows, TicketConflict row (ticketRow h ticket id)) ↔
      ∃ other ∈ r.accepted, Register.Repeats h ticket other := by
    simp only [hrep.tickets, List.mem_map, exists_exists_and_eq_and]
    refine exists_congr fun other => and_congr_right fun hother => ?_
    exact conflict_iff_repeats ((hrep.own other (.inr hother)).1.trans hpool.symm)
  rw [Register.accept]
  split
  · rename_i hfull
    have hrun : admitTicket h config ticket s.store = (.error .cohortFull, s.store) := by
      rw [admitTicket, bind_of_eq_ok hcount, failIf_bind,
        if_pos (UInt32.le_iff_toNat_le.mpr (by omega))]
    rw [hrun]
    exact ⟨rfl, hrep⟩
  · rename_i hspace
    split
    · rename_i hrepeated
      have haccept := Store.acceptTicket_of_conflict hid' (hrepeats.mpr hrepeated)
      have hrun : admitTicket h config ticket s.store =
          (.error (.store .duplicateTicket), s.store) := by
        rw [admitTicket, bind_of_eq_ok hcount, failIf_bind,
          if_neg (by rw [UInt32.le_iff_toNat_le]; omega)]
        exact reportAs_of_eq_error haccept
      rw [hrun]
      exact ⟨rfl, hrep⟩
    · rename_i hnew
      have hfree : ∀ row ∈ s.store.joinTickets.rows,
          ¬TicketConflict row (ticketRow h ticket id) := by
        intro row hrow hwith
        exact hnew (hrepeats.mp ⟨row, hrow, hwith⟩)
      have hspace' : (Store.ticketsOf s.store config.binding.poolId id).length <
          config.maximumParticipants.toNat := by
        rw [hrep.ticketsOf, List.length_map]
        omega
      rcases exists_admitTicket ⟨⟨id, hid, hspace'⟩, id, hid', hfree⟩ with ⟨db', hrun⟩
      rcases admitTicket_eq_ok hrun with ⟨-, -, id'', tickets, events, hid'', hrows, rfl⟩
      rcases Except.ok.inj (hid'.symm.trans hid'') with rfl
      rw [hrun]
      refine ⟨rfl, hrep.rate, hrep.waiting, ?_, ?_, ?_, hrep.roots, hrep.proofs⟩
      · rw [hrows, hrep.tickets, List.map_append, List.map_singleton]
      · rintro other (hwaiting | hother)
        · exact hrep.own other (.inl hwaiting)
        · rcases List.mem_append.mp hother with hold | hlast
          · exact hrep.own other (.inr hold)
          · rw [List.mem_singleton.mp hlast]
            exact ⟨hpool, hround⟩
      · rw [List.length_append, List.length_singleton]
        omega

end Represents

/-! ## Seals -/

namespace Store

variable {h : Blake3 D} {pool : D} {roundId : UInt64} {id : Int} {minimum : UInt32}
variable {db : Database D}

/-- No root is found in a round without one. -/
theorem root_of_fresh (hid : asI64 roundId = .ok id)
    (hfresh : ∀ row ∈ db.cohortRoots.rows, ¬(row.poolId = pool ∧ row.roundId = id)) :
    root pool roundId db = (.ok none, db) := by
  have hfind : db.cohortRoots.rows.find? (fun row => row.poolId = pool ∧ row.roundId = id) =
      none := by
    simpa using hfresh
  rw [root, bind_of_eq_ok (lift_eq_ok.mpr ⟨hid, rfl⟩), query]
  simp only [hfind]

theorem sealCohort_of_none (hread : root pool roundId db = (.ok none, db)) :
    sealCohort h pool roundId minimum db = transaction (sealTickets h pool roundId minimum) db := by
  rw [sealCohort, bind_of_eq_ok hread]

/-- The leaves that a sealing reads. -/
theorem read_leaves : (query fun db => .ok (sortDigests ((ticketsOf db pool id).map
    JoinTicketRow.commitment)) : StoreSession D (List D)) db = (.ok (leavesOf db pool id), db) :=
  rfl

/-- With too few tickets nothing is sealed. -/
theorem sealTickets_of_lt (hid : asI64 roundId = .ok id)
    (hbelow : (leavesOf db pool id).length < minimum.toNat) :
    sealTickets h pool roundId minimum db = (.error .thresholdNotReached, db) := by
  have hbound := minimum.toNat_lt
  have hword : (UInt32.ofNat (leavesOf db pool id).length).toNat = (leavesOf db pool id).length :=
    UInt32.toNat_ofNat_of_lt' (show _ < 2 ^ 32 by omega)
  rw [sealTickets, bind_of_eq_ok (lift_eq_ok.mpr ⟨hid, rfl⟩), bind_of_eq_ok read_leaves,
    failIf_bind, if_neg (by omega), failIf_bind, if_pos (UInt32.lt_iff_toNat_lt.mpr (by omega))]

/-- Tickets that make no cohort are not sealed. -/
theorem sealTickets_of_build_error (hid : asI64 roundId = .ok id)
    (hfits : (leavesOf db pool id).length < 2 ^ 32)
    (hminimum : minimum.toNat ≤ (leavesOf db pool id).length) {error : MerkleError}
    (hbuild : MerkleCohort.build h (leavesOf db pool id) = .error error) :
    sealTickets h pool roundId minimum db = (.error .merkle, db) := by
  have hword : (UInt32.ofNat (leavesOf db pool id).length).toNat = (leavesOf db pool id).length :=
    UInt32.toNat_ofNat_of_lt' hfits
  rw [sealTickets, bind_of_eq_ok (lift_eq_ok.mpr ⟨hid, rfl⟩), bind_of_eq_ok read_leaves,
    failIf_bind, if_neg (by omega), failIf_bind, if_neg (by rw [UInt32.lt_iff_toNat_lt]; omega)]
  exact bind_of_eq_error (lift_of_eq_error (by rw [hbuild]; rfl))

/-- The proofs of distinct leaves are all written, where there were none. -/
theorem exists_persistProofs {cohort : MerkleCohort h} (hid : asI64 roundId = .ok id)
    {leaves : List D} (hleaves : leaves ⊆ cohort.leaves) (hnodup : leaves.Nodup)
    (hfree : ∀ row ∈ db.cohortProofs.rows, ¬(row.poolId = pool ∧ row.roundId = id)) :
    ∃ db', (forM leaves (persistProof cohort pool roundId) : StoreSession D Unit) db =
      (.ok (), db') := by
  -- the proofs of the leaves that are still to come are not there
  let Inv : List D → Database D → Prop := fun rest current =>
    rest ⊆ cohort.leaves ∧ rest.Nodup ∧ ∀ row ∈ current.cohortProofs.rows,
      ∀ leaf ∈ rest, ¬(row.poolId = pool ∧ row.roundId = id ∧ row.commitment = leaf)
  have hstart : Inv leaves db :=
    ⟨hleaves, hnodup, fun row hrow _ _ hkey => hfree row hrow ⟨hkey.1, hkey.2.1⟩⟩
  refine exists_forM Inv ?_ hstart
  rintro leaf rest current ⟨hmembers, hdistinct, hunwritten⟩
  rw [List.nodup_cons] at hdistinct
  rcases cohort.exists_root with ⟨root, -, hroot⟩
  rcases cohort.exists_proof (hmembers List.mem_cons_self) hroot roundId with
    ⟨proof, hproof, -⟩
  have hnew : ∀ row ∈ current.cohortProofs.rows, ¬SameKey
      (fun row : CohortProofRow D => (row.poolId, row.roundId, row.commitment)) row
      ⟨pool, id, leaf, proof⟩ := by
    intro row hrow hkey
    simp only [SameKey, Prod.mk.injEq] at hkey
    exact hunwritten row hrow leaf List.mem_cons_self hkey
  rcases Table.exists_insert hnew with ⟨proofs, hinsert⟩
  refine ⟨{ current with cohortProofs := proofs }, ?_, ?_, hdistinct.2, ?_⟩
  · rw [persistProof, bind_of_eq_ok (lift_eq_ok.mpr ⟨okOr_eq_ok.mpr hproof, rfl⟩),
      bind_of_eq_ok (lift_eq_ok.mpr ⟨mapError_eq_ok.mpr rfl, rfl⟩),
      bind_of_eq_ok (lift_eq_ok.mpr ⟨hid, rfl⟩), execute_eq_ok, Database.insertProof,
      Database.insertInto, hinsert]
    rfl
  · exact fun other hother => hmembers (List.mem_cons_of_mem _ hother)
  · intro row hrow other hother hkey
    rw [(Table.insert_eq_some.mp hinsert).2] at hrow
    rcases List.mem_append.mp hrow with hold | hlast
    · exact hunwritten row hold other (List.mem_cons_of_mem _ hother) hkey
    · rw [List.mem_singleton.mp hlast] at hkey
      have hsame : leaf = other := hkey.2.2
      exact hdistinct.1 (hsame ▸ hother)

/-- Enough tickets that make a cohort are sealed. -/
theorem exists_sealTickets {cohort : MerkleCohort h} (hid : asI64 roundId = .ok id)
    (hfresh : ∀ row ∈ db.cohortRoots.rows, ¬(row.poolId = pool ∧ row.roundId = id))
    (hfree : ∀ row ∈ db.cohortProofs.rows, ¬(row.poolId = pool ∧ row.roundId = id))
    (hfits : (leavesOf db pool id).length < 2 ^ 32)
    (hminimum : minimum.toNat ≤ (leavesOf db pool id).length)
    (hbuild : MerkleCohort.build h (leavesOf db pool id) = .ok cohort) :
    ∃ root count db', sealTickets h pool roundId minimum db = (.ok (root, count), db') := by
  have hword : (UInt32.ofNat (leavesOf db pool id).length).toNat = (leavesOf db pool id).length :=
    UInt32.toNat_ofNat_of_lt' hfits
  rcases cohort.exists_root with ⟨root, -, hroot⟩
  have hmembers : leavesOf db pool id ⊆ cohort.leaves := fun leaf hleaf =>
    (MerkleCohort.mem_leaves_of_build hbuild).mpr hleaf
  have hnewRoot : ∀ row ∈ db.cohortRoots.rows, ¬SameKey
      (fun row : CohortRootRow D => (row.poolId, row.roundId)) row
      ⟨pool, id, root, (UInt32.ofNat (leavesOf db pool id).length).toNat⟩ := by
    intro row hrow hkey
    simp only [SameKey, Prod.mk.injEq] at hkey
    exact hfresh row hrow hkey
  rcases Table.exists_insert hnewRoot with ⟨roots, hinsert⟩
  have hwrite : execute (Database.insertRoot ⟨pool, id, root,
      (UInt32.ofNat (leavesOf db pool id).length).toNat⟩) db =
        (.ok (), { db with cohortRoots := roots }) := by
    rw [execute_eq_ok, Database.insertRoot, Database.insertInto, hinsert]
    rfl
  have hunwritten : ∀ row ∈ ({ db with cohortRoots := roots } : Database D).cohortProofs.rows,
      ¬(row.poolId = pool ∧ row.roundId = id) := hfree
  rcases exists_persistProofs hid hmembers (MerkleCohort.nodup_of_build hbuild) hunwritten
    with ⟨written, hproofs⟩
  rcases exists_event hid (some pool) "cohort_sealed" root written with ⟨db', hevent⟩
  refine ⟨root, .ofNat (leavesOf db pool id).length, db', ?_⟩
  rw [sealTickets, bind_of_eq_ok (lift_eq_ok.mpr ⟨hid, rfl⟩), bind_of_eq_ok read_leaves,
    failIf_bind, if_neg (by omega), failIf_bind, if_neg (by rw [UInt32.lt_iff_toNat_lt]; omega),
    bind_of_eq_ok (lift_eq_ok.mpr ⟨mapError_eq_ok.mpr hbuild, rfl⟩),
    bind_of_eq_ok (lift_eq_ok.mpr ⟨mapError_eq_ok.mpr hroot, rfl⟩), bind_of_eq_ok hwrite,
    bind_of_eq_ok hproofs, bind_of_eq_ok hevent]
  rfl

end Store

section Simulation

variable {config : CoordinatorConfig D} {id : Int} {h : Blake3 D} {s : Coordinator D}
variable {r : Register h} {ed : Ed25519}

/-- Before the seal there is no root. -/
theorem Represents.no_root (hrep : Represents config id s r) (hnone : r.cohort = none) :
    ∀ row ∈ s.store.cohortRoots.rows, ¬(row.poolId = config.binding.poolId ∧ row.roundId = id) := by
  intro row hrow
  rcases (hrep.roots row).mp hrow with ⟨cohort, -, hcohort, -⟩
  rw [hnone] at hcohort
  cases hcohort

/-- Before the seal there are no proofs. -/
theorem Represents.no_proof (hrep : Represents config id s r) (hnone : r.cohort = none) :
    ∀ row ∈ s.store.cohortProofs.rows,
      ¬(row.poolId = config.binding.poolId ∧ row.roundId = id) := by
  intro row hrow
  have hproof := ((hrep.proofs row).mp hrow).2.2
  rw [Register.proofOf, hnone] at hproof
  cases hproof

/-- The leaves that a sealing reads are the commitments of the register, sorted. -/
theorem Represents.leavesOf_eq (hrep : Represents config id s r) :
    leavesOf s.store config.binding.poolId id = sortDigests (r.accepted.map (·.commitment h)) := by
  have hcommitments : (r.accepted.map (ticketRow h · id)).map JoinTicketRow.commitment =
      r.accepted.map (·.commitment h) := by
    simp [ticketRow]
  rw [leavesOf, hrep.ticketsOf, hcommitments]

/-- Only leaves have proofs. -/
theorem Register.proofOf_eq_some {roundId : UInt64} {commitment : D} {proof : CohortProof D} :
    r.proofOf roundId commitment = some proof ↔ ∃ cohort, r.cohort = some cohort ∧
      cohort.proof commitment roundId = some (.ok proof) := by
  rw [Register.proofOf, Option.bind_eq_some_iff]
  refine exists_congr fun cohort => and_congr_right fun _ => ?_
  rcases cohort.proof commitment roundId with _ | (_ | _) <;> simp [Except.toOption]

/-- What a first sealing writes holds the cohort. -/
theorem Represents.of_sealed (hrep : Represents config id s r) (hnone : r.cohort = none)
    {cohort : MerkleCohort h} {root : D} {rows : List (CohortProofRow D)}
    {roots : Table (SameKey fun row : CohortRootRow D => (row.poolId, row.roundId))}
    {proofs : Table (SameKey fun row : CohortProofRow D =>
      (row.poolId, row.roundId, row.commitment))} {events : List (ImmutableEventRow D)}
    (hroot : cohort.root = .ok root)
    (hroots : roots.rows = s.store.cohortRoots.rows ++
      [⟨config.binding.poolId, id, root, cohort.leaves.length⟩])
    (hproofs : proofs.rows = s.store.cohortProofs.rows ++ rows)
    (hrows : ProofRows cohort config.binding.poolId config.binding.roundId id cohort.leaves rows) :
    Represents config id
      { s with store := { s.store with
        cohortRoots := roots, cohortProofs := proofs, immutableEvents := events } }
      { r with cohort := some cohort } where
  rate := hrep.rate
  waiting := hrep.waiting
  tickets := hrep.tickets
  own := hrep.own
  room := hrep.room
  roots row := by
    have hold : row ∉ s.store.cohortRoots.rows := by
      intro hrow
      rcases (hrep.roots row).mp hrow with ⟨other, -, hother, -⟩
      rw [hnone] at hother
      cases hother
    simp only [hroots, List.mem_append, hold, false_or, List.mem_singleton, Option.some.injEq]
    constructor
    · rintro rfl
      exact ⟨cohort, root, rfl, hroot, rfl⟩
    · rintro ⟨_, root', rfl, hroot', rfl⟩
      rw [Except.ok.inj (hroot'.symm.trans hroot)]
  proofs row := by
    have hold : row ∉ s.store.cohortProofs.rows := by
      intro hrow
      have hproof := ((hrep.proofs row).mp hrow).2.2
      rw [Register.proofOf, hnone] at hproof
      cases hproof
    simp only [hproofs, List.mem_append, hold, false_or, Register.proofOf_eq_some,
      Option.some.injEq, exists_eq_left']
    constructor
    · intro hrow
      rcases hrows.keys row hrow with ⟨hpool, hround⟩
      exact ⟨hpool, hround, hrows.generated row hrow⟩
    · rintro ⟨hpool, hround, hgenerated⟩
      have hleaf : row.commitment ∈ cohort.leaves := by
        by_contra hleaf
        rw [cohort.proof_of_not_mem hleaf] at hgenerated
        cases hgenerated
      rw [← hrows.commitments] at hleaf
      rcases List.mem_map.mp hleaf with ⟨found, hfound, hcommitment⟩
      have hsame : found = row := by
        rcases hrows.keys found hfound with ⟨hpool', hround'⟩
        have hgenerated' := hrows.generated found hfound
        rw [hcommitment, hgenerated] at hgenerated'
        rcases found with ⟨_, _, _, _⟩
        rcases row with ⟨_, _, _, _⟩
        simp_all
      exact hsame ▸ hfound

/-- A cohort that was sealed is named again. -/
theorem Represents.seal_again (hrep : Represents config id s r)
    (hid : asI64 config.binding.roundId = .ok id) {cohort : MerkleCohort h}
    (hcohort : r.cohort = some cohort) :
    ∃ root, Register.sealedReply cohort = .ok (.sealed root (.ofNat cohort.leaves.length)) ∧
      sealRequest h config s.store = (.ok (root, .ofNat cohort.leaves.length), s.store) := by
  rcases cohort.exists_root with ⟨root, -, hroot⟩
  have hrow := (hrep.roots _).mpr ⟨cohort, root, hcohort, hroot, rfl⟩
  have hfits : (UInt32.ofNat cohort.leaves.length).toNat = cohort.leaves.length :=
    UInt32.toNat_ofNat_of_lt' (lt_of_le_of_lt cohort.length_le (by decide))
  have hread := Store.root_of_mem hrow hid (u32Column_eq_ok.mpr (congrArg Nat.cast hfits.symm))
  refine ⟨root, by rw [Register.sealedReply, hroot], ?_⟩
  rw [sealRequest, reportAs_eq_ok, Store.sealCohort, bind_of_eq_ok hread]
  rfl

/-- Tickets that make no cohort for the register make none for the tables. -/
theorem Represents.build_error (hrep : Represents config id s r) {error : MerkleError}
    (hbuild : MerkleCohort.build h (r.accepted.map (·.commitment h)) = .error error) :
    ∃ error', MerkleCohort.build h (leavesOf s.store config.binding.poolId id) = .error error' := by
  cases hother : MerkleCohort.build h (leavesOf s.store config.binding.poolId id) with
  | error error' => exact ⟨error', rfl⟩
  | ok other =>
      have hperm : (r.accepted.map (·.commitment h)).Perm
          (leavesOf s.store config.binding.poolId id) :=
        hrep.leavesOf_eq ▸ (sortDigests_perm _).symm
      have hsame := MerkleCohort.build_of_perm hother hperm
      rw [hbuild] at hsame
      cases hsame

/-- A first sealing writes the cohort of the register. -/
theorem Represents.seal_first (hrep : Represents config id s r)
    (hid : asI64 config.binding.roundId = .ok id) (hnone : r.cohort = none)
    {cohort : MerkleCohort h}
    (hmany : config.minimumParticipants.toNat ≤
      (leavesOf s.store config.binding.poolId id).length)
    (hbuild : MerkleCohort.build h (r.accepted.map (·.commitment h)) = .ok cohort) :
    ∃ root db', Register.sealedReply cohort = .ok (.sealed root (.ofNat cohort.leaves.length)) ∧
      Store.sealTickets h config.binding.poolId config.binding.roundId config.minimumParticipants
        s.store = (.ok (root, .ofNat cohort.leaves.length), db') ∧
      Represents config id { s with store := db' } { r with cohort := some cohort } := by
  have hleaves : cohort.leaves = leavesOf s.store config.binding.poolId id := by
    rw [MerkleCohort.leaves_of_build hbuild, hrep.leavesOf_eq]
  have hperm : (leavesOf s.store config.binding.poolId id).Perm
      (r.accepted.map (·.commitment h)) := hrep.leavesOf_eq ▸ sortDigests_perm _
  have hfits : (leavesOf s.store config.binding.poolId id).length < 2 ^ 32 :=
    hleaves ▸ lt_of_le_of_lt cohort.length_le (by decide)
  have hbuilt := MerkleCohort.build_of_perm hbuild hperm
  rcases Store.exists_sealTickets hid (hrep.no_root hnone) (hrep.no_proof hnone) hfits hmany hbuilt
    with ⟨root, count, db', hseal⟩
  rcases Store.sealTickets_eq_ok hid hseal with ⟨cohort', rows, roots, proofs, hcount, -,
    hbuild', hroot, hroots, hproofs, hrows, rfl⟩
  rcases Except.ok.inj (hbuild'.symm.trans hbuilt) with rfl
  rw [← hleaves] at hcount hrows
  rw [← hcount] at hroots
  have hword : UInt32.ofNat cohort'.leaves.length = count := by rw [hcount, UInt32.ofNat_toNat]
  rw [← hword] at hseal
  exact ⟨root, _, by rw [Register.sealedReply, hroot], hseal,
    hrep.of_sealed hnone hroot hroots hproofs hrows⟩

/-- A cohort is sealed by the tables as by the register. -/
theorem Represents.seal (hrep : Represents config id s r)
    (hid : asI64 config.binding.roundId = .ok id) :
    (CoordinatorCall.sealCohort.perform h ed config s).1 = (Register.sealCohort config r).1 ∧
      Represents config id (CoordinatorCall.sealCohort.perform h ed config s).2
        (Register.sealCohort config r).2 := by
  have hbound := config.maximumParticipants.toNat_lt
  have hroom := hrep.room
  have hlength : (leavesOf s.store config.binding.poolId id).length = r.accepted.length := by
    rw [hrep.leavesOf_eq, length_sortDigests, List.length_map]
  cases hcohort : r.cohort with
  | some cohort =>
      rcases hrep.seal_again hid hcohort with ⟨root, hreply, hrun⟩
      simp only [CoordinatorCall.perform, Register.sealCohort, hrun, hcohort, hreply]
      exact ⟨trivial, hrep⟩
  | none =>
      have hread := Store.root_of_fresh hid (hrep.no_root hcohort)
      have hruns (outcome : Except StoreError (D × UInt32)) (db' : Database D)
          (hseal : transaction (Store.sealTickets h config.binding.poolId config.binding.roundId
            config.minimumParticipants) s.store = (outcome, db')) :
          sealRequest h config s.store = (outcome.mapError .store, db') := by
        rw [sealRequest, reportAs, Store.sealCohort_of_none hread, hseal]
      simp only [CoordinatorCall.perform, Register.sealCohort, hcohort]
      by_cases hfew : r.accepted.length < config.minimumParticipants.toNat
      · have hseal := Store.sealTickets_of_lt (h := h) hid (hlength.symm ▸ hfew)
        rw [hruns _ _ (transaction_of_eq_error hseal), if_pos hfew]
        exact ⟨rfl, hrep⟩
      · have hmany : config.minimumParticipants.toNat ≤
            (leavesOf s.store config.binding.poolId id).length := by omega
        rw [if_neg hfew]
        cases hbuild : MerkleCohort.build h (r.accepted.map (·.commitment h)) with
        | error error =>
            rcases hrep.build_error hbuild with ⟨error', hunbuilt⟩
            have hseal := Store.sealTickets_of_build_error hid (by omega) hmany hunbuilt
            rw [hruns _ _ (transaction_of_eq_error hseal)]
            exact ⟨rfl, hrep⟩
        | ok cohort =>
            rcases hrep.seal_first hid hcohort hmany hbuild with ⟨root, db', hreply, hseal, hnext⟩
            rw [hruns _ _ (transaction_eq_ok.mpr hseal)]
            simp only [Except.mapError, hreply]
            exact ⟨trivial, hnext⟩

/-! ## Proofs -/

/-- The proof that is found is the one that the register generates. -/
theorem Represents.look (hrep : Represents config id s r)
    (hid : asI64 config.binding.roundId = .ok id) (commitment : D) :
    (CoordinatorCall.proof commitment).perform h ed config s =
      (.ok (.proof (r.proofOf config.binding.roundId commitment)), s) := by
  cases hproof : r.proofOf config.binding.roundId commitment with
  | some proof =>
      have hrow := (hrep.proofs ⟨config.binding.poolId, id, commitment, proof⟩).mpr
        ⟨rfl, rfl, hproof⟩
      exact perform_proof_of_mem hrow rfl hid
  | none =>
      have hfind : s.store.cohortProofs.rows.find? (fun row => row.poolId = config.binding.poolId ∧
          row.roundId = id ∧ row.commitment = commitment) = none := by
        simp only [List.find?_eq_none, decide_eq_true_eq, not_and]
        rintro row hrow - - rfl
        rw [((hrep.proofs row).mp hrow).2.2] at hproof
        cases hproof
      have hread : proofRequest config commitment s.store = (.ok none, s.store) := by
        rw [proofRequest, reportAs_eq_ok, Store.proof,
          bind_of_eq_ok (lift_eq_ok.mpr ⟨hid, rfl⟩), query_eq_ok]
        simp only [hfind, Option.map_none, and_self]
      simp only [CoordinatorCall.perform, hread]

/-! ## All calls -/

/-- The rate limiter is not in the tables. -/
theorem Represents.limit (hrep : Represents config id s r) (rate : RateState) :
    Represents config id { s with rate } { r with rate } :=
  ⟨rfl, hrep.waiting, hrep.tickets, hrep.own, hrep.room, hrep.roots, hrep.proofs⟩

/-- Nor are the tickets that wait. -/
theorem Represents.wait (hrep : Represents config id s r) {waiting : List (JoinTicket D)}
    (hown : ∀ ticket ∈ waiting, ticket.poolId = config.binding.poolId ∧
      ticket.roundId = config.binding.roundId) :
    Represents config id { s with waiting } { r with waiting } where
  rate := hrep.rate
  waiting := rfl
  tickets := hrep.tickets
  own ticket hticket := hticket.elim (hown ticket) fun hold => hrep.own ticket (.inr hold)
  room := hrep.room
  roots := hrep.roots
  proofs := hrep.proofs

/-- A call on the tables replies as on the register, and leaves tables that hold
the register after it. -/
theorem Represents.perform (hrep : Represents config id s r)
    (hid : asI64 config.binding.roundId = .ok id) (call : CoordinatorCall D) :
    (call.perform h ed config s).1 = (Register.perform ed config call r).1 ∧
      Represents config id (call.perform h ed config s).2
        (Register.perform ed config call r).2 := by
  have herased (position : Nat) : ∀ ticket ∈ r.waiting.eraseIdx position,
      ticket.poolId = config.binding.poolId ∧ ticket.roundId = config.binding.roundId :=
    fun ticket hticket => hrep.own ticket (.inl (List.mem_of_mem_eraseIdx hticket))
  rcases s with ⟨store, rate, waiting⟩
  obtain rfl : rate = r.rate := hrep.rate
  obtain rfl : waiting = r.waiting := hrep.waiting
  cases call with
  | submit ticket currentSlot now resetAt =>
      simp only [CoordinatorCall.perform, Register.perform]
      rcases checkRate config now resetAt r.rate with ⟨_ | _, rate⟩
      · exact ⟨rfl, hrep.limit rate⟩
      · cases hverify : ticket.verify h ed currentSlot config.binding with
        | error error => exact ⟨rfl, hrep.limit rate⟩
        | ok _ =>
            refine ⟨rfl, (hrep.limit rate).wait ?_⟩
            intro other hother
            rcases List.mem_append.mp hother with hold | hnew
            · exact hrep.own other (.inl hold)
            · rcases JoinTicket.verify_eq_ok.mp hverify with ⟨-, hpool, hround, -⟩
              rw [List.mem_singleton.mp hnew]
              exact ⟨hpool, hround⟩
  | admitWaiting position =>
      simp only [CoordinatorCall.perform, Register.perform]
      cases hticket : r.waiting[position]? with
      | none => exact ⟨rfl, hrep⟩
      | some ticket =>
          rcases hrep.own ticket (.inl (List.mem_of_getElem? hticket)) with ⟨hpool, hround⟩
          rcases hrep.accept hid hpool hround with ⟨hreply, hnext⟩
          rcases hrun : admitTicket h config ticket store with ⟨outcome, store'⟩
          simp only [hrun] at hreply hnext
          simp only [hrun, ← hreply]
          cases outcome with
          | error error => exact ⟨rfl, hnext.wait (herased position)⟩
          | ok commitment => exact ⟨rfl, hnext.wait (herased position)⟩
  | abandon position =>
      exact ⟨rfl, hrep.wait (herased position)⟩
  | sealCohort => exact hrep.seal hid
  | proof commitment =>
      rw [hrep.look hid]
      exact ⟨rfl, hrep⟩
  | restart now =>
      refine ⟨rfl, rfl, rfl, hrep.tickets, ?_, hrep.room, hrep.roots, hrep.proofs⟩
      rintro ticket (hwaiting | hold)
      · cases hwaiting
      · exact hrep.own ticket (.inr hold)

/-- The tables simulate the register. -/
theorem simulates_register (h : Blake3 D) (ed : Ed25519)
    (hid : asI64 config.binding.roundId = .ok id) :
    Runs.Simulates (Represents config id (h := h))
      (fun s call => CoordinatorCall.perform h ed config call s)
      (fun r call => Register.perform ed config call r) where
  answer _ _ call hrep := (hrep.perform hid call).1
  next _ _ call hrep := (hrep.perform hid call).2

/-- The tables of a newly opened database hold an empty register. -/
theorem represents_fresh (now : Instant) :
    Represents config id (Coordinator.fresh h now) (Register.fresh h now) where
  rate := rfl
  waiting := rfl
  tickets := by simp [Register.fresh]
  own := by simp [Register.fresh]
  room := Nat.zero_le _
  roots := by simp [Register.fresh]
  proofs := by simp [Register.fresh, Register.proofOf]

end Simulation

/-- In every history of a round whose number fits a column, the coordinator
replies as the register does, to successes and to failures alike. -/
theorem replies_of_register (h : Blake3 D) (ed : Ed25519) {config : CoordinatorConfig D} {id : Int}
    (hid : asI64 config.binding.roundId = .ok id) (now : Instant)
    (calls : List (CoordinatorCall D)) :
    (coordinatorHistory h ed config now calls).map (·.reply h ed config) =
        Runs.answers (fun r call => Register.perform ed config call r) (Register.fresh h now)
          calls ∧
      Represents config id (coordinatorAfter h ed config now calls)
        (Runs.run (Runs.move fun r call => Register.perform ed config call r)
          (Register.fresh h now) calls) := by
  have hsim := simulates_register h ed hid
  refine ⟨?_, hsim.run (represents_fresh now) calls⟩
  rw [← hsim.answers_eq (represents_fresh now) calls, Runs.answers_eq_map_visits]
  rfl

/-- A round for one or two participants. -/
def demoRegisterConfig : CoordinatorConfig Nat where
  binding := { poolId := 1, roundId := 7, actionTemplateHash := 2 }
  minimumParticipants := 1
  maximumParticipants := 2
  requestsPerMinute := 10

/-- Three tickets for a round with room for two, a repeated one, and two seals. -/
def demoRegisterCalls : List (CoordinatorCall Nat) :=
  [.sealCohort, .submit (sampleTicket 1 2 3 1) 50 0 0, .submit (sampleTicket 1 2 3 2) 50 0 0,
    .submit (sampleTicket 1 2 3 1) 50 0 0, .submit (sampleTicket 1 2 3 3) 50 0 0,
    .admitWaiting 0, .admitWaiting 1, .sealCohort, .admitWaiting 0, .admitWaiting 0,
    .proof ((sampleTicket 1 2 3 2).commitment Blake3.checksum)]

theorem replies_of_register_demo :
    (coordinatorHistory Blake3.checksum ⟨fun _ => true, fun _ _ _ => true⟩ demoRegisterConfig 0
        demoRegisterCalls).map (·.reply Blake3.checksum ⟨fun _ => true, fun _ _ _ => true⟩
          demoRegisterConfig) =
      Runs.answers (fun r call => Register.perform ⟨fun _ => true, fun _ _ _ => true⟩
        demoRegisterConfig call r) (Register.fresh Blake3.checksum 0) demoRegisterCalls :=
  (replies_of_register _ _ (asI64_eq_ok.mpr ⟨by decide, rfl⟩) 0 _).1

end MirrorPool
