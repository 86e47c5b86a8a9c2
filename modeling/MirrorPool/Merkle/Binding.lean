import MirrorPool.Crypto.Ticket
import MirrorPool.Merkle.Cohort
import Mathlib.Data.List.Lex
import Mathlib.Order.Fin.Basic

/-!
# Roots bind tickets

The leaves of a cohort are ticket commitments, hashed in another domain than
the inner nodes.  Without collisions no path can therefore start from a ticket
outside the cohort, whatever its length and its claimed position, and a root
belongs to one set of tickets only.

Main results:

- Theorem {lit}`MerkleCohort.ticket_mem_of_verify`: a verifying proof for a
  ticket shows that the ticket is in the cohort.
- Theorem {lit}`MerkleCohort.roots_eq_iff`: two roots are equal exactly when
  the cohorts have the same tickets.
-/

namespace MirrorPool

namespace MerkleCohort

variable {D : Type} {h : Blake3 D}

/-- Every digest is the commitment of some ticket. -/
def AreCommitments (h : Blake3 D) (digests : List D) : Prop :=
  ∀ digest ∈ digests, ∃ ticket : JoinTicket D, ticket.commitment h = digest

section CollisionFree

variable (hfree : h.CollisionFree)

include hfree

/-- A parent determines its two children. -/
theorem parent_inj (a b c d : D) (hparent : parent h a b = parent h c d) : a = c ∧ b = d :=
  hfree.bytes_pair (hfree.hash_inj (by decide) (by decide) hparent).2

/-- A ticket commitment is no parent. -/
theorem commitment_ne_parent (ticket : JoinTicket D) (a b : D) :
    ticket.commitment h ≠ parent h a b := by
  intro heq
  have hdomain := (hfree.hash_inj (by decide) (by decide) heq).1
  exact absurd hdomain (by decide)

/-- A commitment within the root of a cohort of commitments is one of its
leaves. -/
theorem mem_of_within [LinearOrder D] {cohort : MerkleCohort h} {root digest : D}
    (hleaves : AreCommitments h cohort.leaves) (hroot : cohort.root = .ok root)
    (hdigest : ∃ ticket : JoinTicket D, ticket.commitment h = digest)
    (hwithin : PairTree.Within (parent h) digest root) : digest ∈ cohort.leaves := by
  have hleaf : ∀ leaf ∈ cohort.leaves, ∀ a b, leaf ≠ parent h a b := by
    intro leaf hmem a b
    rcases hleaves leaf hmem with ⟨ticket, rfl⟩
    exact commitment_ne_parent hfree ticket a b
  have hnode : ∀ a b, digest ≠ parent h a b := by
    rcases hdigest with ⟨ticket, rfl⟩
    exact commitment_ne_parent hfree ticket
  exact PairTree.mem_of_within_root (parent_inj hfree) hleaf hnode (getLast?_of_root hroot) hwithin

/-- The leaves of a cohort are among those of every cohort of commitments with
the same root. -/
theorem leaves_subset_of_root_eq [LinearOrder D] {cohort other : MerkleCohort h} {root : D}
    (hcohort : AreCommitments h cohort.leaves) (hother : AreCommitments h other.leaves)
    (hroot : cohort.root = .ok root) (hroot' : other.root = .ok root) :
    cohort.leaves ⊆ other.leaves := by
  intro digest hdigest
  have hwithin := PairTree.within_root (parent h) (getLast?_of_root hroot) hdigest
  exact mem_of_within hfree hother hroot' (hcohort digest hdigest) hwithin

end CollisionFree

variable [LinearOrder D]

/-- The leaves of a cohort that was built from commitments. -/
theorem AreCommitments.leaves {digests : List D} {cohort : MerkleCohort h}
    (hdigests : AreCommitments h digests) (hbuild : build h digests = .ok cohort) :
    AreCommitments h cohort.leaves :=
  fun digest hdigest => hdigests digest ((mem_leaves_of_build hbuild).mp hdigest)

/-- A proof that verifies for a ticket, of whatever length and position, shows
that the ticket is among those the cohort was built from. -/
theorem ticket_mem_of_verify (hfree : h.CollisionFree) {digests : List D}
    {cohort : MerkleCohort h} {root : D} {roundId : UInt64} {proof : CohortProof D}
    {ticket : JoinTicket D} (hdigests : AreCommitments h digests)
    (hbuild : build h digests = .ok cohort) (hroot : cohort.root = .ok root)
    (hleaf : proof.leafHash = ticket.commitment h)
    (hverify : proof.verify h root roundId = .ok ()) : ticket.commitment h ∈ digests := by
  have hclimb := (CohortProof.verify_eq_ok.mp hverify).2.2
  have hwithin : PairTree.Within (parent h) (ticket.commitment h) root := by
    rw [← hleaf, ← hclimb]
    exact PairTree.within_climb _ _ _ _
  have hmem := mem_of_within hfree (hdigests.leaves hbuild) hroot ⟨ticket, rfl⟩ hwithin
  exact (mem_leaves_of_build hbuild).mp hmem

/-- A ticket over digests that keep the whole message. -/
def demoTicket (key : UInt8) : JoinTicket (List (Fin 256)) :=
  sampleTicket [1] [2] [3] key

/-- The commitments of some tickets. -/
def demoCommitments (keys : List UInt8) : List (List (Fin 256)) :=
  keys.map fun key => (demoTicket key).commitment Blake3.verbatim

theorem demoCommitments_are (keys : List UInt8) :
    AreCommitments Blake3.verbatim (demoCommitments keys) := by
  intro digest hdigest
  rcases List.mem_map.mp hdigest with ⟨key, -, rfl⟩
  exact ⟨demoTicket key, rfl⟩

/-- The first of three tickets has a verifying proof, and it is in the cohort. -/
theorem ticket_mem_of_verify_demo :
    ∃ cohort : MerkleCohort Blake3.verbatim, ∃ root,
      ∃ proof : CohortProof (List (Fin 256)),
      build Blake3.verbatim (demoCommitments [1, 2, 3]) = .ok cohort ∧
        cohort.root = .ok root ∧
        proof.leafHash = (demoTicket 1).commitment Blake3.verbatim ∧
        proof.verify Blake3.verbatim root 7 = .ok () ∧
        (demoTicket 1).commitment Blake3.verbatim ∈ demoCommitments [1, 2, 3] := by
  rcases exists_build Blake3.verbatim (by decide +kernel : demoCommitments [1, 2, 3] ≠ [])
    (by decide +kernel) (by decide +kernel) with ⟨cohort, hbuild⟩
  rcases cohort.exists_root with ⟨root, -, hroot⟩
  have hmem : (demoTicket 1).commitment Blake3.verbatim ∈ cohort.leaves := by
    rw [mem_leaves_of_build hbuild]
    simp [demoCommitments]
  rcases cohort.exists_proof hmem hroot 7 with ⟨proof, -, hleaf, -, -, hverify⟩
  exact ⟨cohort, root, proof, hbuild, hroot, hleaf, hverify,
    ticket_mem_of_verify Blake3.verbatim_collisionFree (demoCommitments_are [1, 2, 3]) hbuild
      hroot hleaf hverify⟩

/-- The roots of two cohorts of commitments are equal exactly when the two
lists hold the same commitments, whatever their lengths and orders. -/
theorem roots_eq_iff (hfree : h.CollisionFree) {first second : List D}
    {cohort other : MerkleCohort h} (hfirst : AreCommitments h first)
    (hsecond : AreCommitments h second) (hbuild : build h first = .ok cohort)
    (hbuild' : build h second = .ok other) :
    ∃ root root', cohort.root = .ok root ∧ other.root = .ok root' ∧
      (root = root' ↔ ∀ digest, digest ∈ first ↔ digest ∈ second) := by
  rcases cohort.exists_root with ⟨root, hlast, hroot⟩
  rcases other.exists_root with ⟨root', hlast', hroot'⟩
  refine ⟨root, root', hroot, hroot', ?_, ?_⟩
  · rintro rfl digest
    have hleaves := hfirst.leaves hbuild
    have hleaves' := hsecond.leaves hbuild'
    rw [← mem_leaves_of_build hbuild, ← mem_leaves_of_build hbuild']
    constructor
    · exact fun hmem => leaves_subset_of_root_eq hfree hleaves hleaves' hroot hroot' hmem
    · exact fun hmem => leaves_subset_of_root_eq hfree hleaves' hleaves hroot' hroot hmem
  · intro hsame
    have hperm : cohort.leaves.Perm other.leaves := by
      rw [List.perm_ext_iff_of_nodup cohort.sorted.nodup other.sorted.nodup]
      intro digest
      rw [mem_leaves_of_build hbuild, mem_leaves_of_build hbuild', hsame]
    have hleaves : cohort.leaves = other.leaves :=
      hperm.eq_of_sortedLE cohort.sorted.sortedLE other.sorted.sortedLE
    have hlevels := getLast?_of_root hroot
    rw [hleaves, getLast?_of_root hroot'] at hlevels
    simpa using hlevels.symm

/-- Three tickets and four tickets have different roots. -/
theorem roots_eq_iff_demo :
    ∃ cohort other : MerkleCohort Blake3.verbatim, ∃ root root',
      build Blake3.verbatim (demoCommitments [1, 2, 3]) = .ok cohort ∧
        build Blake3.verbatim (demoCommitments [4, 3, 2, 1]) = .ok other ∧
        cohort.root = .ok root ∧ other.root = .ok root' ∧ root ≠ root' := by
  rcases exists_build Blake3.verbatim (by decide +kernel : demoCommitments [1, 2, 3] ≠ [])
    (by decide +kernel) (by decide +kernel) with ⟨cohort, hbuild⟩
  rcases exists_build Blake3.verbatim (by decide +kernel : demoCommitments [4, 3, 2, 1] ≠ [])
    (by decide +kernel) (by decide +kernel) with ⟨other, hbuild'⟩
  rcases roots_eq_iff Blake3.verbatim_collisionFree (demoCommitments_are [1, 2, 3])
    (demoCommitments_are [4, 3, 2, 1]) hbuild hbuild' with ⟨root, root', hroot, hroot', hiff⟩
  refine ⟨cohort, other, root, root', hbuild, hbuild', hroot, hroot', ?_⟩
  intro heq
  have hfourth := hiff.mp heq ((demoTicket 4).commitment Blake3.verbatim)
  exact absurd hfourth (by decide +kernel)

end MerkleCohort

end MirrorPool
