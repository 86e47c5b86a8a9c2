import MirrorPool.Merkle.Cohort

/-!
# Members of a cohort have proofs

Whatever the hash function does, distinct digests within the bound make a
cohort, each of them has a proof, the proof verifies, and a digest that is not
among them has none.

Main results:

- Theorem {lit}`MerkleCohort.members_verify`: proofs exist for the members and
  for nothing else, and they verify.
-/

namespace MirrorPool

namespace MerkleCohort

variable {D : Type} [LinearOrder D]

/-- Distinct digests within the bound make a cohort with one root.  Each digest
has a proof with a sibling for every level below the root and with its position
in ascending order, and this proof verifies.  Other digests have no proof. -/
theorem members_verify (h : Blake3 D) {digests : List D} (hnonempty : digests ≠ [])
    (hbound : digests.length ≤ maxLeaves) (hnodup : digests.Nodup) :
    ∃ cohort : MerkleCohort h, ∃ root, build h digests = .ok cohort ∧
      cohort.levels.getLast? = some [root] ∧ cohort.root = .ok root ∧
      (∀ leaf ∈ digests, ∀ roundId, ∃ proof,
        cohort.proof leaf roundId = some (.ok proof) ∧
          proof.siblingHashes.length + 1 = cohort.levels.length ∧
          (sortDigests digests)[proof.leafIndex.toNat]? = some leaf ∧
          proof.verify h root roundId = .ok ()) ∧
      ∀ digest ∉ digests, ∀ roundId, cohort.proof digest roundId = some (.error .leafNotFound) := by
  rcases exists_build h hnonempty hbound hnodup with ⟨cohort, hbuild⟩
  rcases cohort.exists_root with ⟨root, hlast, hroot⟩
  refine ⟨cohort, root, hbuild, hlast, hroot, ?_, ?_⟩
  · intro leaf hleaf roundId
    have hmem : leaf ∈ cohort.leaves := (mem_leaves_of_build hbuild).mpr hleaf
    rcases cohort.exists_proof hmem hroot roundId with
      ⟨proof, hproof, -, hlength, hposition, hverify⟩
    rw [leaves_of_build hbuild] at hposition
    exact ⟨proof, hproof, hlength, hposition, hverify⟩
  · intro digest hdigest roundId
    have hmem : digest ∉ cohort.leaves := fun hmem =>
      hdigest ((mem_leaves_of_build hbuild).mp hmem)
    exact cohort.proof_of_not_mem hmem roundId

/-- Three digests in descending order. -/
def demoDigests : List Nat := [3, 2, 1]

/-- The last of three leaves is its own partner. -/
theorem members_verify_demo :
    ∃ cohort : MerkleCohort Blake3.checksum, ∃ root,
      build Blake3.checksum demoDigests = .ok cohort ∧
      cohort.levels.getLast? = some [root] ∧ cohort.root = .ok root ∧
      (∀ leaf ∈ demoDigests, ∀ roundId, ∃ proof,
        cohort.proof leaf roundId = some (.ok proof) ∧
          proof.siblingHashes.length + 1 = cohort.levels.length ∧
          (sortDigests demoDigests)[proof.leafIndex.toNat]? = some leaf ∧
          proof.verify Blake3.checksum root roundId = .ok ()) ∧
      ∀ digest ∉ demoDigests, ∀ roundId,
        cohort.proof digest roundId = some (.error .leafNotFound) :=
  members_verify Blake3.checksum (by decide : demoDigests ≠ []) (by decide) (by decide)

end MerkleCohort

end MirrorPool
