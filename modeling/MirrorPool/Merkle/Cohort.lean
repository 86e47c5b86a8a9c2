import MirrorPool.Core.Digest
import MirrorPool.Library.Fallible
import MirrorPool.Library.PairTree
import Mathlib.Data.List.Sort

/-!
# Merkle cohorts

A cohort is a tree over a sorted list of distinct digests.  Parents are
domain-separated hashes of the bytes of two nodes, and an odd last node of a
level is its own partner.  A proof lists the siblings of a leaf; the verifier
walks up from the leaf without looking at the shape of the tree.

A cohort carries what its constructor has checked, so that a value of the type
is always a well-formed tree.

Main results:

- Definitions {lit}`MerkleCohort.build`, {lit}`MerkleCohort.root`, and
  {lit}`MerkleCohort.proof`: construction and proof generation.
- Definition {lit}`CohortProof.verify`: the verifier.
- Theorem {lit}`MerkleCohort.exists_build`: construction succeeds on distinct
  digests within the bound.
- Theorem {lit}`MerkleCohort.leaves_of_build`: the leaves are the sorted digests.
- Theorems {lit}`MerkleCohort.exists_root` and {lit}`MerkleCohort.exists_proof`:
  every cohort has a root and a proof for each leaf.
- Theorem {lit}`CohortProof.verify_eq_ok`: what an accepted proof says.
-/

namespace MirrorPool

open Fallible

variable {D : Type}

/-- Hard limit on the number of leaves. -/
def maxLeaves : Nat := 100000

/-- Merkle construction and verification failures. -/
inductive MerkleError where
  | emptyTree
  | tooManyLeaves
  | duplicateLeaf
  | leafNotFound
  | wrongRound
  | wrongRoot
  | invalidProof
deriving DecidableEq, Repr

/-- Inclusion proof bound to a round and a root. -/
structure CohortProof (D : Type) where
  leafHash : D
  leafIndex : UInt32
  siblingHashes : List D
  merkleRoot : D
  roundId : UInt64
deriving DecidableEq

/-- The parent of two nodes. -/
def parent (h : Blake3 D) (left right : D) : D :=
  h.hash "merkle-node" (h.bytes left ++ h.bytes right)

/-- A sorted cohort and its levels, from the leaves to the root. -/
structure MerkleCohort [LinearOrder D] (h : Blake3 D) where
  leaves : List D
  levels : List (List D)
  leaves_ne_nil : leaves ≠ []
  length_le : leaves.length ≤ maxLeaves
  sorted : leaves.SortedLT
  levels_eq : levels = PairTree.levels (parent h) leaves

/-! ## Sorting and duplicates -/

/-- Whether two neighbours in a list are equal. -/
def hasEqualNeighbours [DecidableEq D] (digests : List D) : Bool :=
  (digests.zip digests.tail).any fun (left, right) => left = right

/-- A sorted list has equal neighbours exactly when it has duplicates. -/
theorem hasEqualNeighbours_eq_false [LinearOrder D] {digests : List D}
    (hsorted : digests.SortedLE) : hasEqualNeighbours digests = false ↔ digests.Nodup := by
  rw [List.sortedLE_iff_isChain] at hsorted
  constructor
  · intro hneighbours
    have hstrict : digests.IsChain (· < ·) := by
      induction digests with
      | nil => exact .nil
      | cons x rest ih =>
          cases rest with
          | nil => exact .singleton x
          | cons y rest =>
              rw [List.isChain_cons_cons] at hsorted ⊢
              simp only [hasEqualNeighbours, List.tail_cons, List.zip_cons_cons, List.any_cons,
                Bool.or_eq_false_iff, decide_eq_false_iff_not] at hneighbours
              exact ⟨lt_of_le_of_ne hsorted.1 hneighbours.1, ih hsorted.2 hneighbours.2⟩
    exact (List.sortedLT_iff_isChain.mpr hstrict).nodup
  · intro hnodup
    induction digests with
    | nil => rfl
    | cons x rest ih =>
        cases rest with
        | nil => rfl
        | cons y rest =>
            rw [List.isChain_cons_cons] at hsorted
            have hxy : x ≠ y := fun hxy => (List.nodup_cons.mp hnodup).1 (by simp [hxy])
            have hrest := ih hsorted.2 (List.nodup_cons.mp hnodup).2
            simp only [hasEqualNeighbours, List.tail_cons] at hrest
            simp [hasEqualNeighbours, hxy, hrest]

/-- The digests in ascending order. -/
def sortDigests [LinearOrder D] (digests : List D) : List D :=
  digests.insertionSort (· ≤ ·)

section Sorting

variable [LinearOrder D] {digests : List D}

theorem sortDigests_perm (digests : List D) : (sortDigests digests).Perm digests :=
  List.perm_insertionSort _ _

theorem sortDigests_sorted (digests : List D) : (sortDigests digests).SortedLE :=
  (List.pairwise_insertionSort (· ≤ ·) digests).sortedLE

@[simp] theorem mem_sortDigests {x : D} : x ∈ sortDigests digests ↔ x ∈ digests :=
  (sortDigests_perm digests).mem_iff

@[simp] theorem length_sortDigests : (sortDigests digests).length = digests.length :=
  (sortDigests_perm digests).length_eq

/-- Without duplicates the sorted digests are strictly ascending. -/
theorem sortDigests_sortedLT (hnodup : (sortDigests digests).Nodup) :
    (sortDigests digests).SortedLT :=
  (sortDigests_sorted digests).sortedLT_of_nodup hnodup

end Sorting

/-! ## Construction -/

namespace MerkleCohort

variable [LinearOrder D] {h : Blake3 D}

/-- Build a canonical tree after sorting leaves and rejecting duplicates. -/
def build (h : Blake3 D) (digests : List D) : Except MerkleError (MerkleCohort h) :=
  if hnil : digests = [] then
    .error .emptyTree
  else if hbound : maxLeaves < digests.length then
    .error .tooManyLeaves
  else if hduplicate : hasEqualNeighbours (sortDigests digests) = true then
    .error .duplicateLeaf
  else
    .ok
      { leaves := sortDigests digests
        levels := PairTree.levels (parent h) (sortDigests digests)
        leaves_ne_nil := fun hsorted => hnil (by simpa [hsorted] using sortDigests_perm digests)
        length_le := by simpa using hbound
        sorted := sortDigests_sortedLT ((hasEqualNeighbours_eq_false (sortDigests_sorted _)).mp
          (by simpa using hduplicate))
        levels_eq := rfl }

/-- Merkle root. -/
def root (cohort : MerkleCohort h) : Except MerkleError D :=
  okOr (cohort.levels.getLast?.bind List.head?) .emptyTree

/-- Generate the proof for an exact leaf.  The outer option is empty when an
index leaves its level, where the source would panic. -/
def proof (cohort : MerkleCohort h) (leaf : D) (roundId : UInt64) :
    Option (Except MerkleError (CohortProof D)) :=
  match cohort.leaves.idxOf? leaf with
  | none => some (.error .leafNotFound)
  | some index =>
      if index < 2 ^ 32 then do
        let siblings ← PairTree.siblingPath (cohort.levels.take (cohort.levels.length - 1)) index
        return do
          let merkleRoot ← cohort.root
          return { leafHash := leaf, leafIndex := .ofNat index, siblingHashes := siblings,
                   merkleRoot, roundId }
      else
        some (.error .tooManyLeaves)

end MerkleCohort

/-! ## Verification -/

namespace CohortProof

variable [LinearOrder D]

/-- Verify leaf path, root and expected round binding. -/
def verify (h : Blake3 D) (proof : CohortProof D) (expectedRoot : D) (expectedRound : UInt64) :
    Except MerkleError Unit := do
  failIf (proof.roundId ≠ expectedRound) .wrongRound
  failIf (proof.merkleRoot ≠ expectedRoot) .wrongRoot
  let node := PairTree.climb (parent h) proof.leafHash proof.leafIndex.toNat proof.siblingHashes
  failIf (node ≠ expectedRoot) .invalidProof

/-- An accepted proof names the round and the root, and its path leads to the
root. -/
theorem verify_eq_ok {h : Blake3 D} {proof : CohortProof D} {expectedRoot : D}
    {expectedRound : UInt64} {u : Unit} :
    proof.verify h expectedRoot expectedRound = .ok u ↔
      proof.roundId = expectedRound ∧ proof.merkleRoot = expectedRoot ∧
        PairTree.climb (parent h) proof.leafHash proof.leafIndex.toNat proof.siblingHashes =
          expectedRoot := by
  simp only [verify, bind_eq_ok, failIf_eq_ok, exists_const, ne_eq, not_not]

end CohortProof

namespace MerkleCohort

variable [LinearOrder D] {h : Blake3 D}

/-! ## Rules of the construction -/

/-- Construction succeeds on distinct digests within the bound. -/
theorem exists_build (h : Blake3 D) {digests : List D} (hnonempty : digests ≠ [])
    (hbound : digests.length ≤ maxLeaves) (hnodup : digests.Nodup) :
    ∃ cohort : MerkleCohort h, build h digests = .ok cohort := by
  have hneighbours : hasEqualNeighbours (sortDigests digests) = false :=
    (hasEqualNeighbours_eq_false (sortDigests_sorted digests)).mpr
      ((sortDigests_perm digests).nodup_iff.mpr hnodup)
  unfold build
  rw [dif_neg hnonempty, dif_neg (by omega), dif_neg (by simp [hneighbours])]
  exact ⟨_, rfl⟩

/-- The leaves of a cohort are the sorted digests. -/
theorem leaves_of_build {digests : List D} {cohort : MerkleCohort h}
    (hbuild : build h digests = .ok cohort) : cohort.leaves = sortDigests digests := by
  unfold build at hbuild
  split at hbuild
  · simp at hbuild
  · split at hbuild
    · simp at hbuild
    · split at hbuild
      · simp at hbuild
      · cases hbuild
        rfl

theorem mem_leaves_of_build {digests : List D} {cohort : MerkleCohort h}
    (hbuild : build h digests = .ok cohort) {x : D} : x ∈ cohort.leaves ↔ x ∈ digests := by
  rw [leaves_of_build hbuild, mem_sortDigests]

/-- The levels of a cohort end in its root. -/
theorem exists_root (cohort : MerkleCohort h) :
    ∃ root, cohort.levels.getLast? = some [root] ∧ cohort.root = .ok root := by
  rcases PairTree.exists_root (parent h) cohort.leaves_ne_nil with ⟨root, hroot⟩
  rw [← cohort.levels_eq] at hroot
  refine ⟨root, hroot, ?_⟩
  simp [MerkleCohort.root, hroot, okOr]

/-- The root that is read is the one the levels end in. -/
theorem getLast?_of_root {cohort : MerkleCohort h} {root : D} (hroot : cohort.root = .ok root) :
    (PairTree.levels (parent h) cohort.leaves).getLast? = some [root] := by
  rcases cohort.exists_root with ⟨root', hlast, hroot'⟩
  rw [hroot] at hroot'
  cases hroot'
  rw [← cohort.levels_eq, hlast]

/-- A position in a cohort fits a 32-bit word. -/
theorem index_lt (cohort : MerkleCohort h) {index : Nat} (hindex : index < cohort.leaves.length) :
    index < 2 ^ 32 := by
  have hbound := cohort.length_le
  simp only [maxLeaves] at hbound
  omega

/-- Every leaf has a proof, with one sibling for each level below the root; the
proof holds the position of the leaf, and it verifies. -/
theorem exists_proof (cohort : MerkleCohort h) {leaf root : D} (hleaf : leaf ∈ cohort.leaves)
    (hroot : cohort.root = .ok root) (roundId : UInt64) :
    ∃ proof, cohort.proof leaf roundId = some (.ok proof) ∧ proof.leafHash = leaf ∧
      proof.siblingHashes.length + 1 = cohort.levels.length ∧
      cohort.leaves[proof.leafIndex.toNat]? = some leaf ∧
      proof.verify h root roundId = .ok () := by
  rcases Option.isSome_iff_exists.mp (List.isSome_idxOf?.mpr hleaf) with ⟨index, hfind⟩
  rcases List.idxOf?_eq_some_iff.mp hfind with ⟨hindex, hat, -⟩
  have hnode : cohort.leaves[index]? = some leaf := by rw [List.getElem?_eq_getElem hindex, hat]
  have hfits : index < 2 ^ 32 := cohort.index_lt hindex
  have hword : (UInt32.ofNat index).toNat = index := UInt32.toNat_ofNat_of_lt' hfits
  rcases PairTree.climb_siblingPath (parent h) hnode with
    ⟨siblings, root', hpath, hlength, hlast, hclimb⟩
  rw [getLast?_of_root hroot] at hlast
  cases hlast
  rw [← cohort.levels_eq] at hpath hlength
  rw [List.dropLast_eq_take] at hpath
  let found : CohortProof D :=
    { leafHash := leaf, leafIndex := .ofNat index, siblingHashes := siblings,
      merkleRoot := root, roundId }
  have hproof : cohort.proof leaf roundId = some (.ok found) := by
    simp only [proof, hfind, if_pos hfits, hpath, hroot]
    rfl
  have hverify : found.verify h root roundId = .ok () := by
    rw [CohortProof.verify_eq_ok]
    exact ⟨rfl, rfl, by rw [hword, hclimb]⟩
  exact ⟨found, hproof, rfl, hlength, by rw [hword, hnode], hverify⟩

/-- There is no proof for a digest that is not a leaf. -/
theorem proof_of_not_mem (cohort : MerkleCohort h) {digest : D} (hdigest : digest ∉ cohort.leaves)
    (roundId : UInt64) : cohort.proof digest roundId = some (.error .leafNotFound) := by
  have hfind : cohort.leaves.idxOf? digest = none := by simpa using hdigest
  simp [proof, hfind]

/-- A generated proof is for its leaf, and it verifies. -/
theorem verify_of_proof {cohort : MerkleCohort h} {leaf root : D} {roundId : UInt64}
    {proof : CohortProof D} (hroot : cohort.root = .ok root)
    (hproof : cohort.proof leaf roundId = some (.ok proof)) :
    proof.leafHash = leaf ∧ proof.verify h root roundId = .ok () := by
  by_cases hleaf : leaf ∈ cohort.leaves
  · rcases cohort.exists_proof hleaf hroot roundId with
      ⟨found, hfound, hhash, -, -, hverify⟩
    rw [hproof] at hfound
    cases hfound
    exact ⟨hhash, hverify⟩
  · rw [cohort.proof_of_not_mem hleaf] at hproof
    simp at hproof

/-- Only distinct digests make a cohort. -/
theorem nodup_of_build {digests : List D} {cohort : MerkleCohort h}
    (hbuild : build h digests = .ok cohort) : digests.Nodup := by
  have hnodup := cohort.sorted.nodup
  rw [leaves_of_build hbuild] at hnodup
  exact (sortDigests_perm digests).nodup_iff.mp hnodup

/-- A cohort is built from at least one digest. -/
theorem length_pos_of_build {digests : List D} {cohort : MerkleCohort h}
    (hbuild : build h digests = .ok cohort) : 0 < digests.length := by
  have hpos := List.length_pos_of_ne_nil cohort.leaves_ne_nil
  rwa [leaves_of_build hbuild, length_sortDigests] at hpos

/-- A cohort is determined by its leaves. -/
theorem eq_of_leaves_eq {cohort other : MerkleCohort h} (hleaves : cohort.leaves = other.leaves) :
    cohort = other := by
  have hlevels : cohort.levels = other.levels := by
    rw [cohort.levels_eq, other.levels_eq, hleaves]
  cases cohort
  cases other
  simp only at hleaves hlevels
  subst hleaves
  subst hlevels
  rfl

/-- The order in which the digests are given makes no difference. -/
theorem build_of_perm {digests digests' : List D} {cohort : MerkleCohort h}
    (hbuild : build h digests = .ok cohort) (hperm : digests'.Perm digests) :
    build h digests' = .ok cohort := by
  have hnonempty : digests' ≠ [] := by
    have hpos := length_pos_of_build hbuild
    rw [← hperm.length_eq] at hpos
    exact List.ne_nil_of_length_pos hpos
  have hbound : digests'.length ≤ maxLeaves := by
    have hlength := cohort.length_le
    rwa [leaves_of_build hbuild, length_sortDigests, ← hperm.length_eq] at hlength
  rcases exists_build h hnonempty hbound (hperm.nodup_iff.mpr (nodup_of_build hbuild)) with
    ⟨other, hother⟩
  have hleaves : other.leaves = cohort.leaves := by
    have hsame : other.leaves.Perm cohort.leaves := by
      rw [leaves_of_build hother, leaves_of_build hbuild]
      exact (sortDigests_perm digests').trans (hperm.trans (sortDigests_perm digests).symm)
    exact hsame.eq_of_sortedLE other.sorted.sortedLE cohort.sorted.sortedLE
  rw [hother, eq_of_leaves_eq hleaves]

end MerkleCohort

end MirrorPool
