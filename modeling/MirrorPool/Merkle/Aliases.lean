import MirrorPool.Library.PairDescent
import MirrorPool.Merkle.Binding

/-!
# Proofs that no cohort generates

The verifier reads as many digits of the index as the path has siblings, and
hashes leaves and inner nodes alike.  It therefore accepts proofs that no leaf
of the cohort has: with an index beyond the last leaf, from an inner node, or
from a value below a leaf.  Without collisions there are no others.

Main results:

- Definition {lit}`Alias`: the three kinds of such proofs.
- Theorem {lit}`MerkleCohort.verify_iff_generated`: acceptance agrees with
  generation except on them.
-/

namespace MirrorPool

variable {D : Type} [LinearOrder D] {h : Blake3 D} {cohort : MerkleCohort h} {root : D}
  {round : UInt64} {proof : CohortProof D}

/-- A proof that leads to the root of a cohort from elsewhere than a leaf at its
own position. -/
inductive Alias (cohort : MerkleCohort h) (proof : CohortProof D) : Prop where
  /-- The path of a leaf, with an index that no leaf has. -/
  | outOfRange
      (hlength : proof.siblingHashes.length + 1 = cohort.levels.length)
      (hindex : cohort.leaves.length ≤ proof.leafIndex.toNat)
      (hpath : PairTree.PathOf cohort.levels proof.leafHash proof.leafIndex.toNat
        proof.siblingHashes)
  /-- The path of a node above the leaves, such as the root with no siblings. -/
  | inner (height : Nat) (hheight : 0 < height)
      (hlength : proof.siblingHashes.length + height + 1 = cohort.levels.length)
      (hpath : PairTree.PathOf (cohort.levels.drop height) proof.leafHash proof.leafIndex.toNat
        proof.siblingHashes)
  /-- The path of a leaf, continued below it. -/
  | below (lower upper : List D) (hsiblings : proof.siblingHashes = lower ++ upper)
      (hlower : lower ≠ []) (hlength : upper.length + 1 = cohort.levels.length)
      (hpath : PairTree.PathOf cohort.levels
        (PairTree.climb (parent h) proof.leafHash proof.leafIndex.toNat lower)
        (proof.leafIndex.toNat / 2 ^ lower.length) upper)

namespace MerkleCohort

/-- The proof has the path of a leaf and the position of this leaf. -/
def InPlace (cohort : MerkleCohort h) (proof : CohortProof D) : Prop :=
  proof.siblingHashes.length + 1 = cohort.levels.length ∧
    proof.leafIndex.toNat < cohort.leaves.length ∧
    PairTree.PathOf cohort.levels proof.leafHash proof.leafIndex.toNat proof.siblingHashes

/-- The path of a position in the cohort is that of the leaf there. -/
theorem pathOf_of_lt {leaf : D} {index : Nat} {siblings : List D}
    (hindex : index < cohort.leaves.length) :
    PairTree.PathOf cohort.levels leaf index siblings ↔
      cohort.leaves[index]? = some leaf ∧
        PairTree.siblingPath cohort.levels.dropLast index = some siblings := by
  unfold PairTree.PathOf
  rw [cohort.levels_eq, PairTree.landing_of_lt hindex, PairTree.head?_levels]
  simp

/-- A proof in place is no alias. -/
theorem InPlace.not_alias (hplace : cohort.InPlace proof) : ¬Alias cohort proof := by
  rcases hplace with ⟨hlength, hindex, -⟩
  intro halias
  cases halias with
  | outOfRange _ hindex' _ => omega
  | inner height hheight hlength' _ => omega
  | below lower upper hsiblings hlower hlength' _ =>
      have hpos := List.length_pos_of_ne_nil hlower
      rw [hsiblings, List.length_append] at hlength
      omega

section Injective

variable (hinj : ∀ a b c d, parent h a b = parent h c d → a = c ∧ b = d)
  (hroot : cohort.root = .ok root)

include hinj hroot

/-- A walk as long as the tree is high. -/
theorem climb_eq_root_iff {node : D} {index : Nat} {path : List D}
    (hlength : path.length + 1 = cohort.levels.length) :
    PairTree.climb (parent h) node index path = root ↔
      PairTree.PathOf cohort.levels node index path := by
  have hlast := getLast?_of_root hroot
  rw [cohort.levels_eq] at hlength ⊢
  exact PairTree.climb_eq_root_iff hinj hlast hlength

/-- A walk that starts above the leaves. -/
theorem climb_eq_root_iff_drop {node : D} {index height : Nat} {path : List D}
    (hlength : path.length + height + 1 = cohort.levels.length) :
    PairTree.climb (parent h) node index path = root ↔
      PairTree.PathOf (cohort.levels.drop height) node index path := by
  have hlast := getLast?_of_root hroot
  rw [cohort.levels_eq] at hlength ⊢
  have hheight : height < (PairTree.levels (parent h) cohort.leaves).length := by omega
  rcases PairTree.exists_drop_levels (parent h) cohort.leaves hheight with ⟨upper, hupper⟩
  have hlast' : (PairTree.levels (parent h) upper).getLast? = some [root] := by
    rw [← hupper, List.getLast?_drop, if_neg (by omega), hlast]
  have hlength' : path.length + 1 = (PairTree.levels (parent h) upper).length := by
    rw [← hupper, List.length_drop]
    omega
  rw [hupper]
  exact PairTree.climb_eq_root_iff hinj hlast' hlength'

/-- A walk of any length ends in the root from a leaf at its own position, or
from an alias. -/
theorem climb_eq_root_iff_alias :
    PairTree.climb (parent h) proof.leafHash proof.leafIndex.toNat proof.siblingHashes = root ↔
      cohort.InPlace proof ∨ Alias cohort proof := by
  constructor
  · intro hclimb
    rcases Nat.lt_trichotomy (proof.siblingHashes.length + 1) cohort.levels.length with
      hshort | hlength | hlong
    · have hheight : proof.siblingHashes.length +
          (cohort.levels.length - (proof.siblingHashes.length + 1)) + 1 =
            cohort.levels.length := by
        omega
      have hpath := (climb_eq_root_iff_drop hinj hroot hheight).mp hclimb
      exact .inr (.inner _ (by omega) hheight hpath)
    · have hpath := (climb_eq_root_iff hinj hroot hlength).mp hclimb
      by_cases hindex : proof.leafIndex.toNat < cohort.leaves.length
      · exact .inl ⟨hlength, hindex, hpath⟩
      · exact .inr (.outOfRange hlength (by omega) hpath)
    · -- The topmost siblings lead from the leaves to the root.
      have hpos : 0 < cohort.levels.length := by
        rw [cohort.levels_eq]
        exact List.length_pos_of_ne_nil (PairTree.levels_ne_nil _ _)
      let split := proof.siblingHashes.length + 1 - cohort.levels.length
      have hsplit := (List.take_append_drop split proof.siblingHashes).symm
      have hlower : proof.siblingHashes.take split ≠ [] := by
        apply List.ne_nil_of_length_pos
        rw [List.length_take]
        omega
      have hlength : (proof.siblingHashes.drop split).length + 1 = cohort.levels.length := by
        rw [List.length_drop]
        omega
      rw [hsplit, PairTree.climb_append] at hclimb
      have hpath := (climb_eq_root_iff hinj hroot hlength).mp hclimb
      exact .inr (.below _ _ hsplit hlower hlength hpath)
  · rintro (⟨hlength, -, hpath⟩ | halias)
    · exact (climb_eq_root_iff hinj hroot hlength).mpr hpath
    · cases halias with
      | outOfRange hlength _ hpath => exact (climb_eq_root_iff hinj hroot hlength).mpr hpath
      | inner height _ hlength hpath =>
          exact (climb_eq_root_iff_drop hinj hroot hlength).mpr hpath
      | below lower upper hsiblings _ hlength hpath =>
          rw [hsiblings, PairTree.climb_append]
          exact (climb_eq_root_iff hinj hroot hlength).mpr hpath

/-- The generated proofs are those in place that name the round and the root. -/
theorem generated_iff :
    (∃ leaf, cohort.proof leaf round = some (.ok proof)) ↔
      proof.roundId = round ∧ proof.merkleRoot = root ∧ cohort.InPlace proof := by
  have hfound : ∀ leaf ∈ cohort.leaves, ∃ found, cohort.proof leaf round = some (.ok found) ∧
      found.leafHash = leaf ∧ found.roundId = round ∧ found.merkleRoot = root ∧
      cohort.InPlace found := by
    intro leaf hleaf
    rcases cohort.exists_proof hleaf hroot round with
      ⟨found, hproof, hhash, hlength, hposition, hverify⟩
    rcases CohortProof.verify_eq_ok.mp hverify with ⟨hround, hmerkle, hclimb⟩
    have hindex := (List.getElem?_eq_some_iff.mp hposition).1
    have hpath := (climb_eq_root_iff hinj hroot hlength).mp hclimb
    exact ⟨found, hproof, hhash, hround, hmerkle, hlength, hindex, hpath⟩
  constructor
  · rintro ⟨leaf, hproof⟩
    by_cases hleaf : leaf ∈ cohort.leaves
    · rcases hfound leaf hleaf with ⟨found, hproof', -, hround, hmerkle, hplace⟩
      rw [hproof] at hproof'
      cases hproof'
      exact ⟨hround, hmerkle, hplace⟩
    · rw [cohort.proof_of_not_mem hleaf] at hproof
      simp at hproof
  · rintro ⟨hround, hmerkle, -, hindex, hpath⟩
    rcases (pathOf_of_lt hindex).mp hpath with ⟨hat, hsiblings⟩
    have hleaf : proof.leafHash ∈ cohort.leaves := List.mem_of_getElem? hat
    rcases hfound proof.leafHash hleaf with
      ⟨found, hproof, hhash, hround', hmerkle', -, hindex', hpath'⟩
    rcases (pathOf_of_lt hindex').mp hpath' with ⟨hat', hsiblings'⟩
    -- Leaves are distinct, so the position is that of the generated proof.
    have hposition : found.leafIndex.toNat = proof.leafIndex.toNat := by
      rw [hhash] at hat'
      exact (List.getElem?_inj hindex' cohort.sorted.nodup).mp (hat'.trans hat.symm)
    have hpaths : found.siblingHashes = proof.siblingHashes := by
      rw [hposition, hsiblings] at hsiblings'
      exact (Option.some.inj hsiblings').symm
    have hsame : found = proof := by
      rcases found with ⟨leafHash, leafIndex, siblingHashes, merkleRoot, roundId⟩
      rcases proof with ⟨leafHash', leafIndex', siblingHashes', merkleRoot', roundId'⟩
      simp only at hhash hpaths hround hround' hmerkle hmerkle' hposition
      have hword := UInt32.toNat_inj.mp hposition
      subst hhash hpaths hword
      rw [hround', hmerkle', hround, hmerkle]
    exact ⟨proof.leafHash, hsame ▸ hproof⟩

/-- On a proof, acceptance and generation agree exactly when it does not name
the round and the root of the cohort as an alias. -/
theorem verify_iff_generated :
    (proof.verify h root round = .ok () ↔ ∃ leaf, cohort.proof leaf round = some (.ok proof)) ↔
      ¬(proof.roundId = round ∧ proof.merkleRoot = root ∧ Alias cohort proof) := by
  rw [CohortProof.verify_eq_ok, climb_eq_root_iff_alias hinj hroot, generated_iff hinj hroot]
  have hdisjoint : cohort.InPlace proof → ¬Alias cohort proof := InPlace.not_alias
  tauto

end Injective

/-- A digest of one byte. -/
def byteDigest (byte : UInt8) : List (Fin 256) := [byte.toFin]

/-- Three digests; the last one is its own partner. -/
def oddDigests : List (List (Fin 256)) := [byteDigest 1, byteDigest 2, byteDigest 3]

/-- The parent of the first two. -/
def oddParent : List (Fin 256) := parent Blake3.verbatim (byteDigest 1) (byteDigest 2)

/-- The root of their cohort. -/
def oddRoot : List (Fin 256) :=
  parent Blake3.verbatim oddParent (parent Blake3.verbatim (byteDigest 3) (byteDigest 3))

/-- The proof of the last digest at a given position. -/
def lastProof (leafIndex : UInt32) : CohortProof (List (Fin 256)) :=
  { leafHash := byteDigest 3, leafIndex, siblingHashes := [byteDigest 3, oddParent],
    merkleRoot := oddRoot, roundId := 7 }

/-- The digests make a cohort with the given root. -/
theorem exists_oddCohort :
    ∃ cohort : MerkleCohort Blake3.verbatim, build Blake3.verbatim oddDigests = .ok cohort ∧
      cohort.leaves = oddDigests ∧ cohort.root = .ok oddRoot := by
  rcases exists_build Blake3.verbatim (by decide : oddDigests ≠ []) (by decide) (by decide) with
    ⟨cohort, hbuild⟩
  have hleaves : cohort.leaves = oddDigests := by
    rw [leaves_of_build hbuild]
    decide
  rcases cohort.exists_root with ⟨root, hlast, hroot⟩
  have hlevels : cohort.levels.getLast? = some [oddRoot] := by
    rw [cohort.levels_eq, hleaves]
    simp [oddDigests, oddRoot, oddParent, PairTree.levels_of_one_lt, PairTree.levels_of_length_le,
      PairTree.pairUp]
  rw [hlevels] at hlast
  cases hlast
  exact ⟨cohort, hbuild, hleaves, hroot⟩

/-- The proof of the last digest is accepted at the position of its partner,
which the cohort does not have: no leaf has this proof. -/
theorem verify_not_generated :
    ∃ cohort : MerkleCohort Blake3.verbatim, Blake3.verbatim.CollisionFree ∧
      build Blake3.verbatim oddDigests = .ok cohort ∧ cohort.root = .ok oddRoot ∧
      ¬((lastProof 3).verify Blake3.verbatim oddRoot 7 = .ok () ↔
        ∃ leaf, cohort.proof leaf 7 = some (.ok (lastProof 3))) := by
  rcases exists_oddCohort with ⟨cohort, hbuild, hleaves, hroot⟩
  refine ⟨cohort, Blake3.verbatim_collisionFree, hbuild, hroot, ?_⟩
  intro hiff
  have hverify : (lastProof 3).verify Blake3.verbatim oddRoot 7 = .ok () := by
    rw [CohortProof.verify_eq_ok]
    exact ⟨rfl, rfl, rfl⟩
  rcases (generated_iff (parent_inj Blake3.verbatim_collisionFree) hroot).mp (hiff.mp hverify) with
    ⟨-, -, -, hindex, -⟩
  rw [hleaves] at hindex
  exact absurd hindex (by decide)

/-- At its own position the proof of the last digest is generated. -/
theorem verify_iff_generated_demo :
    ∃ cohort : MerkleCohort Blake3.verbatim, build Blake3.verbatim oddDigests = .ok cohort ∧
      (((lastProof 2).verify Blake3.verbatim oddRoot 7 = .ok () ↔
          ∃ leaf, cohort.proof leaf 7 = some (.ok (lastProof 2))) ↔
        ¬((lastProof 2).roundId = 7 ∧ (lastProof 2).merkleRoot = oddRoot ∧
          Alias cohort (lastProof 2))) := by
  rcases exists_oddCohort with ⟨cohort, hbuild, -, hroot⟩
  exact ⟨cohort, hbuild,
    verify_iff_generated (parent_inj Blake3.verbatim_collisionFree) hroot⟩

end MerkleCohort

end MirrorPool
