import MirrorPool.Core.Policy

/-!
# Tamper evidence of pool configurations

The compact JSON text of a configuration determines every field: enumerations
are told apart by their names, sets by their sorted members, and numbers by
their digits.  Under a hash function without collisions the configuration hash
is then a fingerprint of all fields but itself.

Main results:

- Theorem {lit}`PoolConfig.computeHash_eq_iff`: two configurations have the same
  hash exactly when they agree on every field but the hash.
- Theorem {lit}`PoolConfig.tamper_evident`: no change of a valid configuration
  under its hash is valid, and computing the hash makes admissible bounds valid.
-/

namespace MirrorPool

open Fallible JsonText

/-! ## Readable fields -/

/-- The names of the backends are told apart. -/
theorem PrivacyBackend.readable_json : Readable PrivacyBackend.json :=
  readable_of_prefixFree fun a b hprefix => by
    revert hprefix
    cases a <;> cases b <;> decide

/-- The names of the completion policies are told apart. -/
theorem CompletionPolicy.readable_json : Readable CompletionPolicy.json :=
  readable_of_prefixFree fun a b hprefix => by
    revert hprefix
    cases a <;> cases b <;> decide

/-- The names of the clusters are told apart. -/
theorem Cluster.readable_json : Readable Cluster.json :=
  readable_of_prefixFree fun a b hprefix => by
    revert hprefix
    cases a <;> cases b <;> decide

/-- No name of a cluster starts with a closing bracket. -/
theorem Cluster.opens_json : Opens Cluster.json := by
  intro cluster s hhead
  cases cluster <;> exact absurd (Option.some.inj hhead) (by decide)

/-- The authority that a policy names. -/
def GovernancePolicy.authority : GovernancePolicy → Vector UInt8 32
  | singleAuthority authority => authority

/-- A governance policy is told apart by the authority that it names. -/
theorem GovernancePolicy.readable_json : Readable GovernancePolicy.json := by
  have hauthority : Function.Injective fun policy : GovernancePolicy =>
      policy.authority.toList := by
    rintro ⟨a⟩ ⟨b⟩ hsame
    exact congrArg singleAuthority (Vector.toList_inj.mp hsame)
  exact ((readable_jsonBytes.object "authority").object "single_authority").comp hauthority

/-- The sorted list has the clusters of the set. -/
theorem mem_sortedClusters {clusters : Finset Cluster} {cluster : Cluster} :
    cluster ∈ sortedClusters clusters ↔ cluster ∈ clusters := by
  rw [sortedClusters, List.mem_filter, decide_eq_true_iff, and_iff_right_iff_imp]
  cases cluster <;> simp

/-- A set of clusters is determined by its members in ascending order. -/
theorem sortedClusters_injective : Function.Injective sortedClusters := by
  intro clusters clusters' hsame
  ext cluster
  rw [← mem_sortedClusters, hsame, mem_sortedClusters]

/-- A program identifier is determined by its bytes. -/
theorem programIdDigits_injective : Function.Injective programIdDigits := by
  intro programId programId' hsame
  have htoNat : Function.Injective UInt8.toNat := fun _ _ => UInt8.toNat_inj.mp
  exact Vector.toList_inj.mp (List.map_injective_iff.mpr htoNat hsame)

/-- A set of program identifiers is determined by its members in ascending
order. -/
theorem sortedProgramIds_injective : Function.Injective sortedProgramIds := by
  intro programIds programIds' hsame
  have himage := congrArg List.toFinset hsame
  rw [sortedProgramIds, sortedProgramIds, Finset.sort_toFinset, Finset.sort_toFinset] at himage
  exact Finset.image_injective programIdDigits_injective himage

/-- Sets of clusters are told apart by their text. -/
theorem readable_sortedClusters :
    Readable fun clusters => jsonArray ((sortedClusters clusters).map Cluster.json) :=
  (Cluster.readable_json.array Cluster.opens_json).comp sortedClusters_injective

/-- Sets of program identifiers are told apart by their text. -/
theorem readable_sortedProgramIds :
    Readable fun programIds => jsonArray ((sortedProgramIds programIds).map
      fun digits => jsonArray (digits.map jsonNumber)) :=
  ((readable_jsonNumber.array opens_jsonNumber).array (opens_jsonArray _)).comp
    sortedProgramIds_injective

variable {D : Type} {h : Blake3 D}

namespace PoolConfig

/-! ## The configuration hash -/

/-- The fields of two configurations are told apart. -/
theorem sameNames_fields (hbytes : Function.Injective h.bytes) (config config' : PoolConfig D) :
    SameNames (config.fields h) (config'.fields h) := by
  have hdigest := (Blake3.readable_bytes hbytes).separates
  exact .cons ⟨rfl, hdigest _ _⟩ <| .cons ⟨rfl, readable_uint16.separates _ _⟩ <|
    .cons ⟨rfl, GovernancePolicy.readable_json.separates _ _⟩ <| .cons ⟨rfl, hdigest _ _⟩ <|
    .cons ⟨rfl, readable_uint32.separates _ _⟩ <| .cons ⟨rfl, readable_uint32.separates _ _⟩ <|
    .cons ⟨rfl, readable_uint64.separates _ _⟩ <| .cons ⟨rfl, readable_uint64.separates _ _⟩ <|
    .cons ⟨rfl, readable_uint64.separates _ _⟩ <| .cons ⟨rfl, readable_uint64.separates _ _⟩ <|
    .cons ⟨rfl, readable_uint64.separates _ _⟩ <|
    .cons ⟨rfl, PrivacyBackend.readable_json.separates _ _⟩ <|
    .cons ⟨rfl, readable_sortedClusters.separates _ _⟩ <|
    .cons ⟨rfl, readable_sortedProgramIds.separates _ _⟩ <|
    .cons ⟨rfl, CompletionPolicy.readable_json.separates _ _⟩ <|
    .cons ⟨rfl, readable_int64.separates _ _⟩ <| .cons ⟨rfl, hdigest _ _⟩ .nil

/-- The fields of a configuration determine it. -/
theorem fields_injective (hbytes : Function.Injective h.bytes) :
    Function.Injective (fields h : PoolConfig D → List (String × List UInt8)) := by
  intro config config' hsame
  have hdigest := (Blake3.readable_bytes hbytes).injective
  simp only [fields, List.cons.injEq, Prod.mk.injEq, true_and, and_true] at hsame
  rcases hsame with ⟨hpool, hversion, hgovernance, htemplate, hmin, hmax, hduration, hminDelay,
    hmaxDelay, hwindow, hdispersion, hbackend, hclusters, hprograms, hcompletion, hcreated, hhash⟩
  rcases config
  rcases config'
  simp only [mk.injEq]
  exact ⟨hdigest hpool, readable_uint16.injective hversion,
    GovernancePolicy.readable_json.injective hgovernance, hdigest htemplate,
    readable_uint32.injective hmin, readable_uint32.injective hmax,
    readable_uint64.injective hduration, readable_uint64.injective hminDelay,
    readable_uint64.injective hmaxDelay, readable_uint64.injective hwindow,
    readable_uint64.injective hdispersion, PrivacyBackend.readable_json.injective hbackend,
    readable_sortedClusters.injective hclusters, readable_sortedProgramIds.injective hprograms,
    CompletionPolicy.readable_json.injective hcompletion, readable_int64.injective hcreated,
    hdigest hhash⟩

/-- The text of a configuration determines it. -/
theorem jsonObject_fields_injective (hbytes : Function.Injective h.bytes) :
    Function.Injective fun config : PoolConfig D => jsonObject (config.fields h) := by
  intro config config' hsame
  have hfields := jsonObject_append_inj (s := []) (t := []) (sameNames_fields hbytes config config')
    (congrArg (· ++ []) hsame)
  exact fields_injective hbytes hfields.1

variable [Inhabited D]

/-- Without collisions two configurations have the same hash exactly when they
agree on every field but the hash. -/
theorem computeHash_eq_iff (hfree : h.CollisionFree) {config config' : PoolConfig D} :
    config.computeHash h = config'.computeHash h ↔
      config' = { config with configurationHash := config'.configurationHash } := by
  constructor
  · intro hhash
    have htext := (hfree.hash_inj (by decide) (by decide) hhash).2
    have hzeroed := jsonObject_fields_injective hfree.bytes_injective htext
    rw [mk.injEq] at hzeroed
    rcases config
    rcases config'
    simp_all
  · intro hagree
    rw [hagree]
    rfl

variable [DecidableEq D]

/-- Without collisions a configuration is tamper-evident: its hash determines
every other field, a change under the same hash is refused, and computing the
hash makes admissible bounds valid. -/
theorem tamper_evident (hfree : h.CollisionFree) :
    (∀ config config' : PoolConfig D, config.computeHash h = config'.computeHash h ↔
      config' = { config with configurationHash := config'.configurationHash }) ∧
    (∀ config config' : PoolConfig D, config.validate h = .ok () →
      config'.configurationHash = config.configurationHash → config' ≠ config →
      ∃ error, config'.validate h = .error error) ∧
    ∀ config : PoolConfig D, config.Admissible → (config.withHash h).validate h = .ok () := by
  refine ⟨fun _ _ => computeHash_eq_iff hfree, fun config config' hvalid hkept hchanged => ?_,
    fun _ => validate_withHash⟩
  cases hvalidate : config'.validate h with
  | error error => exact ⟨error, rfl⟩
  | ok u =>
      have hhash : config.computeHash h = config'.computeHash h := by
        rw [(validate_eq_ok.mp hvalid).2, (validate_eq_ok.mp hvalidate).2, hkept]
      have hagree := (computeHash_eq_iff hfree).mp hhash
      rw [hkept] at hagree
      exact absurd hagree hchanged

end PoolConfig

/-- A configuration for two to ten participants, with its hash. -/
def samplePolicy : PoolConfig (List (Fin 256)) :=
  { poolId := Blake3.oneByte 1
    version := schemaVersion
    governance := .singleAuthority (.replicate 32 1)
    actionTemplateHash := Blake3.oneByte 2
    minParticipants := 2
    maxParticipants := 10
    registrationDurationSlots := 100
    minReleaseDelaySlots := 2
    maxReleaseDelaySlots := 50
    executionWindowSlots := 20
    maxTimingDispersionSlots := 20
    privacyBackend := .merkleCohort
    allowedClusters := {.localnet, .devnet}
    allowedProgramIds := {.replicate 32 9}
    completionPolicy := .redactedReceipt
    createdAtUnix := -5
    configurationHash := [] : PoolConfig (List (Fin 256)) }.withHash Blake3.verbatim

/-- One more participant, and the configuration is refused. -/
theorem PoolConfig.tamper_evident_demo :
    ∃ error, { samplePolicy with maxParticipants := 11 }.validate Blake3.verbatim =
      .error error := by
  have hevident := tamper_evident Blake3.verbatim_collisionFree
  have hvalid : samplePolicy.validate Blake3.verbatim = .ok () := by
    apply hevident.2.2
    constructor <;> decide
  exact hevident.2.1 samplePolicy _ hvalid rfl fun hsame =>
    absurd (congrArg maxParticipants hsame) (by decide)

end MirrorPool
