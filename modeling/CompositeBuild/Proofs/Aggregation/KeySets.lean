/-
# The keys of a snapshot

An aggregation fails exactly if the root project has no model.  If it succeeds, every module has an
entry of source sets under its id, whatever failed about it, the modules with toolchain settings
have an entry of these, and there are no other entries; so the module ids of a snapshot are the keys
of its source sets (`keySets_of_aggregate`).
-/
import CompositeBuild.Proofs.Aggregation.FailureStream

namespace CompositeBuild

open Std

theorem ModuleId.compare_eq_lt_iff {a b : ModuleId} : compare a b = .lt ↔ a.text < b.text :=
  compareOfLessAndEq_eq_lt

namespace Host

variable (host : Host)

/-- The ids of the entries of toolchain settings are those of the modules with settings. -/
theorem mem_map_fst_toolchainEntries {modules : List Module} {id : ModuleId} :
    id ∈ (host.toolchainEntries modules).map (·.1) ↔
      ∃ m ∈ modules, (host.toolchainOf m).isSome = true ∧ m.id = id := by
  unfold toolchainEntries
  simp only [List.mem_map, List.mem_filterMap, Option.map_eq_some_iff, Option.isSome_iff_exists]
  constructor
  · rintro ⟨entry, ⟨m, hm, settings, hsettings, rfl⟩, rfl⟩
    exact ⟨m, hm, ⟨settings, hsettings⟩, rfl⟩
  · rintro ⟨m, hm, ⟨settings, hsettings⟩, rfl⟩
    exact ⟨(m.id, settings), ⟨m, hm, settings, hsettings, rfl⟩, rfl⟩

variable (config : AggregationConfig) (root : Project) (id : ModuleId)

/-- The keys of the source sets of an outcome are the ids of its modules. -/
theorem mem_sourceSets_keys_outcome :
    id ∈ (host.outcome config root).snapshot.sourceSets.keys ↔
      ∃ m ∈ (host.outcome config root).snapshot.modules, m.id = id := by
  show id ∈ (SortedMap.insertAll .empty (host.sourceSetEntries
    (host.outcome config root).snapshot.modules)).keys ↔ _
  rw [SortedMap.mem_keys_insertAll, map_fst_sourceSetEntries, List.mem_map]
  simp [SortedMap.keys, SortedMap.empty]

/-- The keys of the toolchain settings of an outcome are the ids of its modules with settings. -/
theorem mem_toolchains_keys_outcome :
    id ∈ (host.outcome config root).snapshot.toolchains.keys ↔
      ∃ m ∈ (host.outcome config root).snapshot.modules,
        (host.toolchainOf m).isSome = true ∧ m.id = id := by
  show id ∈ (SortedMap.insertAll .empty (host.toolchainEntries
    (host.outcome config root).snapshot.modules)).keys ↔ _
  rw [SortedMap.mem_keys_insertAll, mem_map_fst_toolchainEntries]
  simp [SortedMap.keys, SortedMap.empty]

end Host

/-- The module ids of a snapshot are listed in the order of their texts. -/
theorem Snapshot.moduleIds_increasing (s : Snapshot) :
    (s.moduleIds.toList.map ModuleId.text).Pairwise (· < ·) := by
  rw [List.pairwise_map]
  exact s.moduleIds.increasing.imp ModuleId.compare_eq_lt_iff.1

/-- If all keys of the toolchain settings are keys of the source sets, these are the module ids. -/
theorem Snapshot.moduleIds_eq_keys {s : Snapshot} (h : s.toolchains.keys ⊆ s.sourceSets.keys) :
    s.moduleIds.toList = s.sourceSets.keys := by
  apply SortedSet.toList_eq_of_mem_iff s.sourceSets.keys_increasing
  intro id
  unfold moduleIds
  rw [SortedSet.mem_ofListFirst, List.mem_append]
  exact or_iff_left_of_imp (@h id)

/-- The keys in an aggregation follow from the answers of its host: each module has source sets
under its id, and each module with toolchain settings has settings under its id. -/
structure Aggregation.KeysFollow (host : Host) (a : Aggregation) : Prop where
  root : a.snapshot.projects.head? = host.rootProject.model
  sourceSets : ∀ id, id ∈ a.snapshot.sourceSets.keys ↔ ∃ m ∈ a.snapshot.modules, m.id = id
  toolchains : ∀ id, id ∈ a.snapshot.toolchains.keys ↔
    ∃ m ∈ a.snapshot.modules, (host.toolchainOf m).isSome = true ∧ m.id = id
  covered : a.snapshot.toolchains.keys ⊆ a.snapshot.sourceSets.keys
  moduleIds : a.snapshot.moduleIds.toList = a.snapshot.sourceSets.keys
  increasing : (a.snapshot.moduleIds.toList.map ModuleId.text).Pairwise (· < ·)

/-- The keys of an outcome follow from the answers of the host. -/
theorem Host.keysFollow_outcome {host : Host} {root : Project}
    (hroot : host.rootProject.model = some root) (config : AggregationConfig) :
    (host.outcome config root).KeysFollow host := by
  have hcovered : (host.outcome config root).snapshot.toolchains.keys ⊆
      (host.outcome config root).snapshot.sourceSets.keys := by
    intro id hid
    obtain ⟨m, hm, -, hmid⟩ := (host.mem_toolchains_keys_outcome config root id).1 hid
    exact (host.mem_sourceSets_keys_outcome config root id).2 ⟨m, hm, hmid⟩
  exact
    { root := hroot.symm
      sourceSets := host.mem_sourceSets_keys_outcome config root
      toolchains := host.mem_toolchains_keys_outcome config root
      covered := hcovered
      moduleIds := Snapshot.moduleIds_eq_keys hcovered
      increasing := Snapshot.moduleIds_increasing _ }

/-- **The keys of a snapshot.** An aggregation fails exactly if the root project has no model, and
then with the texts of its failures, whatever else its host answers.  If it succeeds, the root
project comes first, and the keys of the snapshot are the ids of its modules. -/
theorem keySets_of_aggregate (host : Host) (config : AggregationConfig) :
    (∀ e, (host.aggregate config).value = .error e ↔
      host.rootProject.model = none ∧
        e.failures = host.rootProject.failures.map Failure.display) ∧
    ∀ a, (host.aggregate config).value = .ok a → a.KeysFollow host := by
  constructor
  · intro e
    rw [host.aggregate_value]
    cases hroot : host.rootProject.model with
    | none =>
      cases e
      simp [eq_comm]
    | some root => simp
  · intro a ha
    obtain ⟨root, hroot, rfl⟩ := host.aggregate_eq_ok_iff.1 ha
    exact Host.keysFollow_outcome hroot config

/-- The keys of a host with failures in every answer and two modules with one id: only the first of
the two has toolchain settings. -/
theorem keySets_of_partlyBroken :
    (PartlyBroken.host.aggregate .default).value = .ok PartlyBroken.aggregation ∧
      PartlyBroken.aggregation.snapshot.projects.head? = some SharedId.project ∧
      PartlyBroken.aggregation.snapshot.moduleIds.toList = [⟨"tools"⟩, SharedId.id] ∧
      (SharedId.id ∈ PartlyBroken.aggregation.snapshot.toolchains.keys ∧
        ⟨"tools"⟩ ∉ PartlyBroken.aggregation.snapshot.toolchains.keys) := by
  have hkeys := (keySets_of_aggregate PartlyBroken.host .default).2 _ PartlyBroken.aggregate_host
  refine ⟨PartlyBroken.aggregate_host, hkeys.root, ?_, ?_, ?_⟩
  · rw [hkeys.moduleIds]
    decide
  · rw [hkeys.toolchains]
    exact ⟨SharedId.first, by decide, by decide, rfl⟩
  · rw [hkeys.toolchains]
    decide

end CompositeBuild
