/-
# Modules in another order

Two hosts whose answers differ only in the order of the modules of each project give aggregations
that differ only in this order, as long as no two modules have one id
(`Host.ReordersModules.endAlike`).
-/
import CompositeBuild.Proofs.Aggregation.Isolation
import CompositeBuild.Proofs.Aggregation.KeySets
import CompositeBuild.Proofs.Aggregation.Reordering
import CompositeBuild.Proofs.Collection.Relisting

namespace CompositeBuild

/-! ## Projects and answers -/

/-- The second project is the first with its modules in another order. -/
def Project.Reordered (p₁ p₂ : Project) : Prop :=
  ∃ modules, p₁.modules.Perm modules ∧ p₂ = { p₁ with modules }

/-- Two answers have related models, or none, and the same failures. -/
structure Fetched.Alike {α : Type} (R : α → α → Prop) (f₁ f₂ : Fetched α) : Prop where
  model : Option.Rel R f₁.model f₂.model
  failures : f₁.failures = f₂.failures

theorem Fetched.Alike.diagnostics_eq {α : Type} {R : α → α → Prop} {f₁ f₂ : Fetched α}
    (h : f₁.Alike R f₂) (scope : Scope) : f₁.diagnostics scope = f₂.diagnostics scope := by
  unfold Fetched.diagnostics
  rw [h.failures]

/-- The answers of the second host are those of the first with the modules of each project in
another order. -/
structure Host.ReordersModules (h₁ h₂ : Host) : Prop where
  rootProject : h₁.rootProject.Alike Project.Reordered h₂.rootProject
  project : ∀ ref, (h₁.project ref).Alike Project.Reordered (h₂.project ref)
  toolchain : ∀ m, (h₁.toolchain m).value = (h₂.toolchain m).value
  sourceSets : ∀ m, (h₁.sourceSets m).value = (h₂.sourceSets m).value
  graph : h₁.graph.value = h₂.graph.value
  version : h₁.version = h₂.version

/-- Two aggregations differ in the order of the modules of each project only.  If no two modules
have one id, they hold the same facets, and the same diagnostics in some order. -/
structure Aggregation.ReordersModules (a₁ a₂ : Aggregation) : Prop where
  projects : List.Forall₂ Project.Reordered a₁.snapshot.projects a₂.snapshot.projects
  moduleIds : a₁.snapshot.moduleIds = a₂.snapshot.moduleIds
  facets : (a₁.snapshot.modules.map Module.id).Nodup →
    a₁.snapshot.toolchains = a₂.snapshot.toolchains ∧
      a₁.snapshot.sourceSets = a₂.snapshot.sourceSets ∧ a₁.diagnostics.Perm a₂.diagnostics

/-- Projects with their modules in another order have the same modules in another order. -/
theorem perm_flatMap_modules {ps₁ ps₂ : List Project} (h : List.Forall₂ Project.Reordered ps₁ ps₂) :
    (ps₁.flatMap Project.modules).Perm (ps₂.flatMap Project.modules) := by
  induction h with
  | nil => exact .refl _
  | cons hp _ ih =>
    obtain ⟨modules, hperm, rfl⟩ := hp
    rw [List.flatMap_cons, List.flatMap_cons]
    exact hperm.append ih

/-! ## Outcomes -/

namespace Host.ReordersModules

variable {h₁ h₂ : Host} (h : h₁.ReordersModules h₂)
include h

theorem facets_eq (modules : List Module) :
    h₁.toolchainEntries modules = h₂.toolchainEntries modules ∧
      h₁.sourceSetEntries modules = h₂.sourceSetEntries modules ∧
      modules.flatMap h₁.facetDiagnostics = modules.flatMap h₂.facetDiagnostics := by
  unfold toolchainEntries sourceSetEntries toolchainOf sourceSetsOf facetDiagnostics
  simp only [h.toolchain, h.sourceSets, and_self]

section Outcome

variable {root₁ root₂ : Project} (hroot : root₁.Reordered root₂) (config : AggregationConfig)
include hroot

/-- The hosts visit the same handles. -/
theorem visitedRefs_eq : h₁.visitedRefs config root₁ = h₂.visitedRefs config root₂ := by
  obtain ⟨modules, -, rfl⟩ := hroot
  unfold visitedRefs AggregationConfig.strategyFor
  rw [h.graph, h.version]

/-- The hosts compose the same projects with their modules in another order. -/
theorem forall₂_composedProjects : List.Forall₂ Project.Reordered
    (h₁.composedProjects config root₁) (h₂.composedProjects config root₂) := by
  unfold composedProjects
  rw [h.visitedRefs_eq hroot]
  have hrefs : List.Forall₂ Eq (h₂.visitedRefs config root₂) (h₂.visitedRefs config root₂) :=
    List.forall₂_refl _
  refine .cons hroot (List.rel_filterMap ?_ hrefs)
  rintro ref _ rfl
  exact (h.project ref).model

theorem perm_modules : (h₁.outcome config root₁).snapshot.modules.Perm
    (h₂.outcome config root₂).snapshot.modules :=
  perm_flatMap_modules (h.forall₂_composedProjects hroot config)

/-- The outcomes for the two root projects differ in the order of modules only. -/
theorem outcome (hmodel₁ : h₁.rootProject.model = some root₁)
    (hmodel₂ : h₂.rootProject.model = some root₂) :
    (h₁.outcome config root₁).ReordersModules (h₂.outcome config root₂) := by
  have hmodules := h.perm_modules hroot config
  refine ⟨h.forall₂_composedProjects hroot config, ?_, fun hids => ?_⟩
  · apply SortedSet.eq_of_toList
    rw [(keysFollow_outcome hmodel₁ config).moduleIds,
      (keysFollow_outcome hmodel₂ config).moduleIds]
    refine SortedMap.keys_eq_of_mem_iff fun id => ?_
    rw [mem_sourceSets_keys_outcome, mem_sourceSets_keys_outcome]
    simp only [hmodules.mem_iff]
  · -- With different ids no entry replaces another,
    -- so the maps do not depend on the order of insertion.
    have hids' := (hmodules.map Module.id).nodup_iff.1 hids
    obtain ⟨htoolchains, hsets, hfailures⟩ := h.facets_eq (h₁.outcome config root₁).snapshot.modules
    refine ⟨?_, ?_, ?_⟩
    · show SortedMap.ofList (h₁.toolchainEntries (h₁.outcome config root₁).snapshot.modules) = _
      rw [htoolchains]
      apply SortedMap.ofList_of_perm (hmodules.filterMap _)
      exact hids.sublist (h₂.map_fst_toolchainEntries_sublist _)
    · show SortedMap.ofList (h₁.sourceSetEntries (h₁.outcome config root₁).snapshot.modules) = _
      rw [hsets]
      apply SortedMap.ofList_of_perm (hmodules.map _)
      show ((h₂.sourceSetEntries _).map (·.1)).Nodup
      rw [map_fst_sourceSetEntries]
      exact hids
    · rw [h₁.diagnostics_outcome_of_nodup hids, h₂.diagnostics_outcome_of_nodup hids',
        h.visitedRefs_eq hroot, h.rootProject.diagnostics_eq, hfailures]
      have hrefs : h₁.refDiagnostics = h₂.refDiagnostics := by
        funext ref
        exact (h.project ref).diagnostics_eq _
      rw [hrefs]
      exact (hmodules.flatMap_right _).append_left _

end Outcome

/-- The aggregations of the hosts end with the same error, or they differ in the order of modules
only. -/
theorem endAlike (config : AggregationConfig) : EndAlike Aggregation.ReordersModules
    (h₁.aggregate config).value (h₂.aggregate config).value := by
  rw [aggregate_value, aggregate_value, h.rootProject.failures]
  obtain ⟨hmodel₁, hmodel₂⟩ | ⟨root₁, root₂, hmodel₁, hmodel₂, hroot⟩ :=
    rel_cases h.rootProject.model
  · rw [hmodel₁, hmodel₂]
    exact .failed _
  · rw [hmodel₁, hmodel₂]
    exact .succeeded (h.outcome hroot config hmodel₁ hmodel₂)

end Host.ReordersModules

end CompositeBuild
