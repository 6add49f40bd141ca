/-
# Hosts that agree on some builds

What an aggregation ends with depends on the answers about the builds that it meets only: two hosts
that agree on these builds have the same result (`Host.AgreeOn.aggregate_value_eq`).
-/
import CompositeBuild.Proofs.Aggregation.Outcome
import Mathlib.Data.Set.Basic

namespace CompositeBuild.Host

/-- Two hosts give the same answers about the composite and about the builds of some names. -/
structure AgreeOn (builds : Set String) (h₁ h₂ : Host) : Prop where
  rootProject : h₁.rootProject = h₂.rootProject
  graph : h₁.graph.value = h₂.graph.value
  version : h₁.version = h₂.version
  project : ∀ ref : ProjectRef, ref.build ∈ builds → h₁.project ref = h₂.project ref
  toolchain : ∀ m : Module, m.build ∈ builds → (h₁.toolchain m).value = (h₂.toolchain m).value
  sourceSets : ∀ m : Module, m.build ∈ builds → (h₁.sourceSets m).value = (h₂.sourceSets m).value

/-- An aggregation meets no other builds than those of some names: neither when it visits handles,
nor as the builds of the modules that it finds. -/
structure MeetsOnly (builds : Set String) (host : Host) (config : AggregationConfig)
    (root : Project) : Prop where
  refs : ∀ ref ∈ host.visitedRefs config root, ref.build ∈ builds
  modules : ∀ p ∈ host.composedProjects config root, ∀ m ∈ p.modules, m.build ∈ builds

namespace AgreeOn

variable {builds : Set String} {h₁ h₂ : Host} {config : AggregationConfig} {root : Project}

/-- The hosts visit the same handles. -/
theorem visitedRefs_eq (h : AgreeOn builds h₁ h₂) :
    h₁.visitedRefs config root = h₂.visitedRefs config root := by
  unfold visitedRefs AggregationConfig.strategyFor
  rw [h.graph, h.version]

/-- The hosts compose the same projects, if only builds on which they agree are met. -/
theorem composedProjects_eq (h : AgreeOn builds h₁ h₂) (hmeets : h₁.MeetsOnly builds config root) :
    h₁.composedProjects config root = h₂.composedProjects config root := by
  have hmodels : ∀ ref ∈ h₁.visitedRefs config root,
      (h₁.project ref).model = (h₂.project ref).model := fun ref href => by
    rw [h.project ref (hmeets.refs ref href)]
  unfold composedProjects
  rw [← h.visitedRefs_eq, List.filterMap_congr hmodels]

/-- The hosts give the same facets for projects whose modules are of builds on which they agree. -/
theorem facetsOf_eq (h : AgreeOn builds h₁ h₂) {p : Project}
    (hp : ∀ m ∈ p.modules, m.build ∈ builds) : h₁.facetsOf p = h₂.facetsOf p := by
  unfold facetsOf
  rw [ProjectFacets.mk.injEq]
  refine ⟨List.filterMap_congr fun m hm => ?_, List.map_congr_left fun m hm => ?_,
    List.flatMap_congr fun m hm => ?_⟩
  · unfold toolchainOf
    rw [h.toolchain m (hp m hm)]
  · unfold sourceSetsOf
    rw [h.sourceSets m (hp m hm)]
  · unfold facetDiagnostics
    rw [h.toolchain m (hp m hm), h.sourceSets m (hp m hm)]

/-- The outcomes of the hosts are the same, if only builds on which they agree are met. -/
theorem outcome_eq (h : AgreeOn builds h₁ h₂) (hmeets : h₁.MeetsOnly builds config root) :
    h₁.outcome config root = h₂.outcome config root := by
  have hfacets : (h₁.composedProjects config root).map h₁.facetsOf =
      (h₁.composedProjects config root).map h₂.facetsOf :=
    List.map_congr_left fun p hp => h.facetsOf_eq (hmeets.modules p hp)
  have hfailures : (h₁.visitedRefs config root).flatMap h₁.refDiagnostics =
      (h₁.visitedRefs config root).flatMap h₂.refDiagnostics :=
    List.flatMap_congr fun ref href => by
      unfold refDiagnostics
      rw [h.project ref (hmeets.refs ref href)]
  unfold outcome
  dsimp only
  rw [← flatMap_toolchains, ← flatMap_toolchains, ← flatMap_sourceSets, ← flatMap_sourceSets,
    hfacets, hfailures, h.rootProject, h.visitedRefs_eq, h.composedProjects_eq hmeets]

/-- **Hosts that agree on all builds that an aggregation meets have the same result.** -/
theorem aggregate_value_eq (h : AgreeOn builds h₁ h₂)
    (hmeets : ∀ root, h₁.rootProject.model = some root → h₁.MeetsOnly builds config root) :
    (h₁.aggregate config).value = (h₂.aggregate config).value := by
  rw [aggregate_value, aggregate_value, ← h.rootProject]
  cases hroot : h₁.rootProject.model with
  | none => rfl
  | some root => exact congrArg Except.ok (h.outcome_eq (hmeets root hroot))

end AgreeOn

end CompositeBuild.Host
