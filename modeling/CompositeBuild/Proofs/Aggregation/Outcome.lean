/-
# What an aggregation holds

An aggregation that succeeds holds what one pass over the answers of its host gives: `Host.outcome`
lists the projects, sets the entries of all modules in order, and lists the failures unit by unit.
`aggregate_value` says that the aggregation gives this, whether or not the facets of the projects
are fetched at the same time; everything else about aggregations is derived from it.
-/
import CompositeBuild.Proofs.Aggregation.Merging

namespace CompositeBuild

/-- The modules of the projects of a snapshot, in order. -/
def Snapshot.modules (s : Snapshot) : List Module := s.projects.flatMap Project.modules

namespace Host

variable (host : Host)

/-! ## The answers about one module -/

/-- The toolchain settings that a host gives for a module. -/
def toolchainOf (m : Module) : Option ToolchainSettings := (host.toolchain m).value.model

/-- The source sets that a host gives for a module; none if it gives no model for them. -/
def sourceSetsOf (m : Module) : SortedSet SourceSet :=
  (host.sourceSets m).value.model.getD .empty

/-- The diagnostics of the failures in the answers about a module. -/
def facetDiagnostics (m : Module) : List Diagnostic :=
  (host.toolchain m).value.diagnostics (.toolchain m.id) ++
    (host.sourceSets m).value.diagnostics (.sourceSets m.id)

theorem fetchModule_value (m : Module) :
    (host.fetchModule m).value =
      ⟨m.id, host.toolchainOf m, host.sourceSetsOf m, host.facetDiagnostics m⟩ := rfl

/-! ## The answers about the modules of a project -/

/-- The toolchain settings that a host gives for some modules, by their ids. -/
def toolchainEntries (modules : List Module) : List (ModuleId × ToolchainSettings) :=
  modules.filterMap fun m => (host.toolchainOf m).map fun settings => (m.id, settings)

/-- The source sets that a host gives for some modules, by their ids. -/
def sourceSetEntries (modules : List Module) : List (ModuleId × SortedSet SourceSet) :=
  modules.map fun m => (m.id, host.sourceSetsOf m)

/-- The facets of the modules of a project. -/
def facetsOf (p : Project) : ProjectFacets :=
  ⟨host.toolchainEntries p.modules, host.sourceSetEntries p.modules,
    p.modules.flatMap host.facetDiagnostics⟩

/-- Every module has an entry of source sets under its id. -/
theorem map_fst_sourceSetEntries (modules : List Module) :
    (host.sourceSetEntries modules).map (·.1) = modules.map Module.id := by
  unfold sourceSetEntries
  rw [List.map_map]
  rfl

/-- Fetching the facets of a project gives the answers about its modules in order. -/
theorem fetchFacets_value (p : Project) : (host.fetchFacets p).value = host.facetsOf p := by
  unfold fetchFacets
  rw [Logged.value_bind, Logged.value_pure, Logged.value_forEach]
  unfold ProjectFacets.ofModules facetsOf toolchainEntries sourceSetEntries
  simp only [fetchModule_value, List.filterMap_map, List.map_map, List.flatMap_map,
    Function.comp_def]

/-- Fetching the facets of all projects gives them in the order of the projects, whether or not they
are fetched at the same time. -/
theorem fetchAllFacets_value (parallel : Bool) (projects : List Project) :
    (host.fetchAllFacets parallel projects).value = projects.map host.facetsOf := by
  cases parallel with
  | true =>
    show (Logged.forEach (projects.map fun p => Task.spawn fun _ => host.fetchFacets p)
      Task.get).value = _
    rw [Logged.value_forEach, List.map_map]
    exact List.map_congr_left fun p _ => host.fetchFacets_value p
  | false =>
    show (Logged.forEach projects host.fetchFacets).value = _
    rw [Logged.value_forEach]
    exact List.map_congr_left fun p _ => host.fetchFacets_value p

/-- The entries of toolchain settings of projects are those of all their modules. -/
theorem flatMap_toolchains (projects : List Project) :
    (projects.map host.facetsOf).flatMap ProjectFacets.toolchains =
      host.toolchainEntries (projects.flatMap Project.modules) := by
  unfold toolchainEntries
  rw [List.flatMap_map, List.filterMap_flatMap]
  rfl

/-- The entries of source sets of projects are those of all their modules. -/
theorem flatMap_sourceSets (projects : List Project) :
    (projects.map host.facetsOf).flatMap ProjectFacets.sourceSets =
      host.sourceSetEntries (projects.flatMap Project.modules) := by
  unfold sourceSetEntries
  rw [List.flatMap_map, List.map_flatMap]
  rfl

/-! ## The projects -/

section Projects

variable (config : AggregationConfig) (root : Project)

/-- The handles that are fetched: those of the discovered builds, in order. -/
def visitedRefs : List ProjectRef :=
  (host.graph.value.discover (config.strategyFor host) root.build).flatMap BuildRef.projects

/-- The projects of an aggregation: the root project, and the models of the handles that have
one. -/
def composedProjects : List Project :=
  root :: (host.visitedRefs config root).filterMap fun ref => (host.project ref).model

/-- The diagnostics of the failures in the answer about a handle. -/
def refDiagnostics (ref : ProjectRef) : List Diagnostic :=
  (host.project ref).diagnostics (.project ref.build ref.path)

theorem fetchProject_value (ref : ProjectRef) :
    (host.fetchProject ref).value = ((host.project ref).model, host.refDiagnostics ref) := by
  unfold fetchProject
  cases h : (host.project ref).model <;> simp [Fetched.unwrap, refDiagnostics, h]

/-- Fetching the discovered builds gives the models of their handles and all failures in order. -/
theorem fetchIncluded_value :
    (host.fetchIncluded (config.strategyFor host) root).value =
      ((host.visitedRefs config root).filterMap fun ref => (host.project ref).model,
        (host.visitedRefs config root).flatMap host.refDiagnostics) := by
  unfold fetchIncluded
  simp only [Logged.value_bind, Logged.value_pure, Logged.value_forEach, fetchProject_value,
    List.filterMap_map, List.flatMap_map, Function.comp_def]
  rfl

/-! ## The whole aggregation -/

/-- What an aggregation with the given root project holds, in terms of the answers of the host. -/
def outcome : Aggregation where
  snapshot :=
    let projects := host.composedProjects config root
    let modules := projects.flatMap Project.modules
    ⟨projects, .ofList (host.toolchainEntries modules), .ofList (host.sourceSetEntries modules)⟩
  diagnostics :=
    host.rootProject.diagnostics .rootProject ++
      (host.visitedRefs config root).flatMap host.refDiagnostics ++
      Merged.report config.detectCollisions []
        ((host.composedProjects config root).map host.facetsOf)

/-- What holds of every collision and of the failures in all answers holds of the diagnostics of an
aggregation. -/
theorem forall_mem_diagnostics {P : Diagnostic → Prop}
    (hcollision : ∀ id, P ⟨.collision id, Merged.collisionMessage⟩)
    (hroot : ∀ d ∈ host.rootProject.diagnostics .rootProject, P d)
    (hrefs : ∀ ref ∈ host.visitedRefs config root, ∀ d ∈ host.refDiagnostics ref, P d)
    (hmodules : ∀ m ∈ (host.outcome config root).snapshot.modules,
      ∀ d ∈ host.facetDiagnostics m, P d) :
    ∀ d ∈ (host.outcome config root).diagnostics, P d := by
  have hfacets : ∀ f ∈ (host.composedProjects config root).map host.facetsOf,
      ∀ d ∈ f.diagnostics, P d := by
    rw [List.forall_mem_map]
    intro p hp d hd
    obtain ⟨m, hm, hd⟩ := List.mem_flatMap.1 hd
    exact hmodules m (List.mem_flatMap.2 ⟨p, hp, hm⟩) d hd
  refine List.forall_mem_append.2 ⟨List.forall_mem_append.2 ⟨hroot, ?_⟩, ?_⟩
  · intro d hd
    obtain ⟨ref, href, hd⟩ := List.mem_flatMap.1 hd
    exact hrefs ref href d hd
  · exact Merged.forall_mem_report hcollision config.detectCollisions [] hfacets

end Projects

/-- **The aggregation in closed form.** An aggregation fails with the texts of the failures of the
root project if that has no model, and otherwise holds the outcome for it. -/
theorem aggregate_value (config : AggregationConfig) :
    (host.aggregate config).value =
      match host.rootProject.model with
      | none => .error ⟨host.rootProject.failures.map Failure.display⟩
      | some root => .ok (host.outcome config root) := by
  unfold aggregate
  cases hroot : host.rootProject.model with
  | none => simp [Fetched.unwrap, hroot]
  | some root =>
    -- The merge starts from empty maps, under which no id has an entry yet.
    have hempty : Merged.Holds ⟨.empty, .empty, host.rootProject.diagnostics .rootProject ++
        (host.visitedRefs config root).flatMap host.refDiagnostics⟩ [] := fun id => Iff.rfl
    simp only [Fetched.unwrap, hroot, Logged.value_bind, Logged.value_pure, fetchIncluded_value,
      fetchAllFacets_value, Merged.addProjects_value config.detectCollisions hempty,
      flatMap_toolchains, flatMap_sourceSets]
    rfl

/-- An aggregation succeeds exactly if the root project has a model, and then holds the outcome for
it. -/
theorem aggregate_eq_ok_iff {config : AggregationConfig} {a : Aggregation} :
    (host.aggregate config).value = .ok a ↔
      ∃ root, host.rootProject.model = some root ∧ a = host.outcome config root := by
  rw [aggregate_value]
  cases hroot : host.rootProject.model with
  | none => simp
  | some root => simp [eq_comm]

end Host

end CompositeBuild
