/-
# Failures stay in their unit

Two aggregations are compared.  In the first comparison two hosts answer alike but for the facets of
the modules with one id; in the second a handle without a model is taken out of the build graph.
Either way everything outside the unit is the same in both aggregations
(`failures_stay_in_their_unit`).
-/
import CompositeBuild.Proofs.Aggregation.FailureStream
import CompositeBuild.Proofs.Discovery.Walk

namespace CompositeBuild

/-- Two aggregations end alike: both fail with the same error, or both succeed with related
results. -/
inductive EndAlike (R : Aggregation → Aggregation → Prop) :
    Except RootUnavailable Aggregation → Except RootUnavailable Aggregation → Prop
  | failed (e : RootUnavailable) : EndAlike R (.error e) (.error e)
  | succeeded {a₁ a₂ : Aggregation} : R a₁ a₂ → EndAlike R (.ok a₁) (.ok a₂)

/-- A result that ends like one with an aggregation has a related aggregation. -/
theorem EndAlike.exists_ok {R : Aggregation → Aggregation → Prop} {a₁ : Aggregation}
    {result : Except RootUnavailable Aggregation} (h : EndAlike R (.ok a₁) result) :
    ∃ a₂, result = .ok a₂ ∧ R a₁ a₂ := by
  cases h with
  | succeeded hR => exact ⟨_, rfl, hR⟩

/-- Two hosts with the same answer for the root project end alike if the outcomes for it are
related. -/
theorem Host.endAlike_of_outcome {R : Aggregation → Aggregation → Prop} {h₁ h₂ : Host}
    (hroot : h₁.rootProject = h₂.rootProject) {config₁ config₂ : AggregationConfig}
    (hR : ∀ root, h₁.rootProject.model = some root →
      R (h₁.outcome config₁ root) (h₂.outcome config₂ root)) :
    EndAlike R (h₁.aggregate config₁).value (h₂.aggregate config₂).value := by
  rw [aggregate_value, aggregate_value, ← hroot]
  cases hmodel : h₁.rootProject.model with
  | none => exact .failed _
  | some root => exact .succeeded (hR root hmodel)

/-! ## Hosts that differ in the facets of one id -/

/-- Two hosts give the same answers but for the facets of the modules with the id `id`. -/
structure Host.AgreeExcept (h₁ : Host) (id : ModuleId) (h₂ : Host) : Prop where
  rootProject : h₁.rootProject = h₂.rootProject
  project : ∀ ref, h₁.project ref = h₂.project ref
  graph : h₁.graph.value = h₂.graph.value
  version : h₁.version = h₂.version
  toolchain : ∀ m : Module, m.id ≠ id → (h₁.toolchain m).value = (h₂.toolchain m).value
  sourceSets : ∀ m : Module, m.id ≠ id → (h₁.sourceSets m).value = (h₂.sourceSets m).value

/-- The diagnostic is about a facet of the modules with an id. -/
def Diagnostic.isFacetOf (id : ModuleId) (d : Diagnostic) : Bool :=
  d.scope = .toolchain id ∨ d.scope = .sourceSets id

/-- Two aggregations differ at most in the facets of the modules with the id `id`. -/
structure Aggregation.AlikeExcept (id : ModuleId) (a₁ a₂ : Aggregation) : Prop where
  projects : a₁.snapshot.projects = a₂.snapshot.projects
  sourceSetKeys : a₁.snapshot.sourceSets.keys = a₂.snapshot.sourceSets.keys
  toolchains : ∀ id', id' ≠ id → a₁.snapshot.toolchain? id' = a₂.snapshot.toolchain? id'
  sourceSets : ∀ id', id' ≠ id →
    a₁.snapshot.moduleSourceSets? id' = a₂.snapshot.moduleSourceSets? id'
  diagnostics : a₁.diagnostics.filter (fun d => !d.isFacetOf id) =
    a₂.diagnostics.filter (fun d => !d.isFacetOf id)

namespace Host.AgreeExcept

variable {id : ModuleId} {h₁ h₂ : Host}

/-- The hosts visit the same handles. -/
theorem visitedRefs_eq (h : AgreeExcept h₁ id h₂) (config : AggregationConfig) (root : Project) :
    h₁.visitedRefs config root = h₂.visitedRefs config root := by
  unfold visitedRefs AggregationConfig.strategyFor
  rw [h.graph, h.version]

/-- The hosts compose the same projects. -/
theorem composedProjects_eq (h : AgreeExcept h₁ id h₂) (config : AggregationConfig)
    (root : Project) : h₁.composedProjects config root = h₂.composedProjects config root := by
  unfold composedProjects
  rw [h.visitedRefs_eq, funext h.project]

/-- The failures of the facets of a module are the same but for those of the id. -/
theorem filter_facetDiagnostics (h : AgreeExcept h₁ id h₂) (m : Module) :
    (h₁.facetDiagnostics m).filter (fun d => !d.isFacetOf id) =
      (h₂.facetDiagnostics m).filter (fun d => !d.isFacetOf id) := by
  by_cases hm : m.id = id
  · have hnone (host : Host) :
        (host.facetDiagnostics m).filter (fun d => !d.isFacetOf id) = [] := by
      rw [List.filter_eq_nil_iff]
      intro d hd
      unfold facetDiagnostics Fetched.diagnostics at hd
      rcases List.mem_append.1 hd with hd | hd
      · obtain ⟨failure, -, rfl⟩ := List.mem_map.1 hd
        simp [Diagnostic.isFacetOf, hm]
      · obtain ⟨failure, -, rfl⟩ := List.mem_map.1 hd
        simp [Diagnostic.isFacetOf, hm]
    rw [hnone, hnone]
  · unfold facetDiagnostics
    rw [h.toolchain m hm, h.sourceSets m hm]

/-- The reports on the facets of the projects are the same but for the failures of the id: the
collisions depend on the ids of the modules only. -/
theorem filter_report (h : AgreeExcept h₁ id h₂) (detect : Bool) (seen : List ModuleId)
    (projects : List Project) :
    (Merged.report detect seen (projects.map h₁.facetsOf)).filter (fun d => !d.isFacetOf id) =
      (Merged.report detect seen (projects.map h₂.facetsOf)).filter (fun d => !d.isFacetOf id) := by
  induction projects generalizing seen with
  | nil => rfl
  | cons p rest ih =>
    have hids : (h₁.facetsOf p).sourceSets.map (·.1) = (h₂.facetsOf p).sourceSets.map (·.1) := by
      unfold facetsOf
      rw [map_fst_sourceSetEntries, map_fst_sourceSetEntries]
    have hfailures : (h₁.facetsOf p).diagnostics.filter (fun d => !d.isFacetOf id) =
        (h₂.facetsOf p).diagnostics.filter (fun d => !d.isFacetOf id) := by
      unfold facetsOf
      rw [List.filter_flatMap, List.filter_flatMap]
      congr 1
      funext m
      exact h.filter_facetDiagnostics m
    rw [List.map_cons, List.map_cons, Merged.report, Merged.report, List.filter_append,
      List.filter_append, List.filter_append, List.filter_append, hids, hfailures, ih]

/-- The hosts give the same facets for the modules with another id. -/
theorem facets_eq (h : AgreeExcept h₁ id h₂) {m : Module} (hm : m.id ≠ id) :
    h₁.toolchainOf m = h₂.toolchainOf m ∧ h₁.sourceSetsOf m = h₂.sourceSetsOf m := by
  unfold toolchainOf sourceSetsOf
  rw [h.toolchain m hm, h.sourceSets m hm]
  exact ⟨rfl, rfl⟩

/-- The outcomes of the hosts differ at most in the facets of the modules with the id. -/
theorem outcome_alikeExcept (h : AgreeExcept h₁ id h₂) (config : AggregationConfig)
    (root : Project) :
    Aggregation.AlikeExcept id (h₁.outcome config root) (h₂.outcome config root) := by
  have hprojects := h.composedProjects_eq config root
  have hmodules : (h₁.outcome config root).snapshot.modules =
      (h₂.outcome config root).snapshot.modules := congrArg (·.flatMap Project.modules) hprojects
  have hother {id' : ModuleId} (hid : id' ≠ id) :
      ∀ m ∈ (h₂.outcome config root).snapshot.modulesOf id', m.id ≠ id := by
    intro m hm
    have hmid : m.id = id' := by simpa using (List.mem_filter.1 hm).2
    rwa [hmid]
  have hof (id' : ModuleId) : (h₁.outcome config root).snapshot.modulesOf id' =
      (h₂.outcome config root).snapshot.modulesOf id' := congrArg (List.filter _) hmodules
  constructor
  case projects => exact hprojects
  case sourceSetKeys =>
    apply SortedMap.keys_eq_of_mem_iff
    intro key
    show key ∈ (SortedMap.insertAll .empty (h₁.sourceSetEntries _)).keys ↔
      key ∈ (SortedMap.insertAll .empty (h₂.sourceSetEntries _)).keys
    rw [SortedMap.mem_keys_insertAll, SortedMap.mem_keys_insertAll, map_fst_sourceSetEntries,
      map_fst_sourceSetEntries, hprojects]
  case toolchains =>
    intro id' hid
    rw [toolchain?_outcome, toolchain?_outcome, hof]
    congr 1
    exact List.filterMap_congr fun m hm => (h.facets_eq (hother hid m hm)).1
  case sourceSets =>
    intro id' hid
    rw [moduleSourceSets?_outcome, moduleSourceSets?_outcome]
    unfold Snapshot.lastModule?
    rw [hof]
    apply Option.map_congr
    intro m hm
    exact (h.facets_eq (hother hid m (List.mem_of_getLast? hm))).2
  case diagnostics =>
    have hrefs : h₁.refDiagnostics = h₂.refDiagnostics := by
      funext ref
      unfold refDiagnostics
      rw [h.project]
    unfold outcome
    simp only [List.filter_append, h.rootProject, h.visitedRefs_eq, hprojects, hrefs]
    rw [h.filter_report]

end Host.AgreeExcept

/-! ## A handle without a model -/

namespace BuildRef

mutual

/-- Takes the occurrences of a handle out of a build and of the builds that it includes. -/
def withoutRef (ref : ProjectRef) : BuildRef → BuildRef
  | ⟨name, rootDir, projects, included⟩ =>
    ⟨name, rootDir, projects.filter (· ≠ ref), allWithoutRef ref included⟩

/-- Takes the occurrences of a handle out of some builds. -/
def allWithoutRef (ref : ProjectRef) : List BuildRef → List BuildRef
  | [] => []
  | b :: rest => b.withoutRef ref :: allWithoutRef ref rest

end

variable (ref : ProjectRef)

theorem allWithoutRef_eq_map (builds : List BuildRef) :
    allWithoutRef ref builds = builds.map (withoutRef ref) := by
  induction builds with
  | nil => rfl
  | cons b rest ih => rw [allWithoutRef, ih, List.map_cons]

@[simp] theorem withoutRef_name (b : BuildRef) : (b.withoutRef ref).name = b.name := by
  cases b
  rfl

@[simp] theorem withoutRef_projects (b : BuildRef) :
    (b.withoutRef ref).projects = b.projects.filter (· ≠ ref) := by
  cases b
  rfl

@[simp] theorem withoutRef_included (b : BuildRef) :
    (b.withoutRef ref).included = b.included.map (withoutRef ref) := by
  cases b
  exact allWithoutRef_eq_map ref _

end BuildRef

/-- Takes the occurrences of a handle out of both views of a composite. -/
def BuildGraph.withoutRef (ref : ProjectRef) (g : BuildGraph) : BuildGraph :=
  ⟨g.includedBuilds.map (BuildRef.withoutRef ref), g.editableBuilds.map (BuildRef.withoutRef ref)⟩

/-- The host without the occurrences of a handle in its build graph. -/
def Host.withoutRef (ref : ProjectRef) (host : Host) : Host :=
  { host with graph := ⟨host.graph.value.withoutRef ref, host.graph.events⟩ }

namespace Host

variable (host : Host) (ref : ProjectRef) (config : AggregationConfig) (root : Project)

/-- The diagnostics of an aggregation with the given root project, if it meets the failures of some
handles: they stand between those of the root project and those of the composed projects. -/
def diagnosticsOver (visited : List ProjectRef) : List Diagnostic :=
  host.rootProject.diagnostics .rootProject ++ visited.flatMap host.refDiagnostics ++
    Merged.report config.detectCollisions [] ((host.composedProjects config root).map host.facetsOf)

/-- The second aggregation has the snapshot of the first, and its diagnostics but for the entries
that the failures of the handle left wherever it is visited. -/
structure DiffersByFailuresOf (a₁ a₂ : Aggregation) : Prop where
  snapshot : a₁.snapshot = a₂.snapshot
  diagnostics : ∃ root, host.rootProject.model = some root ∧
    a₁.diagnostics = host.diagnosticsOver config root (host.visitedRefs config root) ∧
    a₂.diagnostics =
      host.diagnosticsOver config root ((host.visitedRefs config root).filter (· ≠ ref))

/-- Without a handle, the other handles are visited in the same order. -/
theorem visitedRefs_withoutRef : (host.withoutRef ref).visitedRefs config root =
    (host.visitedRefs config root).filter (· ≠ ref) := by
  have hdiscover := BuildGraph.discover_map (BuildRef.withoutRef_name ref)
    (BuildRef.withoutRef_included ref) host.graph.value (config.strategyFor host) root.build
  show (((host.graph.value.withoutRef ref).discover (config.strategyFor host)
    root.build).flatMap _) = _
  unfold BuildGraph.withoutRef visitedRefs
  rw [hdiscover, List.flatMap_map, List.filter_flatMap]
  simp only [BuildRef.withoutRef_projects]

/-- Without a handle that has no model, the same projects are composed. -/
theorem composedProjects_withoutRef {ref : ProjectRef} (href : (host.project ref).model = none) :
    (host.withoutRef ref).composedProjects config root = host.composedProjects config root := by
  unfold composedProjects
  rw [visitedRefs_withoutRef, List.filterMap_filter]
  congr 2
  funext other
  by_cases hother : other = ref
  · simp [hother, href]
  · simp [hother, withoutRef]

/-- The outcomes with and without a handle that has no model differ by its failures. -/
theorem outcome_differsByFailuresOf {ref : ProjectRef} {root : Project}
    (hroot : host.rootProject.model = some root) (href : (host.project ref).model = none) :
    host.DiffersByFailuresOf ref config (host.outcome config root)
      ((host.withoutRef ref).outcome config root) := by
  have hprojects := host.composedProjects_withoutRef config root href
  have hvisited := host.visitedRefs_withoutRef ref config root
  constructor
  case snapshot =>
    unfold outcome
    rw [hprojects]
    rfl
  case diagnostics =>
    refine ⟨root, hroot, rfl, ?_⟩
    unfold outcome diagnosticsOver
    rw [hprojects, hvisited]
    rfl

end Host

/-! ## Isolation -/

/-- **Failures never cross the unit that they belong to.** If two hosts differ in the facets of the
modules with one id only, so do their aggregations; and taking a handle without a model out of the
build graph changes nothing but the entries of its failures. -/
theorem failures_stay_in_their_unit (config : AggregationConfig) :
    (∀ (id : ModuleId) (h₁ h₂ : Host), h₁.AgreeExcept id h₂ →
      EndAlike (Aggregation.AlikeExcept id) (h₁.aggregate config).value
        (h₂.aggregate config).value) ∧
    ∀ (host : Host) (ref : ProjectRef), (host.project ref).model = none →
      EndAlike (host.DiffersByFailuresOf ref config) (host.aggregate config).value
        ((host.withoutRef ref).aggregate config).value := by
  constructor
  · intro id h₁ h₂ h
    exact Host.endAlike_of_outcome h.rootProject fun root _ => h.outcome_alikeExcept config root
  · intro host ref href
    have hroots : host.rootProject = (host.withoutRef ref).rootProject := rfl
    exact Host.endAlike_of_outcome hroots fun root hroot =>
      host.outcome_differsByFailuresOf config hroot href

namespace PartlyBroken

/-- The host, but none of the facets of the shared id are available. -/
def worse : Host :=
  { host with
    toolchain := fun m =>
      if m.id = SharedId.id then pure (.failed ["no tasks"]) else host.toolchain m
    sourceSets := fun m =>
      if m.id = SharedId.id then pure (.failed ["no sources"]) else host.sourceSets m }

/-- The two hosts agree on everything but the shared id. -/
theorem agreeExcept_worse : host.AgreeExcept SharedId.id worse where
  rootProject := rfl
  project _ := rfl
  graph := rfl
  version := rfl
  toolchain m hm := by simp [worse, hm]
  sourceSets m hm := by simp [worse, hm]

end PartlyBroken

/-- The partly broken host against a worse one, and without the handle that has no model. -/
theorem isolation_of_partlyBroken :
    PartlyBroken.host.toolchainOf SharedId.first ≠ PartlyBroken.worse.toolchainOf SharedId.first ∧
      EndAlike (Aggregation.AlikeExcept SharedId.id) (PartlyBroken.host.aggregate .default).value
        (PartlyBroken.worse.aggregate .default).value ∧
      EndAlike (PartlyBroken.host.DiffersByFailuresOf PartlyBroken.broken .default)
        (PartlyBroken.host.aggregate .default).value
        ((PartlyBroken.host.withoutRef PartlyBroken.broken).aggregate .default).value := by
  obtain ⟨hfacets, hrefs⟩ := failures_stay_in_their_unit .default
  refine ⟨by decide, hfacets _ _ _ PartlyBroken.agreeExcept_worse, ?_⟩
  exact hrefs PartlyBroken.host PartlyBroken.broken (by decide)

end CompositeBuild
