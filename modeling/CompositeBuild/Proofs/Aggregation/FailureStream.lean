/-
# The stream of failures

Every failure that a host reports to an aggregation leaves one diagnostic, under the unit whose
answer it came with, and the diagnostics stand in the order in which the units are asked
(`diagnostics_eq_failureStream`).  Only the collisions of module ids stand between them.
-/
import CompositeBuild.Proofs.Aggregation.LastModule

namespace CompositeBuild

/-! ## The stream -/

/-- The unit is a module id that occurs more than once. -/
def Scope.isCollision : Scope → Bool
  | collision _ => true
  | _ => false

/-- One diagnostic for each of the failures of a unit, in order: the message, and the description in
parentheses if there is one. -/
def failureEntries (scope : Scope) (failures : List Failure) : List Diagnostic :=
  failures.map fun failure =>
    match failure.description with
    | none => ⟨scope, failure.message⟩
    | some description => ⟨scope, failure.message ++ " (" ++ description ++ ")"⟩

namespace Host

variable (host : Host)

/-- The failures of a host, unit by unit: those of the root project, those of the handles of the
discovered builds, and those of the facets of the modules of the given projects. -/
def failureStream (config : AggregationConfig) (root : Project) (projects : List Project) :
    List Diagnostic :=
  failureEntries .rootProject host.rootProject.failures ++
    ((host.graph.value.discover (config.strategyFor host) root.build).flatMap fun build =>
      build.projects.flatMap fun ref =>
        failureEntries (.project ref.build ref.path) (host.project ref).failures) ++
    (projects.flatMap fun p =>
      p.modules.flatMap fun m =>
        failureEntries (.toolchain m.id) (host.toolchain m).value.failures ++
          failureEntries (.sourceSets m.id) (host.sourceSets m).value.failures)

/-! ## Diagnostics of answers -/

/-- The diagnostics of an answer are one entry for each of its failures. -/
theorem diagnostics_eq_failureEntries {α : Type} (f : Fetched α) (scope : Scope) :
    f.diagnostics scope = failureEntries scope f.failures := by
  unfold Fetched.diagnostics failureEntries
  apply List.map_congr_left
  intro failure _
  unfold Failure.display
  cases failure.description with
  | none => rfl
  | some description => rfl

/-- No failure of a unit other than a collision is a collision. -/
theorem filter_failureEntries {scope : Scope} (hscope : scope.isCollision = false)
    (failures : List Failure) :
    (failureEntries scope failures).filter (fun d => !d.scope.isCollision) =
      failureEntries scope failures := by
  rw [List.filter_eq_self]
  intro d hd
  obtain ⟨failure, -, rfl⟩ := List.mem_map.1 hd
  cases failure.description with
  | none => simp [hscope]
  | some description => simp [hscope]

/-- The failures of the handles, build by build. -/
theorem flatMap_refDiagnostics (config : AggregationConfig) (root : Project) :
    ((host.visitedRefs config root).flatMap host.refDiagnostics).filter
        (fun d => !d.scope.isCollision) =
      (host.graph.value.discover (config.strategyFor host) root.build).flatMap fun build =>
        build.projects.flatMap fun ref =>
          failureEntries (.project ref.build ref.path) (host.project ref).failures := by
  unfold visitedRefs
  rw [List.flatMap_assoc, List.filter_flatMap]
  congr 1
  funext build
  rw [List.filter_flatMap]
  congr 1
  funext ref
  unfold refDiagnostics
  rw [diagnostics_eq_failureEntries, filter_failureEntries rfl]

/-- The failures of the facets of projects, project by project and module by module. -/
theorem flatMap_facetDiagnostics (projects : List Project) :
    ((projects.map host.facetsOf).flatMap ProjectFacets.diagnostics).filter
        (fun d => !d.scope.isCollision) =
      projects.flatMap fun p =>
        p.modules.flatMap fun m =>
          failureEntries (.toolchain m.id) (host.toolchain m).value.failures ++
            failureEntries (.sourceSets m.id) (host.sourceSets m).value.failures := by
  rw [List.flatMap_map, List.filter_flatMap]
  congr 1
  funext p
  unfold facetsOf
  rw [List.filter_flatMap]
  congr 1
  funext m
  unfold facetDiagnostics
  rw [diagnostics_eq_failureEntries, diagnostics_eq_failureEntries, List.filter_append,
    filter_failureEntries rfl, filter_failureEntries rfl]

end Host

/-- **No failure is lost, doubled, moved or put under another unit.** Without the collisions, the
diagnostics of an aggregation are the stream of the failures of its host over the projects of the
snapshot. -/
theorem diagnostics_eq_failureStream {host : Host} {config : AggregationConfig} {a : Aggregation}
    (ha : (host.aggregate config).value = .ok a) :
    ∃ root, host.rootProject.model = some root ∧
      a.diagnostics.filter (fun d => !d.scope.isCollision) =
        host.failureStream config root a.snapshot.projects := by
  obtain ⟨root, hroot, rfl⟩ := host.aggregate_eq_ok_iff.1 ha
  refine ⟨root, hroot, ?_⟩
  show (host.rootProject.diagnostics .rootProject ++
      (host.visitedRefs config root).flatMap host.refDiagnostics ++
      Merged.report config.detectCollisions []
        ((host.composedProjects config root).map host.facetsOf)).filter _ = _
  rw [List.filter_append, List.filter_append, Host.diagnostics_eq_failureEntries,
    Host.filter_failureEntries rfl, Host.flatMap_refDiagnostics,
    Merged.filter_report (fun _ => rfl), Host.flatMap_facetDiagnostics]
  rfl

/-! ## A host with failures in every answer -/

namespace PartlyBroken

/-- The handle of a project that has no model. -/
def broken : ProjectRef := ⟨"broken", "broken", ":", none⟩

/-- The handle of a project that has a model beside its failure. -/
def tools : ProjectRef := ⟨"tools", "tools", ":", none⟩

/-- The model of the second handle. -/
def toolsProject : Project :=
  ⟨"tools", "tools", none, none, [⟨"tools", "tools", [], ":", "tools", none⟩]⟩

/-- A host whose root project has two modules with one id and whose answers carry failures. -/
def host : Host :=
  { SharedId.host with
    rootProject := ⟨some SharedId.project, [.ofMessage "model is partial"]⟩
    project := fun ref =>
      if ref = tools then ⟨some toolsProject, [.ofMessage "settings are deprecated"]⟩
      else ⟨none, [⟨"settings script failed", some "line 3"⟩]⟩
    toolchain := fun m =>
      pure (if m.path = SharedId.first.path then .ofOption (some SharedId.settings)
        else .failed ["no compile task"])
    graph := pure ⟨[], [⟨"broken", none, [broken], []⟩, ⟨"tools", none, [tools], []⟩]⟩ }

/-- The aggregation of the host. -/
def aggregation : Aggregation := host.outcome .default SharedId.project

/-- The host is aggregated without an error. -/
theorem aggregate_host : (host.aggregate .default).value = .ok aggregation :=
  host.aggregate_value .default

end PartlyBroken

/-- The failures of that host in the diagnostics of its aggregation. -/
theorem failures_of_partlyBroken :
    (PartlyBroken.host.aggregate .default).value = .ok PartlyBroken.aggregation ∧
      PartlyBroken.aggregation.diagnostics.filter (fun d => !d.scope.isCollision) =
        [⟨.rootProject, "model is partial"⟩,
         ⟨.project "broken" ":", "settings script failed (line 3)"⟩,
         ⟨.project "tools" ":", "settings are deprecated"⟩,
         ⟨.toolchain SharedId.id, "no compile task"⟩,
         ⟨.toolchain ⟨"tools"⟩, "no compile task"⟩] := by
  refine ⟨PartlyBroken.aggregate_host, ?_⟩
  obtain ⟨root, hroot, hstream⟩ := diagnostics_eq_failureStream PartlyBroken.aggregate_host
  obtain rfl : SharedId.project = root := Option.some.inj hroot
  rw [hstream]
  rfl

end CompositeBuild
