/-
# Aggregation

An aggregation asks a host for the root project, for the projects of the builds that are composed
into it, and for the facets of every module, and puts the answers together into a snapshot.  Only a
missing root project stops it; every other failure degrades the unit that it belongs to and is
recorded.
-/
import CompositeBuild.Host

namespace CompositeBuild

/-! ## Settings -/

/-- The settings of an aggregation. -/
structure AggregationConfig where
  /-- Fetch the facets of the projects at the same time. -/
  parallel : Bool
  /-- Report module ids that occur more than once. -/
  detectCollisions : Bool
  /-- The strategy of discovery; it is chosen by the version of the host if there is none. -/
  strategy : Option DiscoveryStrategy
deriving DecidableEq, Repr

/-- The usual settings. -/
def AggregationConfig.default : AggregationConfig := ⟨false, true, none⟩

/-- The strategy of discovery for a host. -/
def AggregationConfig.strategyFor (config : AggregationConfig) (host : Host) : DiscoveryStrategy :=
  config.strategy.getD (.forVersion host.version)

/-! ## Results -/

/-- A snapshot with the failures that were met on the way to it. -/
structure Aggregation where
  snapshot : Snapshot
  diagnostics : List Diagnostic
deriving DecidableEq

/-- The model of the root project is not available, for the reasons of the given texts. -/
structure RootUnavailable where
  failures : List String
deriving DecidableEq, Repr

/-- The message for a missing root project. -/
def RootUnavailable.message (e : RootUnavailable) : String :=
  if e.failures.isEmpty then "root project model unavailable"
  else "root project model unavailable: " ++ "; ".intercalate e.failures

/-! ## Taking up answers -/

namespace Fetched

variable {α : Type}

/-- The diagnostics of the failures in an answer about a unit. -/
def diagnostics (f : Fetched α) (scope : Scope) : List Diagnostic :=
  f.failures.map fun failure => ⟨scope, failure.display⟩

/-- Takes up an answer about a unit: its failures are told and recorded, and its model is handed
on. -/
def unwrap (f : Fetched α) (scope : Scope) : Logged (Option α × List Diagnostic) :=
  ⟨(f.model, f.diagnostics scope), f.failures.map (.failureReported scope)⟩

end Fetched

/-! ## Projects -/

/-- Fetches the project of a handle. -/
def Host.fetchProject (host : Host) (ref : ProjectRef) :
    Logged (Option Project × List Diagnostic) := do
  let scope := .project ref.build ref.path
  let (project, diagnostics) ← (host.project ref).unwrap scope
  match project with
  | some _ => pure ()
  | none => Logged.tell (.projectSkipped scope)
  return (project, diagnostics)

/-- Fetches the projects of the discovered builds, in order. -/
def Host.fetchIncluded (host : Host) (strategy : DiscoveryStrategy) (root : Project) :
    Logged (List Project × List Diagnostic) := do
  let graph ← host.graph
  let builds := graph.discover strategy root.build
  Logged.tell (.buildsDiscovered builds.length strategy)
  let fetched ← Logged.forEach (builds.flatMap BuildRef.projects) host.fetchProject
  return (fetched.filterMap (·.1), fetched.flatMap (·.2))

/-! ## Facets -/

/-- The facets of the modules of a project, in the order of the modules. -/
structure ProjectFacets where
  toolchains : List (ModuleId × ToolchainSettings)
  sourceSets : List (ModuleId × SortedSet SourceSet)
  diagnostics : List Diagnostic

/-- The facets of a module. -/
structure ModuleFacets where
  id : ModuleId
  toolchain : Option ToolchainSettings
  sourceSets : SortedSet SourceSet
  diagnostics : List Diagnostic

/-- Fetches the facets of a module. -/
def Host.fetchModule (host : Host) (m : Module) : Logged ModuleFacets := do
  Logged.tell (.moduleVisited m.id m.path)
  let (toolchain, toolchainFailures) ← (← host.toolchain m).unwrap (.toolchain m.id)
  let (sets, setFailures) ← (← host.sourceSets m).unwrap (.sourceSets m.id)
  return ⟨m.id, toolchain, sets.getD .empty, toolchainFailures ++ setFailures⟩

/-- The facets of the modules of a project. -/
def ProjectFacets.ofModules (modules : List ModuleFacets) : ProjectFacets where
  toolchains := modules.filterMap fun m => m.toolchain.map fun t => (m.id, t)
  sourceSets := modules.map fun m => (m.id, m.sourceSets)
  diagnostics := modules.flatMap ModuleFacets.diagnostics

/-- Fetches the facets of the modules of a project. -/
def Host.fetchFacets (host : Host) (p : Project) : Logged ProjectFacets := do
  return .ofModules (← Logged.forEach p.modules host.fetchModule)

/-- Fetches the facets of the projects, one project after the other or all at the same time.  The
results stand in the order of the projects either way. -/
def Host.fetchAllFacets (host : Host) (parallel : Bool) (projects : List Project) :
    Logged (List ProjectFacets) :=
  if parallel then
    let tasks := projects.map fun p => Task.spawn fun _ => host.fetchFacets p
    Logged.forEach tasks Task.get
  else
    Logged.forEach projects host.fetchFacets

/-! ## Putting facets together -/

/-- The facets of the projects that have been put together so far. -/
structure Merged where
  toolchains : SortedMap ModuleId ToolchainSettings
  sourceSets : SortedMap ModuleId (SortedSet SourceSet)
  diagnostics : List Diagnostic

namespace Merged

/-- The message for a module id that occurs more than once. -/
def collisionMessage : String := "module id resolved more than once; keeping the last module"

/-- Adds the source sets of a module.  They replace those of an earlier module with the same id,
which is reported if collisions are. -/
def addSourceSets (detectCollisions : Bool) (merged : Merged)
    (entry : ModuleId × SortedSet SourceSet) : Logged Merged := do
  let sourceSets := merged.sourceSets.insert entry.1 entry.2
  if detectCollisions && merged.sourceSets.contains entry.1 then
    Logged.tell (.idRepeated entry.1)
    let diagnostics := merged.diagnostics ++ [⟨.collision entry.1, collisionMessage⟩]
    return { merged with sourceSets, diagnostics }
  else
    return { merged with sourceSets }

/-- Adds the source sets of modules one after the other. -/
def addAllSourceSets (detectCollisions : Bool) :
    Merged → List (ModuleId × SortedSet SourceSet) → Logged Merged
  | merged, [] => pure merged
  | merged, entry :: rest => do
    addAllSourceSets detectCollisions (← merged.addSourceSets detectCollisions entry) rest

/-- Adds the facets of a project: its failures, its toolchain settings and its source sets. -/
def addProject (detectCollisions : Bool) (merged : Merged) (facets : ProjectFacets) :
    Logged Merged :=
  addAllSourceSets detectCollisions
    { merged with
      toolchains := merged.toolchains.insertAll facets.toolchains
      diagnostics := merged.diagnostics ++ facets.diagnostics }
    facets.sourceSets

/-- Adds the facets of projects one after the other. -/
def addProjects (detectCollisions : Bool) : Merged → List ProjectFacets → Logged Merged
  | merged, [] => pure merged
  | merged, facets :: rest => do
    addProjects detectCollisions (← merged.addProject detectCollisions facets) rest

end Merged

/-! ## The aggregation -/

/-- Aggregates what a host answers. -/
def Host.aggregate (host : Host) (config : AggregationConfig) :
    Logged (Except RootUnavailable Aggregation) := do
  let (root, rootFailures) ← host.rootProject.unwrap .rootProject
  match root with
  | none =>
    Logged.tell .rootUnavailable
    return .error ⟨host.rootProject.failures.map Failure.display⟩
  | some root =>
    let (included, failures) ← host.fetchIncluded (config.strategyFor host) root
    let projects := root :: included
    let facets ← host.fetchAllFacets config.parallel projects
    let merged ← Merged.addProjects config.detectCollisions
      ⟨.empty, .empty, rootFailures ++ failures⟩ facets
    Logged.tell (.aggregated projects.length merged.sourceSets.size merged.toolchains.size
      merged.diagnostics.length)
    return .ok ⟨⟨projects, merged.toolchains, merged.sourceSets⟩, merged.diagnostics⟩

end CompositeBuild
