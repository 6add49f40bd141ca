/-
# The facets of modules with one id

Several modules of a snapshot may have one id, in one project or in several.  The source sets of the
id are those of the last module.  Its toolchain settings are those of the last module *that has
any*: when the last module has none, settings of an earlier one stay beside the source sets of the
last (`facets_of_lastModule_iff`).
-/
import CompositeBuild.Proofs.Aggregation.Outcome

namespace CompositeBuild

/-! ## The last module with an id -/

namespace Snapshot

/-- The modules with an id, in the order of the projects and of their modules. -/
def modulesOf (s : Snapshot) (id : ModuleId) : List Module := s.modules.filter (·.id = id)

/-- The last module with an id. -/
def lastModule? (s : Snapshot) (id : ModuleId) : Option Module := (s.modulesOf id).getLast?

end Snapshot

namespace Host

variable (host : Host)

/-- The entries of source sets with an id are those of the modules with the id. -/
theorem filter_sourceSetEntries (modules : List Module) (id : ModuleId) :
    (host.sourceSetEntries modules).filter (fun entry => entry.1 = id) =
      host.sourceSetEntries (modules.filter (·.id = id)) := by
  unfold sourceSetEntries
  rw [List.filter_map]
  rfl

/-- The entries of toolchain settings with an id are those of the modules with the id. -/
theorem filter_toolchainEntries (modules : List Module) (id : ModuleId) :
    (host.toolchainEntries modules).filter (fun entry => entry.1 = id) =
      host.toolchainEntries (modules.filter (·.id = id)) := by
  unfold toolchainEntries
  rw [List.filter_filterMap, List.filterMap_filter]
  congr 1
  funext m
  cases host.toolchainOf m <;> simp [Option.filter]

/-- The toolchain settings in the entries of some modules are the settings that the modules have. -/
theorem map_snd_toolchainEntries (modules : List Module) :
    (host.toolchainEntries modules).map (·.2) = modules.filterMap host.toolchainOf := by
  unfold toolchainEntries
  rw [List.map_filterMap]
  congr 1
  funext m
  rw [Option.map_map]
  exact Option.map_id'

/-! ## Looking up an id in the outcome -/

section Lookup

variable (config : AggregationConfig) (root : Project) (id : ModuleId)

/-- The source sets of an id are those of the last module with the id. -/
theorem moduleSourceSets?_outcome :
    (host.outcome config root).snapshot.moduleSourceSets? id =
      ((host.outcome config root).snapshot.lastModule? id).map host.sourceSetsOf := by
  show (SortedMap.ofList (host.sourceSetEntries
    (host.outcome config root).snapshot.modules)).get? id = _
  rw [SortedMap.get?_ofList, filter_sourceSetEntries]
  unfold sourceSetEntries
  rw [List.getLast?_map, Option.map_map]
  rfl

/-- The toolchain settings of an id are the last settings that a module with the id has. -/
theorem toolchain?_outcome :
    (host.outcome config root).snapshot.toolchain? id =
      (((host.outcome config root).snapshot.modulesOf id).filterMap host.toolchainOf).getLast? := by
  show (SortedMap.ofList (host.toolchainEntries
    (host.outcome config root).snapshot.modules)).get? id = _
  rw [SortedMap.get?_ofList, filter_toolchainEntries, ← List.getLast?_map,
    map_snd_toolchainEntries]
  rfl

end Lookup

end Host

/-! ## Which module the facets come from -/

/-- The last model that a list gives is that of its last element exactly if the last element gives
one or no element does. -/
theorem getLast?_filterMap_eq_bind_iff {α β : Type} (f : α → Option β) (xs : List α) :
    (xs.filterMap f).getLast? = xs.getLast?.bind f ↔
      (∃ x, xs.getLast? = some x ∧ (f x).isSome = true) ∨ ∀ x ∈ xs, f x = none := by
  rcases List.eq_nil_or_concat xs with rfl | ⟨init, last, rfl⟩
  · simp
  · rw [List.concat_eq_append, List.filterMap_append, List.getLast?_concat, Option.bind_some]
    cases hlast : f last with
    | some y => simp [hlast]
    | none => simp [hlast, or_imp, forall_and]

/-- **Which module the facets of an id come from.** The source sets of an id are those of the last
module with the id.  Its toolchain settings are the last settings that a module with the id has, and
these are what the last module has, be it settings or none, exactly if the last module has settings
or no module with the id has. -/
theorem facets_of_lastModule_iff {host : Host} {config : AggregationConfig} {a : Aggregation}
    (ha : (host.aggregate config).value = .ok a) (id : ModuleId) :
    a.snapshot.moduleSourceSets? id = (a.snapshot.lastModule? id).map host.sourceSetsOf ∧
      a.snapshot.toolchain? id =
        ((a.snapshot.modulesOf id).filterMap host.toolchainOf).getLast? ∧
      (a.snapshot.toolchain? id = (a.snapshot.lastModule? id).bind host.toolchainOf ↔
        (∃ m, a.snapshot.lastModule? id = some m ∧ (host.toolchainOf m).isSome = true) ∨
          ∀ m ∈ a.snapshot.modulesOf id, host.toolchainOf m = none) := by
  obtain ⟨root, -, rfl⟩ := host.aggregate_eq_ok_iff.1 ha
  have htoolchain := host.toolchain?_outcome config root id
  refine ⟨host.moduleSourceSets?_outcome config root id, htoolchain, ?_⟩
  rw [htoolchain]
  exact getLast?_filterMap_eq_bind_iff host.toolchainOf _

/-! ## Two modules with one id -/

namespace SharedId

/-- The id that two modules share. -/
def id : ModuleId := ⟨"util"⟩

/-- The first of the modules, which has toolchain settings. -/
def first : Module := ⟨"util", "App", [], ":first", "App", none⟩

/-- The second of the modules, which has source sets only. -/
def second : Module := ⟨"util", "App", [], ":second", "App", none⟩

/-- The toolchain settings of the first module. -/
def settings : ToolchainSettings := ⟨some "17", [], [], []⟩

/-- The source set of the second module. -/
def sourceSet : SourceSet :=
  ⟨"main", .empty, .empty, .empty, .empty, .empty, .empty, false⟩

/-- The project of the two modules. -/
def project : Project := ⟨"App", "App", none, none, [first, second]⟩

/-- A host for the project alone. -/
def host : Host where
  rootProject := .ofOption (some project)
  project _ := .absent
  toolchain m := pure (if m.path = first.path then .ofOption (some settings) else .absent)
  sourceSets m :=
    pure (if m.path = second.path then .ofOption (some (.ofListFirst [sourceSet])) else .absent)
  graph := pure .empty
  version := ⟨8, 5, 0⟩

/-- The aggregation of the host. -/
def aggregation : Aggregation := host.outcome .default project

/-- The host is aggregated without an error. -/
theorem aggregate_host : (host.aggregate .default).value = .ok aggregation :=
  host.aggregate_value .default

/-- The modules with the shared id. -/
theorem modulesOf_id : aggregation.snapshot.modulesOf id = [first, second] := by
  have hvisited : host.visitedRefs .default project = [] := by
    show (BuildRef.walk project.build [] []).flatMap BuildRef.projects = []
    rw [BuildRef.walk]
    rfl
  have hprojects : aggregation.snapshot.projects = [project] := by
    show host.composedProjects .default project = [project]
    unfold Host.composedProjects
    rw [hvisited]
    rfl
  unfold Snapshot.modulesOf Snapshot.modules
  rw [hprojects]
  decide

/-- The last module with the shared id. -/
theorem lastModule?_id : aggregation.snapshot.lastModule? id = some second := by
  unfold Snapshot.lastModule?
  rw [modulesOf_id]
  rfl

end SharedId

/-- The facets of the shared id: its settings are not those of the last module. -/
theorem facets_of_sharedId :
    (SharedId.host.aggregate .default).value = .ok SharedId.aggregation ∧
      SharedId.aggregation.snapshot.moduleSourceSets? SharedId.id =
        (SharedId.aggregation.snapshot.lastModule? SharedId.id).map SharedId.host.sourceSetsOf ∧
      SharedId.aggregation.snapshot.toolchain? SharedId.id =
        ((SharedId.aggregation.snapshot.modulesOf SharedId.id).filterMap
          SharedId.host.toolchainOf).getLast? ∧
      ¬ SharedId.aggregation.snapshot.toolchain? SharedId.id =
        (SharedId.aggregation.snapshot.lastModule? SharedId.id).bind SharedId.host.toolchainOf := by
  obtain ⟨hsets, htoolchain, hiff⟩ :=
    facets_of_lastModule_iff SharedId.aggregate_host SharedId.id
  refine ⟨SharedId.aggregate_host, hsets, htoolchain, ?_⟩
  rw [hiff, SharedId.modulesOf_id, SharedId.lastModule?_id]
  rintro (⟨m, hm, hsome⟩ | hnone)
  · obtain rfl := Option.some.inj hm
    exact absurd hsome (by decide)
  · exact absurd (hnone SharedId.first List.mem_cons_self) (by decide)

/-- **Toolchain settings that outlive their module.** Two modules share an id, and the last of them
has source sets and no toolchain settings: the snapshot pairs its source sets with the settings of
the first. -/
theorem settings_of_earlier_module_stay :
    ∃ a, (SharedId.host.aggregate .default).value = .ok a ∧
      a.snapshot.lastModule? SharedId.id = some SharedId.second ∧
      SharedId.host.toolchainOf SharedId.second = none ∧
      a.snapshot.moduleSourceSets? SharedId.id =
        some (SharedId.host.sourceSetsOf SharedId.second) ∧
      a.snapshot.toolchain? SharedId.id = SharedId.host.toolchainOf SharedId.first ∧
      a.snapshot.toolchain? SharedId.id = some SharedId.settings := by
  have htoolchain : SharedId.aggregation.snapshot.toolchain? SharedId.id =
      SharedId.host.toolchainOf SharedId.first := by
    rw [SharedId.aggregation, Host.toolchain?_outcome, ← SharedId.aggregation,
      SharedId.modulesOf_id]
    rfl
  refine ⟨SharedId.aggregation, SharedId.aggregate_host, SharedId.lastModule?_id, rfl, ?_,
    htoolchain, htoolchain⟩
  rw [SharedId.aggregation, Host.moduleSourceSets?_outcome, ← SharedId.aggregation,
    SharedId.lastModule?_id]
  rfl

end CompositeBuild
