/-
# The projects of a dump

A checked dump whose root build has projects is always aggregated, and the projects of its snapshot
are the project graph of the root build and those of the builds that a search of the includes
reaches, or of the editable builds, in this order (`projects_of_checked_dump`).
-/
import CompositeBuild.Proofs.Aggregation.Outcome
import CompositeBuild.Proofs.Collection.RepeatedKeys
import CompositeBuild.Proofs.Discovery.IncludeGraph

namespace CompositeBuild

namespace Dump

variable (d : Dump)

/-! ## What should be visited -/

/-- The names of the builds to visit beside the root build, in order: those that its includes lead
to, or the editable builds if they are to be preferred and there are any. -/
def namesToVisit (strategy : DiscoveryStrategy) (root : Build) : List String :=
  if strategy = .legacy ∨ d.editableBuilds = [] then
    d.breadthFirst [root.name] root.includedBuilds
  else (d.editableBuilds.filter (· ≠ root.name)).eraseDups

/-- Every build is to be visited once, and the root build is none of them. -/
theorem nodup_cons_namesToVisit (strategy : DiscoveryStrategy) (root : Build) :
    (root.name :: d.namesToVisit strategy root).Nodup := by
  rw [List.nodup_cons]
  unfold namesToVisit
  split
  · exact ⟨d.not_mem_breadthFirst List.mem_cons_self, d.nodup_breadthFirst _ _⟩
  · refine ⟨?_, nodup_eraseDups _⟩
    simp [List.mem_eraseDups]

/-- The project graph of the build of a name, which has none if no project was captured. -/
def model? (name : String) : Option CompositeBuild.Project :=
  (d.build? name).bind fun b => if b.projects.isEmpty then none else some b.model

/-- A project graph is that of the build of the name, if projects of it were captured. -/
theorem model?_eq_some_iff {d : Dump} {name : String} {p : CompositeBuild.Project} :
    d.model? name = some p ↔ ∃ b, d.build? name = some b ∧ b.projects ≠ [] ∧ b.model = p := by
  unfold model?
  rw [Option.bind_eq_some_iff]
  refine exists_congr fun b => and_congr_right fun _ => ?_
  cases b.projects with
  | nil => simp
  | cons => simp

/-- The model in the answer for a build is its project graph, whatever failures come with it. -/
theorem model_fetchBuild (name : String) : (d.fetchBuild name).model = d.model? name := by
  unfold fetchBuild model?
  cases d.build? name with
  | none => rfl
  | some b => cases b.projects.isEmpty <;> rfl

/-! ## Checked dumps -/

/-- There is one root build and one version with which a dump can pass its check. -/
theorem Checked.eq_of_dump_eq {c₁ c₂ : Checked} (h : c₁.dump = c₂.dump) : c₁ = c₂ := by
  obtain ⟨d, rootBuild, version, named, known, parsed⟩ := c₁
  obtain ⟨_, rootBuild', version', named', known', parsed'⟩ := c₂
  obtain rfl : d = _ := h
  obtain rfl := Option.some.inj (named.symm.trans named')
  obtain rfl := Except.ok.inj (parsed.symm.trans parsed')
  rfl

/-- A dump passes its check exactly if its builds are known and its version can be read; it is kept
as it is. -/
theorem check_eq_ok_iff {d : Dump} {c : Checked} : d.check = .ok c ↔ c.dump = d := by
  constructor
  · intro hcheck
    unfold check at hcheck
    split at hcheck
    · contradiction
    · split at hcheck
      · contradiction
      · split at hcheck
        · contradiction
        · rw [← Except.ok.inj hcheck]
  · rintro rfl
    unfold check
    split
    case h_1 hnone => exact absurd (c.named.symm.trans hnone) (Option.some_ne_none _)
    case h_2 rootBuild hroot =>
      obtain rfl : c.rootBuild = rootBuild := Option.some.inj (c.named.symm.trans hroot)
      split
      case h_1 name hunknown =>
        rw [find?_isNone_eq_none_iff.2 c.known] at hunknown
        exact nomatch hunknown
      case h_2 =>
        split
        case h_1 e herror => exact nomatch c.parsed.symm.trans herror
        case h_2 => exact congrArg Except.ok (Checked.eq_of_dump_eq rfl)

namespace Checked

variable (c : Checked)

/-- The builds that a build includes are known. -/
theorem known_included {b : Build} (hb : b ∈ c.dump.builds) :
    ∀ name ∈ b.includedBuilds, (c.dump.build? name).isSome := fun name hname =>
  c.known name (List.mem_cons_of_mem _ (List.mem_append_left _ (List.mem_flatMap.2 ⟨b, hb, hname⟩)))

/-- The editable builds are known. -/
theorem known_editable : ∀ name ∈ c.dump.editableBuilds, (c.dump.build? name).isSome :=
  fun name hname => c.known name (List.mem_cons_of_mem _ (List.mem_append_right _ hname))

/-- The root build is known. -/
theorem exists_root : ∃ root, c.dump.build? c.rootBuild = some root ∧ root.name = c.rootBuild := by
  obtain ⟨root, hroot⟩ := Option.isSome_iff_exists.1 (c.known c.rootBuild List.mem_cons_self)
  exact ⟨root, hroot, name_of_build? hroot⟩

/-- The root project of a host that answers from a dump is the project graph of the root build. -/
theorem model_eq_of_rootProject {root : Build} (hroot : c.dump.build? c.rootBuild = some root)
    {toolchain : ToolchainConfig} {model : CompositeBuild.Project}
    (hmodel : (c.host toolchain).rootProject.model = some model) : root.model = model := by
  obtain ⟨b, hbuild, -, rfl⟩ :=
    model?_eq_some_iff.1 ((c.dump.model_fetchBuild c.rootBuild).symm.trans hmodel)
  rw [Option.some.inj (hroot.symm.trans hbuild)]

end Checked

/-- Looking up names that are all known gives builds of these names. -/
theorem filterMap_build?_map_name {names : List String}
    (hknown : ∀ name ∈ names, (d.build? name).isSome) :
    (names.filterMap d.build?).map Build.name = names := by
  induction names with
  | nil => rfl
  | cons name rest ih =>
    obtain ⟨hname, hrest⟩ := List.forall_mem_cons.1 hknown
    obtain ⟨b, hbuild⟩ := Option.isSome_iff_exists.1 hname
    rw [List.filterMap_cons_some hbuild, List.map_cons, name_of_build? hbuild, ih hrest]

/-! ## The builds of the graph -/

/-- A build of the graph is the build of its name with the handle of that build, and what it
includes was unfolded from names. -/
structure IsUnfolded (r : BuildRef) : Prop where
  alone : (d.build? r.name).map Build.ref = some r.alone
  included : ∃ chain names, r.included = (d.includedRefs chain names).value

/-- The handle of the root project of a build is of that build. -/
theorem Build.rootRef_build (b : Build) : b.rootRef.build = b.name := by
  unfold rootRef
  split <;> rfl

variable {d}

/-- A build with its handle is as the builds of the graph are. -/
theorem isUnfolded_ref {name : String} {b : Build} (hbuild : d.build? name = some b) :
    d.IsUnfolded b.ref where
  alone := by
    show (d.build? b.name).map Build.ref = _
    rw [name_of_build? hbuild, hbuild]
    rfl
  included := ⟨[], [], (d.includedRefs_nil).symm⟩

/-- An unfolded build is as the builds of the graph are. -/
theorem isUnfolded_unfold (chain : List String) {name : String} {b : Build}
    (hbuild : d.build? name = some b) : d.IsUnfolded (d.unfold chain b) where
  alone := (isUnfolded_ref hbuild).alone
  included := ⟨b.name :: chain, b.includedBuilds, rfl⟩

/-- All builds that cover names are as the builds of the graph are. -/
theorem Covers.isUnfolded {seen : List String} {items : List BuildRef} {names : List String}
    (h : d.Covers seen items names) : ∀ r ∈ items, d.IsUnfolded r := by
  induction h with
  | nil => simp
  | pass _ _ ih => exact ih
  | tree hbuild _ _ ih => exact List.forall_mem_cons.2 ⟨isUnfolded_unfold _ hbuild, ih⟩

/-- What an unfolded build includes is unfolded in turn. -/
theorem IsUnfolded.included_isUnfolded {r : BuildRef} (h : d.IsUnfolded r) :
    ∀ r' ∈ r.included, d.IsUnfolded r' := by
  obtain ⟨chain, names, hincluded⟩ := h.included
  rw [hincluded]
  exact (d.covers_includedRefs (List.Subset.refl chain) names).isUnfolded

theorem map_alone {builds : List BuildRef} (h : ∀ r ∈ builds, d.IsUnfolded r) :
    builds.map BuildRef.alone = ((builds.map BuildRef.name).filterMap d.build?).map Build.ref := by
  rw [List.map_filterMap, List.filterMap_map, ← List.filterMap_eq_map]
  exact List.filterMap_congr fun r hr => (h r hr).alone.symm

variable (d) in
/-- The handles of the builds of some names. -/
def handlesOf (names : List String) : List ProjectRef :=
  (names.filterMap d.build?).map Build.rootRef

/-- The handles of unfolded builds are those of the builds of their names. -/
theorem flatMap_projects {builds : List BuildRef} (h : ∀ r ∈ builds, d.IsUnfolded r) :
    builds.flatMap BuildRef.projects = d.handlesOf (builds.map BuildRef.name) := by
  have halone : builds.flatMap BuildRef.projects =
      (builds.map BuildRef.alone).flatMap BuildRef.projects := by
    rw [List.flatMap_map]
    rfl
  rw [halone, map_alone h, List.flatMap_map]
  exact List.map_eq_flatMap.symm

/-- The handle of one of some builds has the name of that build. -/
theorem build_mem_of_mem_handlesOf {names : List String} {ref : ProjectRef}
    (h : ref ∈ d.handlesOf names) : ref.build ∈ names := by
  obtain ⟨b, hb, rfl⟩ := List.mem_map.1 h
  obtain ⟨name, hname, hbuild⟩ := List.mem_filterMap.1 hb
  rwa [b.rootRef_build, name_of_build? hbuild]

/-- The models of the handles of some builds are the project graphs of the builds. -/
theorem filterMap_model_handlesOf (names : List String) :
    (d.handlesOf names).filterMap (fun ref => (d.fetchBuild ref.build).model) =
      names.filterMap d.model? := by
  unfold handlesOf
  rw [List.filterMap_map, List.filterMap_filterMap]
  refine List.filterMap_congr fun name _ => ?_
  cases hbuild : d.build? name with
  | none => simp [model?, hbuild]
  | some b =>
    show (d.fetchBuild b.rootRef.build).model = d.model? name
    rw [b.rootRef_build, model_fetchBuild, name_of_build? hbuild]

section Graph

variable {root : Build} (hroot : d.build? root.name = some root)
include hroot

theorem graph_value : (d.graph root.name).value =
    ⟨(d.rootIncludes root).value, (d.editableBuilds.filterMap d.build?).map Build.ref⟩ := by
  unfold graph
  rw [hroot]
  rfl

/-- The builds that the two views list are unfolded from the dump. -/
theorem isUnfolded_of_mem_graph :
    (∀ r ∈ (d.graph root.name).value.includedBuilds, d.IsUnfolded r) ∧
      ∀ r ∈ (d.graph root.name).value.editableBuilds, d.IsUnfolded r := by
  rw [graph_value hroot]
  refine ⟨(d.covers_rootIncludes root).isUnfolded, ?_⟩
  intro r hr
  obtain ⟨b, hb, rfl⟩ := List.mem_map.1 hr
  obtain ⟨name, -, hbuild⟩ := List.mem_filterMap.1 hb
  exact isUnfolded_ref hbuild

/-- Every discovered build is unfolded from the dump. -/
theorem isUnfolded_of_mem_discover (strategy : DiscoveryStrategy) :
    ∀ r ∈ (d.graph root.name).value.discover strategy root.name, d.IsUnfolded r := by
  obtain ⟨hincluded, heditable⟩ := isUnfolded_of_mem_graph hroot
  exact BuildGraph.forall_mem_discover (fun r hr => hr.included_isUnfolded) hincluded heditable
    strategy root.name

/-- **The discovered builds of a dump.** Their names are those to visit, if the editable builds are
known. -/
theorem map_name_discover (heditable : ∀ name ∈ d.editableBuilds, (d.build? name).isSome)
    (strategy : DiscoveryStrategy) :
    ((d.graph root.name).value.discover strategy root.name).map BuildRef.name =
      d.namesToVisit strategy root := by
  have hnames : ((d.editableBuilds.filterMap d.build?).map Build.ref).map BuildRef.name =
      d.editableBuilds := by
    rw [List.map_map]
    exact d.filterMap_build?_map_name heditable
  -- The graph lists no editable builds only if the dump does not, since all of them are known.
  have hempty : (d.editableBuilds.filterMap d.build?).map Build.ref = [] ↔
      d.editableBuilds = [] := by
    rw [← List.map_eq_nil_iff (f := BuildRef.name), hnames]
  have hwalk : (BuildRef.walk root.name [] (d.rootIncludes root).value).map BuildRef.name =
      d.breadthFirst [root.name] root.includedBuilds :=
    d.map_name_walk (by simp) (d.covers_rootIncludes root)
  rw [graph_value hroot, BuildGraph.map_name_discover]
  unfold namesToVisit
  simp only [hempty, hwalk, hnames]

end Graph

/-! ## Hosts that answer from a checked dump -/

section Host

variable (c : Checked) {root : Build} (hroot : c.dump.build? c.rootBuild = some root)
  (toolchain : ToolchainConfig) (config : AggregationConfig)
include hroot

/-- The handles that a host visits when it answers from a dump: those of the builds to visit. -/
theorem visitedRefs_host : (c.host toolchain).visitedRefs config root.model =
    c.dump.handlesOf (c.dump.namesToVisit (config.strategyFor (c.host toolchain)) root) := by
  have hname : root.name = c.rootBuild := name_of_build? hroot
  have hgraph : (c.host toolchain).graph = c.dump.graph root.name := by
    unfold Checked.host
    rw [hname]
  rw [← hname] at hroot
  unfold Host.visitedRefs
  rw [hgraph, ← map_name_discover hroot c.known_editable]
  exact flatMap_projects (isUnfolded_of_mem_discover hroot _)

/-- The composed projects of a host that answers from a dump: the project graphs of the root build
and of the builds to visit. -/
theorem composedProjects_host : (c.host toolchain).composedProjects config root.model =
    root.model ::
      (c.dump.namesToVisit (config.strategyFor (c.host toolchain)) root).filterMap
        c.dump.model? := by
  unfold Host.composedProjects
  rw [visitedRefs_host c hroot, ← filterMap_model_handlesOf]
  rfl

end Host

end Dump

/-- **The projects of a dump.** The root build of a checked dump is known.  If it has projects,
every aggregation succeeds, and its projects are the project graph of the root build, followed by
those of the builds to visit that have projects, in order; each of them is visited once, and the
root is not. -/
theorem projects_of_checked_dump (c : Dump.Checked) :
    ∃ root, c.dump.build? c.rootBuild = some root ∧
      (root.projects ≠ [] → ∀ (toolchain : ToolchainConfig) (config : AggregationConfig),
        (root.name :: c.dump.namesToVisit (config.strategyFor (c.host toolchain)) root).Nodup ∧
          ∃ a, ((c.host toolchain).aggregate config).value = .ok a ∧
            a.snapshot.projects = root.model ::
              (c.dump.namesToVisit (config.strategyFor (c.host toolchain)) root).filterMap
                c.dump.model?) := by
  obtain ⟨root, hroot, -⟩ := c.exists_root
  refine ⟨root, hroot, fun hprojects toolchain config => ?_⟩
  have hmodel : (c.host toolchain).rootProject.model = some root.model := by
    show (c.dump.fetchBuild c.rootBuild).model = some root.model
    rw [Dump.model_fetchBuild]
    simp [Dump.model?, hroot, hprojects]
  exact ⟨c.dump.nodup_cons_namesToVisit _ root, _,
    (Host.aggregate_eq_ok_iff _).2 ⟨root.model, hmodel, rfl⟩,
    Dump.composedProjects_host c hroot toolchain config⟩

/-! ## Builds that include each other -/

namespace IncludeCycles

/-- A build with one project unless it is empty. -/
def build (name : String) (projects : List String) (includedBuilds : List String) : Dump.Build where
  name := name
  rootDir := none
  languageLevel := none
  projects := projects.map fun path => ⟨path, path, none, .empty, none, .none⟩
  includedBuilds := includedBuilds
  failures := []

/-- The root build, which includes itself, and includes one build twice. -/
def app : Dump.Build := build "app" [":"] ["lib", "app", "lib", "tools"]

/-- A dump whose builds include each other; one of them has no projects, and one is listed twice. -/
def dump : Dump where
  gradleVersion := "7.6"
  rootBuild := none
  builds :=
    [app, build "lib" [":"] ["docs", "lib"], build "tools" [":"] ["lib", "app"],
     build "docs" [] ["extra", "tools"], build "extra" [":", ":a"] ["docs"], build "lib" [] []]
  editableBuilds := []

/-- The dump after its check. -/
def checked : Dump.Checked := ⟨dump, "app", ⟨7, 6, 0⟩, rfl, by decide, rfl⟩

end IncludeCycles

/-- The projects of that dump: the build without projects is visited, but gives none. -/
theorem projects_of_includeCycles :
    IncludeCycles.dump.check = .ok IncludeCycles.checked ∧
      IncludeCycles.dump.namesToVisit .legacy IncludeCycles.app =
        ["lib", "tools", "docs", "extra"] ∧
      ∃ a, ((IncludeCycles.checked.host .default).aggregate .default).value = .ok a ∧
        a.snapshot.projects.map Project.build = ["app", "lib", "tools", "extra"] := by
  have hcheck : IncludeCycles.dump.check = .ok IncludeCycles.checked := rfl
  have hnames : IncludeCycles.checked.dump.namesToVisit .legacy IncludeCycles.app =
      ["lib", "tools", "docs", "extra"] := by cbv
  have hstrategy : AggregationConfig.default.strategyFor (IncludeCycles.checked.host .default) =
      .legacy := by decide
  obtain ⟨root, hroot, hprojects⟩ := projects_of_checked_dump IncludeCycles.checked
  have happ : IncludeCycles.dump.build? IncludeCycles.checked.rootBuild =
      some IncludeCycles.app := rfl
  obtain rfl : IncludeCycles.app = root := Option.some.inj (happ.symm.trans hroot)
  obtain ⟨-, a, ha, hsnapshot⟩ := hprojects (List.cons_ne_nil _ _) .default .default
  refine ⟨hcheck, hnames, a, ha, ?_⟩
  rw [hsnapshot, hstrategy, hnames]
  cbv

end CompositeBuild
