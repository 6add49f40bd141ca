/-
# Handles of modules

A module carries its path and the name of its build, by which its project is found again.  What is
found is the first project at the path, while a container has the name of the last one; so a module
leads back to the project that it was made from exactly if no different projects are at one path
(`facets_of_handles`).
-/
import CompositeBuild.Proofs.Discovery.CapturedBuilds
import CompositeBuild.Proofs.Hierarchy.Paths

namespace CompositeBuild.Dump

/-! ## Finding the project of a module -/

section Handles

variable {d : Dump} {name : String} {b : Build} (hbuild : d.build? name = some b)
include hbuild

/-- The project of a handle in a build is the first at its path. -/
theorem findProject?_eq {m : Module} (hm : m.build = name) :
    d.findProject? m = b.firstAt? m.path := by
  unfold findProject? Build.firstAt?
  rw [hm, hbuild]
  rfl

/-- The module of a project leads to the first project at the path. -/
theorem findProject?_moduleOf (p : Project) : d.findProject? (b.moduleOf p) = b.firstAt? p.path :=
  findProject?_eq hbuild (name_of_build? hbuild)

/-- A container that has the name of a project has that of the project which its path leads to, if
projects at one path are the same. -/
theorem containerName_of_findProject? (h : b.PathsIdentify) {m : Module} (hm : m.build = name)
    (segment : String) :
    b.containerName (m.path, segment) = ((d.findProject? m).map Project.name).getD segment := by
  unfold Build.containerName
  rw [findProject?_eq hbuild hm, h.firstAt?_eq]
  cases b.lastAt? m.path <;> rfl

end Handles

/-- The answers about a module are those for a project: the failures that were recorded for a facet
of it, or else what its extractor gives. -/
structure AnsweredFrom (host : Host) (config : ToolchainConfig) (m : Module) (p : Project) :
    Prop where
  toolchain : host.toolchain m = facet p.failures.toolchain (ToolchainSettings.extract config p)
  sourceSets : host.sourceSets m = facet p.failures.sourceSets (SourceSet.extract p)

/-- The answers about a module are those for the project that its handle leads to. -/
theorem answeredFrom_of_findProject? {c : Checked} {toolchain : ToolchainConfig} {m : Module}
    {p : Project} (h : c.dump.findProject? m = some p) :
    AnsweredFrom (c.host toolchain) toolchain m p where
  toolchain := by
    show c.dump.fetchToolchain toolchain m = _
    unfold fetchToolchain
    rw [h]
  sourceSets := by
    show c.dump.fetchSourceSets m = _
    unfold fetchSourceSets
    rw [h]

/-- **Where the handles of a build lead.** The model of a build with projects is given for every
handle of the build, and it has a module for each project in order.  The answers about a module are
those for the first project at its path.  The handle of every module leads back to its own project
exactly if projects at one path are the same; then the containers above a module have the names of
the projects that their paths lead to, or else of the last segment of the path. -/
theorem facets_of_handles (c : Checked) {name : String} {b : Build}
    (hbuild : c.dump.build? name = some b) (hprojects : b.projects ≠ [])
    (toolchain : ToolchainConfig) :
    (∀ ref : ProjectRef, ref.build = name → ((c.host toolchain).project ref).model = some b.model) ∧
      (name = c.rootBuild → (c.host toolchain).rootProject.model = some b.model) ∧
      (∀ i (hi : i < b.projects.length), b.model.modules[i]? = some (b.moduleOf b.projects[i]) ∧
        ∃ first, b.firstAt? b.projects[i].path = some first ∧
          AnsweredFrom (c.host toolchain) toolchain (b.moduleOf b.projects[i]) first) ∧
      ((∀ p ∈ b.projects, c.dump.findProject? (b.moduleOf p) = some p) ↔ b.PathsIdentify) ∧
      (b.PathsIdentify → ∀ p ∈ b.projects,
        AnsweredFrom (c.host toolchain) toolchain (b.moduleOf p) p ∧
          (b.moduleOf p).containers = (containersAbove (segments p.path)).map b.containerName ∧
          ∀ container ∈ containersAbove (segments p.path), ∀ m : Module, m.build = name →
            m.path = container.1 →
              b.containerName container =
                ((c.dump.findProject? m).map Project.name).getD container.2) := by
  have hmodel : c.dump.model? name = some b.model :=
    model?_eq_some_iff.2 ⟨b, hbuild, hprojects, rfl⟩
  have hown :
      (∀ p ∈ b.projects, c.dump.findProject? (b.moduleOf p) = some p) ↔ b.PathsIdentify := by
    simp only [findProject?_moduleOf hbuild]
    exact Build.forall_firstAt?_iff
  refine ⟨?_, ?_, ?_, hown, fun hpaths p hp => ⟨?_, rfl, ?_⟩⟩
  · rintro ref rfl
    exact (c.dump.model_fetchBuild ref.build).trans hmodel
  · rintro rfl
    exact (c.dump.model_fetchBuild c.rootBuild).trans hmodel
  · intro i hi
    obtain ⟨first, hfirst⟩ := Build.exists_firstAt? (List.getElem_mem hi)
    refine ⟨by simp [Build.model, hi], first, hfirst, ?_⟩
    exact answeredFrom_of_findProject? ((findProject?_moduleOf hbuild _).trans hfirst)
  · exact answeredFrom_of_findProject? (hown.2 hpaths p hp)
  · rintro ⟨_, segment⟩ - m hm rfl
    exact containerName_of_findProject? hbuild hpaths hm segment

/-! ## Two projects at one path -/

namespace SharedPath

/-- A project without tasks and source sets, and with failures of its toolchain settings. -/
def project (name path : String) (toolchain : List String) : Project :=
  ⟨name, path, none, .empty, none, ⟨toolchain, []⟩⟩

/-- A project whose toolchain settings failed. -/
def first : Project := project "first" ":x" ["no tasks"]

/-- A project below it. -/
def below : Project := project "below" ":x:below" []

/-- A build with these projects and some more. -/
def build (more : List Project) : Build :=
  ⟨"App", none, none, [project "App" ":" [], first] ++ more ++ [below], [], []⟩

/-- A dump of this build only. -/
def dump (more : List Project) : Dump := ⟨"8.5", none, [build more], []⟩

/-- The dump after its check. -/
def checked (more : List Project) : Checked where
  dump := dump more
  rootBuild := "App"
  version := ⟨8, 5, 0⟩
  named := rfl
  known := List.forall_mem_singleton.2 rfl
  parsed := by
    show HostVersion.parse "8.5" = _
    rfl

/-- A project at a path that is taken. -/
def second : Project := project "second" ":x" []

end SharedPath

/-- In a build without projects at one path, a module is answered from its project, and its
container has the name of the project above it. -/
theorem facets_of_handles_below :
    AnsweredFrom ((SharedPath.checked []).host .default) .default
        ((SharedPath.build []).moduleOf SharedPath.first) SharedPath.first ∧
      (SharedPath.build []).model.modules[2]? =
        some ((SharedPath.build []).moduleOf SharedPath.below) ∧
      ((SharedPath.build []).moduleOf SharedPath.below).containers = ["first"] := by
  have hbuild : (SharedPath.checked []).dump.build? "App" = some (SharedPath.build []) := rfl
  have hpaths : (SharedPath.build []).PathsIdentify := .of_nodup (by decide)
  obtain ⟨-, -, hmodules, -, howns⟩ :=
    facets_of_handles (SharedPath.checked []) hbuild (List.cons_ne_nil _ _) .default
  refine ⟨(howns hpaths SharedPath.first ?_).1, (hmodules 2 (by decide)).1, ?_⟩
  · exact List.mem_cons_of_mem _ List.mem_cons_self
  · rw [(howns hpaths SharedPath.below (by simp [SharedPath.build])).2.1]
    decide

/-- **Two projects at one path.** The module of the second is answered from the first, whose
toolchain settings failed; and a container below them has the name of the second, though its path
leads to the first. -/
theorem facets_of_sharedPath :
    (SharedPath.dump [SharedPath.second]).check = .ok (SharedPath.checked [SharedPath.second]) ∧
      (SharedPath.dump [SharedPath.second]).build? "App" =
        some (SharedPath.build [SharedPath.second]) ∧
      (SharedPath.build [SharedPath.second]).projects[2]? = some SharedPath.second ∧
      (SharedPath.build [SharedPath.second]).model.modules[2]? =
        some ((SharedPath.build [SharedPath.second]).moduleOf SharedPath.second) ∧
      (((SharedPath.checked [SharedPath.second]).host .default).toolchain
        ((SharedPath.build [SharedPath.second]).moduleOf SharedPath.second)).value =
          .failed ["no tasks"] ∧
      (facet SharedPath.second.failures.toolchain
        (ToolchainSettings.extract .default SharedPath.second)).value = .absent ∧
      ¬ AnsweredFrom ((SharedPath.checked [SharedPath.second]).host .default) .default
        ((SharedPath.build [SharedPath.second]).moduleOf SharedPath.second) SharedPath.second ∧
      ((SharedPath.build [SharedPath.second]).moduleOf SharedPath.below).containers = ["second"] ∧
      ((SharedPath.dump [SharedPath.second]).findProject?
        ((SharedPath.build [SharedPath.second]).moduleOf SharedPath.second)).map Project.name =
          some "first" := by
  have hfailed : (((SharedPath.checked [SharedPath.second]).host .default).toolchain
      ((SharedPath.build [SharedPath.second]).moduleOf SharedPath.second)).value =
        .failed ["no tasks"] := rfl
  have habsent : (facet SharedPath.second.failures.toolchain
      (ToolchainSettings.extract .default SharedPath.second)).value = .absent := rfl
  refine ⟨rfl, rfl, rfl, rfl, hfailed, habsent, fun h => ?_, by decide, rfl⟩
  rw [h.toolchain, habsent] at hfailed
  exact absurd hfailed (by decide)

end CompositeBuild.Dump
