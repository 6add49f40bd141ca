/-
# Dumps listed in another order

A dump lists the projects of each build, the tasks and source sets of each project and the
properties of each task in some order.  Nothing is looked up in these lists but by paths and names,
so if these tell their elements apart, the order has no meaning: the facets of a project stay the
same (`Project.extract_sourceSets_eq`), and of the host that answers from the dump only the modules
of each project come in another order (`reordersModules_host`).
-/
import CompositeBuild.Proofs.Aggregation.ModuleOrder
import CompositeBuild.Proofs.Discovery.ReachableBuilds
import CompositeBuild.Proofs.Hierarchy.Paths
import CompositeBuild.Proofs.SourceSet.Entries
import CompositeBuild.Proofs.Toolchain.Settings

namespace CompositeBuild.Dump

/-! ## Listing anew -/

/-- The second task is the first with its properties in another order. -/
structure Task.Relisted (t₁ t₂ : Task) : Prop where
  archive : t₁.archive = t₂.archive
  properties : t₁.properties.Perm t₂.properties
  outputs : t₁.outputs = t₂.outputs

/-- The second project is the first with its tasks, each listed anew, and its source sets in another
order. -/
def Project.Relisted (p₁ p₂ : Project) : Prop :=
  ∃ tasks sourceSets, ListedAnew (RelatedEntries Task.Relisted) p₁.tasks.entries tasks.entries ∧
    Option.Rel List.Perm p₁.sourceSets sourceSets ∧ p₂ = { p₁ with tasks, sourceSets }

/-- The second build is the first with its projects, each listed anew, in another order. -/
def Build.Relisted (b₁ b₂ : Build) : Prop :=
  ∃ projects, ListedAnew Project.Relisted b₁.projects projects ∧ b₂ = { b₁ with projects }

/-- The second dump is the first with each of its builds listed anew. -/
def Relisted (d₁ d₂ : Dump) : Prop :=
  ∃ builds, List.Forall₂ Build.Relisted d₁.builds builds ∧ d₂ = { d₁ with builds }

/-- The source sets of a project have different names. -/
def Project.SourceSetsDistinct (p : Project) : Prop :=
  ∀ definitions ∈ p.sourceSets, (definitions.map SourceSetDefinition.name).Nodup

/-- The projects of a build have different paths, one of them is the root path if there are any, and
the source sets of each of them have different names. -/
structure Build.PathsDistinct (b : Build) : Prop where
  paths : (b.projects.map Project.path).Nodup
  root : b.projects ≠ [] → rootPath ∈ b.projects.map Project.path
  projects : ∀ p ∈ b.projects, p.SourceSetsDistinct

/-! ## Facets of a project -/

section Properties

variable {t₁ t₂ : Task} (h : t₁.Relisted t₂)
include h

/-- What is captured under a name does not depend on the order of the properties of a task. -/
theorem property?_ofTask_eq (name : String) :
    (PropertyHolder.ofTask t₁.properties).property? name =
      (PropertyHolder.ofTask t₂.properties).property? name := by
  have hnames := (Property.namesDistinct_object_iff.1 t₁.distinct).1
  have hget (name : String) : t₁.properties.get? name = t₂.properties.get? name :=
    findEntry_eq_of_perm h.properties hnames name
  have hhas (name : String) : t₁.properties.has name = t₂.properties.has name :=
    congrArg Option.isSome (hget name)
  rw [PropertyHolder.property?_ofTask, PropertyHolder.property?_ofTask,
    TaskShape.ofProperties_congr (hhas _) (hhas _), hget]

theorem settings_ofTask_eq (config : ToolchainConfig) (task : String) :
    ToolchainSettings.ofTask config task (.ofTask t₁.properties) =
      ToolchainSettings.ofTask config task (.ofTask t₂.properties) :=
  ToolchainSettings.ofTask_congr fun name _ => property?_ofTask_eq h name

end Properties

namespace Project

section Facets

variable {p₁ p₂ : Project} (h : p₁.Relisted p₂)
include h

/-- The toolchain settings of a project do not depend on how it is listed. -/
theorem extract_toolchain_eq (config : ToolchainConfig) :
    ToolchainSettings.extract config p₁ = ToolchainSettings.extract config p₂ := by
  obtain ⟨tasks, sourceSets, htasks, -, rfl⟩ := h
  unfold ToolchainSettings.extract
  obtain ⟨h₁, h₂⟩ | ⟨t₁, t₂, h₁, h₂, -, ht⟩ :=
    rel_cases (InsertionMap.rel_get? htasks config.compileTask)
  · rw [h₁, h₂]
  · rw [h₁, h₂]
    dsimp only
    rw [settings_ofTask_eq ht]

/-- The archives of a task do not depend on how the project is listed. -/
theorem archivesOf_eq (task : String) :
    SourceSet.archivesOf p₁ task = SourceSet.archivesOf p₂ task := by
  obtain ⟨tasks, sourceSets, htasks, -, rfl⟩ := h
  unfold SourceSet.archivesOf
  obtain ⟨h₁, h₂⟩ | ⟨t₁, t₂, h₁, h₂, -, ht⟩ := rel_cases (InsertionMap.rel_get? htasks task)
  · rw [h₁, h₂]
  · rw [h₁, h₂]
    simp only [ht.archive, ht.outputs]

/-- The source sets of a project do not depend on how it is listed. -/
theorem extract_sourceSets_eq (hp : p₁.SourceSetsDistinct) :
    (SourceSet.extract p₁).value = (SourceSet.extract p₂).value := by
  have hdefinition : SourceSet.ofDefinition p₁ = SourceSet.ofDefinition p₂ := by
    funext definition
    unfold SourceSet.ofDefinition SourceSet.producedArtifacts
    rw [archivesOf_eq h]
  obtain ⟨tasks, sourceSets, -, hsets, rfl⟩ := h
  unfold SourceSet.extract
  rw [hdefinition]
  obtain ⟨h₁, h₂⟩ | ⟨definitions₁, definitions₂, h₁, h₂, hperm⟩ := rel_cases hsets
  · rw [h₁, h₂]
  · rw [h₁, h₂]
    simp only [Logged.value_bind, Logged.value_pure, Logged.value_forEach]
    rw [SortedSet.ofListLast_of_perm (hperm.map _)]
    exact SourceSet.pairwise_compare_ne _ (hp definitions₁ h₁)

end Facets

end Project

/-! ## The model of a build -/

theorem Project.Relisted.path_eq (p₁ p₂ : Project) (h : p₁.Relisted p₂) : p₁.path = p₂.path := by
  obtain ⟨_, _, _, _, rfl⟩ := h
  rfl

theorem Project.Relisted.name_eq {p₁ p₂ : Project} (h : p₁.Relisted p₂) : p₁.name = p₂.name := by
  obtain ⟨_, _, _, _, rfl⟩ := h
  rfl

theorem Build.Relisted.name_eq (b₁ b₂ : Build) (h : b₁.Relisted b₂) : b₁.name = b₂.name := by
  obtain ⟨_, _, rfl⟩ := h
  rfl

theorem Build.Relisted.includedBuilds_eq (b₁ b₂ : Build) (h : b₁.Relisted b₂) :
    b₁.includedBuilds = b₂.includedBuilds := by
  obtain ⟨_, _, rfl⟩ := h
  rfl

namespace Build

/-- A project that is listed anew becomes the same module. -/
theorem moduleOf_eq_of_relisted (b : Build) (p₁ p₂ : Project) (h : p₁.Relisted p₂) :
    b.moduleOf p₁ = b.moduleOf p₂ := by
  obtain ⟨_, _, _, _, rfl⟩ := h
  rfl

section Model

variable {b₁ b₂ : Build} (h : b₁.Relisted b₂) (hb : b₁.PathsDistinct)
include h

/-- The projects of a build are listed anew. -/
theorem projects_listedAnew : ListedAnew Project.Relisted b₁.projects b₂.projects := by
  obtain ⟨_, hprojects, rfl⟩ := h
  exact hprojects

include hb

/-- The projects at a path are related by how they are listed. -/
theorem rel_firstAt? (path : String) :
    Option.Rel (fun p₁ p₂ => p₁.SourceSetsDistinct ∧ p₁.Relisted p₂) (b₁.firstAt? path)
      (b₂.firstAt? path) :=
  rel_imp ((projects_listedAnew h).rel_find? Project.Relisted.path_eq hb.paths path)
    fun p _ _ hp => ⟨hb.projects p hp.1, hp.2⟩

theorem nodup_paths : (b₂.projects.map Project.path).Nodup :=
  ((projects_listedAnew h).perm_map Project.Relisted.path_eq).nodup_iff.1 hb.paths

/-- The root projects are related by how they are listed. -/
theorem rel_rootProject? : Option.Rel Project.Relisted b₁.rootProject? b₂.rootProject? := by
  show Option.Rel _ ((b₁.firstAt? rootPath).or b₁.projects.head?)
    ((b₂.firstAt? rootPath).or b₂.projects.head?)
  obtain ⟨h₁, h₂⟩ | ⟨p₁, p₂, h₁, h₂, -, hp⟩ := rel_cases (rel_firstAt? h hb rootPath)
  · -- Without a project at the root path there are no projects at all.
    have hprojects : b₁.projects = [] := by
      by_contra hne
      obtain ⟨root, hroot, hpath⟩ := List.mem_map.1 (hb.root hne)
      obtain ⟨first, hfirst⟩ := exists_firstAt? hroot
      rw [hpath, h₁] at hfirst
      exact nomatch hfirst
    rw [h₁, h₂, hprojects, (projects_listedAnew h).eq_nil_iff.1 hprojects]
    exact .none
  · rw [h₁, h₂]
    exact .some hp

/-- The build listed anew has the same name of its project graph. -/
theorem projectName_eq_of_relisted : b₁.projectName = b₂.projectName := by
  unfold projectName
  rw [Relisted.name_eq b₁ b₂ h]
  obtain ⟨h₁, h₂⟩ | ⟨p₁, p₂, h₁, h₂, hp⟩ := rel_cases (rel_rootProject? h hb)
  · rw [h₁, h₂]
  · rw [h₁, h₂]
    exact hp.name_eq

/-- The containers have the same names. -/
theorem containerName_eq : b₁.containerName = b₂.containerName := by
  funext container
  -- The last project at a path is the first one there, since it is the only one.
  have hlast := rel_firstAt? h hb container.1
  rw [(PathsIdentify.of_nodup hb.paths).firstAt?_eq,
    (PathsIdentify.of_nodup (nodup_paths h hb)).firstAt?_eq] at hlast
  unfold containerName
  obtain ⟨h₁, h₂⟩ | ⟨p₁, p₂, h₁, h₂, -, hp⟩ := rel_cases hlast
  · rw [h₁, h₂]
  · rw [h₁, h₂]
    exact hp.name_eq

/-- Projects become the same modules. -/
theorem moduleOf_eq : b₁.moduleOf = b₂.moduleOf := by
  funext p
  unfold moduleOf containersOf
  rw [projectName_eq_of_relisted h hb, containerName_eq h hb, Relisted.name_eq b₁ b₂ h]

/-- The handles of the root projects are the same. -/
theorem ref_eq : b₁.ref = b₂.ref := by
  have hroot := rel_rootProject? h hb
  obtain ⟨projects, -, rfl⟩ := h
  unfold ref rootRef
  obtain ⟨h₁, h₂⟩ | ⟨p₁, _, h₁, h₂, _, _, -, -, rfl⟩ := rel_cases hroot
  · rw [h₁, h₂]
  · rw [h₁, h₂]

/-- The model of the build listed anew has the same modules in another order. -/
theorem reordered_model : b₁.model.Reordered b₂.model := by
  refine ⟨b₂.projects.map b₂.moduleOf, ?_, ?_⟩
  · rw [← moduleOf_eq h hb]
    exact (projects_listedAnew h).perm_map (moduleOf_eq_of_relisted b₁)
  · have hdir :
        b₁.rootProject?.bind Project.projectDir = b₂.rootProject?.bind Project.projectDir := by
      obtain ⟨h₁, h₂⟩ | ⟨p₁, _, h₁, h₂, _, _, -, -, rfl⟩ := rel_cases (rel_rootProject? h hb)
      · rw [h₁, h₂]
      · rw [h₁, h₂]
        rfl
    unfold model
    rw [hdir, projectName_eq_of_relisted h hb]
    obtain ⟨projects, -, rfl⟩ := h
    rfl

end Model

end Build

/-! ## The host of a dump -/

section Host

variable {d₁ d₂ : Dump} (h : d₁.Relisted d₂)
include h

/-- The builds of a name are related by how they are listed. -/
theorem rel_build? (name : String) :
    Option.Rel (fun b₁ b₂ => b₁ ∈ d₁.builds ∧ b₁.Relisted b₂)
      (d₁.build? name) (d₂.build? name) := by
  obtain ⟨builds, hbuilds, rfl⟩ := h
  exact rel_find?_of_forall₂ Build.Relisted.name_eq hbuilds name

/-- The same names have builds. -/
theorem isSome_build?_eq (name : String) : (d₁.build? name).isSome = (d₂.build? name).isSome := by
  obtain ⟨h₁, h₂⟩ | ⟨b₁, b₂, h₁, h₂, -⟩ := rel_cases (rel_build? h name)
  · rw [h₁, h₂]
  · rw [h₁, h₂]
    rfl

/-- The root build has the same name. -/
theorem rootBuildName?_eq : d₁.rootBuildName? = d₂.rootBuildName? := by
  obtain ⟨builds, hbuilds, rfl⟩ := h
  have hnames := map_eq_of_forall₂ Build.Relisted.name_eq hbuilds
  unfold rootBuildName?
  rw [← List.head?_map, hnames, List.head?_map]

/-- The same builds are referred to. -/
theorem referencedBuilds_eq : d₁.referencedBuilds = d₂.referencedBuilds := by
  obtain ⟨builds, hbuilds, rfl⟩ := h
  have hincluded := map_eq_of_forall₂ Build.Relisted.includedBuilds_eq hbuilds
  unfold referencedBuilds
  rw [List.flatMap_def, List.flatMap_def, hincluded]

theorem gradleVersion_eq : d₁.gradleVersion = d₂.gradleVersion := by
  obtain ⟨_, _, rfl⟩ := h
  rfl

variable (hpaths : ∀ b ∈ d₁.builds, b.PathsDistinct)
include hpaths

/-- The projects of a module are related by how they are listed. -/
theorem rel_findProject? (m : Module) :
    Option.Rel (fun p₁ p₂ => p₁.SourceSetsDistinct ∧ p₁.Relisted p₂) (d₁.findProject? m)
      (d₂.findProject? m) := by
  show Option.Rel _ ((d₁.build? m.build).bind fun b => b.firstAt? m.path)
    ((d₂.build? m.build).bind fun b => b.firstAt? m.path)
  obtain ⟨h₁, h₂⟩ | ⟨b₁, b₂, h₁, h₂, hmem, hb⟩ := rel_cases (rel_build? h m.build)
  · rw [h₁, h₂]
    exact .none
  · rw [h₁, h₂]
    exact Build.rel_firstAt? hb (hpaths b₁ hmem) m.path

/-! ## The answers of the host -/

/-- The answer for a build has the same modules in another order. -/
theorem alike_fetchBuild (name : String) :
    (d₁.fetchBuild name).Alike CompositeBuild.Project.Reordered (d₂.fetchBuild name) := by
  unfold fetchBuild
  obtain ⟨h₁, h₂⟩ | ⟨b₁, b₂, h₁, h₂, hmem, hb⟩ := rel_cases (rel_build? h name)
  · rw [h₁, h₂]
    exact ⟨.none, rfl⟩
  · have hmodel := Build.reordered_model hb (hpaths b₁ hmem)
    have hempty : b₁.projects.isEmpty = b₂.projects.isEmpty := by
      rw [Bool.eq_iff_iff, List.isEmpty_iff, List.isEmpty_iff]
      exact (Build.projects_listedAnew hb).eq_nil_iff
    have hfailures : b₁.failures = b₂.failures := by
      obtain ⟨_, _, rfl⟩ := hb
      rfl
    rw [h₁, h₂]
    dsimp only
    rw [hempty, hfailures]
    cases b₂.projects.isEmpty with
    | true => exact ⟨.none, rfl⟩
    | false => exact ⟨.some hmodel, rfl⟩

/-- The answers about the facets of a module are the same. -/
theorem fetchFacets_eq (config : ToolchainConfig) (m : Module) :
    (d₁.fetchToolchain config m).value = (d₂.fetchToolchain config m).value ∧
      (d₁.fetchSourceSets m).value = (d₂.fetchSourceSets m).value := by
  unfold fetchToolchain fetchSourceSets
  obtain ⟨h₁, h₂⟩ | ⟨p₁, p₂, h₁, h₂, hnames, hp⟩ := rel_cases (rel_findProject? h hpaths m)
  · rw [h₁, h₂]
    exact ⟨rfl, rfl⟩
  · have htoolchain := Project.extract_toolchain_eq hp config
    have hsets := Project.extract_sourceSets_eq hp hnames
    have hfailures : p₁.failures = p₂.failures := by
      obtain ⟨_, _, _, _, rfl⟩ := hp
      rfl
    rw [h₁, h₂]
    dsimp only
    rw [htoolchain, hfailures]
    refine ⟨rfl, ?_⟩
    unfold facet
    split
    · rw [Logged.value_bind, Logged.value_bind, hsets]
    · rfl

/-- The dumps show the same of every build. -/
theorem showAlike_of_relisted (name : String) : d₁.ShowAlike d₂ name := by
  unfold ShowAlike
  obtain ⟨h₁, h₂⟩ | ⟨b₁, b₂, h₁, h₂, hmem, hb⟩ := rel_cases (rel_build? h name)
  · rw [h₁, h₂]
  · have href := Build.ref_eq hb (hpaths b₁ hmem)
    have hincludes := Build.Relisted.includedBuilds_eq b₁ b₂ hb
    rw [h₁, h₂]
    exact congrArg some (Prod.ext href hincludes)

/-- The build graphs are the same. -/
theorem graph_eq {root : Build} (hroot : d₁.build? root.name = some root) :
    (d₁.graph root.name).value = (d₂.graph root.name).value := by
  have heditable : d₁.editableBuilds = d₂.editableBuilds := by
    obtain ⟨_, _, rfl⟩ := h
    rfl
  exact graph_congr hroot (fun name _ => showAlike_of_relisted h hpaths name) heditable
    fun name _ => showAlike_of_relisted h hpaths name

end Host

/-- A checked dump that is listed anew.  The check looks at the names of builds, at what they
include and at the version, and these are as before. -/
def Checked.relisted (c : Checked) {d : Dump} (h : c.dump.Relisted d) : Checked where
  dump := d
  rootBuild := c.rootBuild
  version := c.version
  named := by rw [← rootBuildName?_eq h, c.named]
  known := by
    rw [← referencedBuilds_eq h]
    intro name hname
    rw [← isSome_build?_eq h]
    exact c.known name hname
  parsed := by rw [← gradleVersion_eq h, c.parsed]

/-- The host of the dump that is listed anew answers with the modules of each project in another
order. -/
theorem reordersModules_host (c : Checked) {d : Dump} (h : c.dump.Relisted d)
    (hpaths : ∀ b ∈ c.dump.builds, b.PathsDistinct) (toolchain : ToolchainConfig) :
    (c.host toolchain).ReordersModules ((c.relisted h).host toolchain) where
  rootProject := alike_fetchBuild h hpaths c.rootBuild
  project ref := alike_fetchBuild h hpaths ref.build
  toolchain m := (fetchFacets_eq h hpaths toolchain m).1
  sourceSets m := (fetchFacets_eq h hpaths toolchain m).2
  graph := by
    obtain ⟨root, hroot, hname⟩ := c.exists_root
    rw [← hname] at hroot
    show (c.dump.graph c.rootBuild).value = (d.graph c.rootBuild).value
    rw [← hname, graph_eq h hpaths hroot]
  version := rfl

/-- **The order of listing in a build has no meaning.** Let the projects of each build of a checked
dump have different paths, the root path among them, and let the source sets of each project have
different names.  Then the dump may list the projects of its builds, their tasks, the properties of
these and their source sets in any other order: it is still accepted, and every aggregation of it
ends alike, with the same module ids and with the same projects but for the order of the modules in
each.  If no two of these modules have one id, the toolchains and source sets are the same too, and
so are the diagnostics in some order. -/
theorem listing_order_has_no_meaning {c : Checked} (hpaths : ∀ b ∈ c.dump.builds, b.PathsDistinct)
    {d : Dump} (h : c.dump.Relisted d) :
    d.check = .ok (c.relisted h) ∧
      ∀ (toolchain : ToolchainConfig) (config : AggregationConfig),
        EndAlike Aggregation.ReordersModules ((c.host toolchain).aggregate config).value
          (((c.relisted h).host toolchain).aggregate config).value :=
  ⟨check_eq_ok_iff.2 rfl, fun toolchain config =>
    (reordersModules_host c h hpaths toolchain).endAlike config⟩

/-! ## A build in two listings -/

namespace TwoListings

/-- The compile task. -/
def compile : Task where
  archive := false
  properties :=
    [("compilerOptions", .object [("jvmTarget", .text "JVM_17")]),
     ("pluginClasspath", .files [⟨"serialization.jar"⟩])]
  distinct := by decide
  outputs := []

/-- The compile task with its properties in another order. -/
def compileAnew : Task :=
  { compile with properties := compile.properties.reverse, distinct := by decide }

/-- A task that packages the main source set. -/
def jar : Task := ⟨true, [], Property.namesDistinct_empty, [⟨"core.jar"⟩]⟩

/-- The tasks of a project. -/
def tasks : InsertionMap Task where
  entries := [("compileKotlin", compile), ("jar", jar)]
  distinct := by decide

/-- The same tasks in another order, with the properties of one of them in another order. -/
def tasksAnew : InsertionMap Task where
  entries := [("jar", jar), ("compileKotlin", compileAnew)]
  distinct := by decide

/-- A source set, one of whose classpaths could not be resolved. -/
def sourceSet (name : String) : SourceSetDefinition :=
  ⟨name, [⟨"src"⟩], [], [], [], .files [⟨"annotations.jar"⟩], .unresolved "offline", []⟩

/-- The root project of the build. -/
def root : Project := ⟨"App", ":", none, .empty, none, .none⟩

/-- A project of the build. -/
def core (tasks : InsertionMap Task) (sourceSets : List SourceSetDefinition) : Project :=
  ⟨"core", ":core", some ⟨"/app/core"⟩, tasks, some sourceSets, .none⟩

/-- A build that lists some projects. -/
def build (projects : List Project) : Build := ⟨"App", none, none, projects, [], []⟩

/-- The projects of the build. -/
def projects : List Project := [root, core tasks [sourceSet "main", sourceSet "test"]]

/-- The projects of the build listed anew. -/
def projectsAnew : List Project := [core tasksAnew [sourceSet "test", sourceSet "main"], root]

/-- A dump of a build that lists some projects. -/
def dump (projects : List Project) : Dump := ⟨"8.5", none, [build projects], []⟩

/-- The dump after its check. -/
def checked (projects : List Project) : Checked where
  dump := dump projects
  rootBuild := "App"
  version := ⟨8, 5, 0⟩
  named := rfl
  known := List.forall_mem_singleton.2 rfl
  parsed := by
    show HostVersion.parse "8.5" = _
    rfl

/-- The tasks are listed anew. -/
theorem tasks_listedAnew :
    ListedAnew (RelatedEntries Task.Relisted) tasks.entries tasksAnew.entries := by
  have hcompile : compile.Relisted compileAnew := ⟨rfl, (List.reverse_perm _).symm, rfl⟩
  have hjar : jar.Relisted jar := ⟨rfl, .refl _, rfl⟩
  exact ⟨[("compileKotlin", compileAnew), ("jar", jar)],
    .cons ⟨rfl, hcompile⟩ (.cons ⟨rfl, hjar⟩ .nil), .swap _ _ _⟩

/-- The dump is listed anew. -/
theorem relisted_dump : (dump projects).Relisted (dump projectsAnew) := by
  have hroot : Project.Relisted root root := ⟨.empty, none, ⟨[], .nil, .refl _⟩, .none, rfl⟩
  have hcore : Project.Relisted (core tasks [sourceSet "main", sourceSet "test"])
      (core tasksAnew [sourceSet "test", sourceSet "main"]) :=
    ⟨_, _, tasks_listedAnew, .some (.swap _ _ _), rfl⟩
  have hprojects : ListedAnew Project.Relisted projects projectsAnew :=
    ⟨_, .cons hroot (.cons hcore .nil), .swap _ _ _⟩
  exact ⟨_, .cons ⟨_, hprojects, rfl⟩ .nil, rfl⟩

/-- The paths and names in the dump are distinct. -/
theorem pathsDistinct : ∀ b ∈ (dump projects).builds, b.PathsDistinct := by
  refine List.forall_mem_singleton.2 ⟨by decide, fun _ => by decide, ?_⟩
  refine List.forall_mem_cons.2 ⟨nofun, List.forall_mem_singleton.2 ?_⟩
  rintro _ ⟨rfl⟩
  decide

/-- The dump is aggregated, and its modules have distinct ids. -/
theorem exists_aggregate :
    ∃ a, (((checked projects).host .default).aggregate .default).value = .ok a ∧
    (a.snapshot.modules.map Module.id).Nodup := by
  have hmodel :
      ((checked projects).host .default).rootProject.model = some (build projects).model :=
    rfl
  -- The build includes no other and none is editable, so nothing is visited beside it.
  have hnames (strategy : DiscoveryStrategy) :
      (checked projects).dump.namesToVisit strategy (build projects) = [] := by
    rw [namesToVisit, if_pos (.inr rfl)]
    show breadthFirst _ _ [] = []
    rw [breadthFirst]
  refine ⟨_, (Host.aggregate_eq_ok_iff _).2 ⟨_, hmodel, rfl⟩, ?_⟩
  show (((Host.composedProjects _ _ _).flatMap CompositeBuild.Project.modules).map Module.id).Nodup
  rw [composedProjects_host (checked projects) rfl, hnames]
  decide

end TwoListings

/-- A build whose projects, tasks, properties and source sets are listed in two orders is aggregated
to the same facets, and to the same diagnostics in some order. -/
theorem facets_of_twoListings :
    (TwoListings.dump TwoListings.projects).Relisted (TwoListings.dump TwoListings.projectsAnew) ∧
    (TwoListings.dump TwoListings.projectsAnew).check =
      .ok (TwoListings.checked TwoListings.projectsAnew) ∧
    ∃ a₁ a₂,
      (((TwoListings.checked TwoListings.projects).host .default).aggregate .default).value =
        .ok a₁ ∧
      (((TwoListings.checked TwoListings.projectsAnew).host .default).aggregate .default).value =
        .ok a₂ ∧
      a₁.snapshot.toolchains = a₂.snapshot.toolchains ∧
      a₁.snapshot.sourceSets = a₂.snapshot.sourceSets ∧ a₁.diagnostics.Perm a₂.diagnostics := by
  obtain ⟨hcheck, hlistings⟩ := listing_order_has_no_meaning
    (c := TwoListings.checked TwoListings.projects) TwoListings.pathsDistinct
    TwoListings.relisted_dump
  obtain ⟨a₁, ha₁, hids⟩ := TwoListings.exists_aggregate
  have hend := hlistings .default .default
  rw [ha₁] at hend
  obtain ⟨a₂, ha₂, h⟩ := hend.exists_ok
  exact ⟨TwoListings.relisted_dump, hcheck, a₁, a₂, ha₁, ha₂, h.facets hids⟩

end CompositeBuild.Dump
