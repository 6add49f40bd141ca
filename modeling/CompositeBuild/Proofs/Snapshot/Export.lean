/-
# Reading exported snapshots

The snapshot of a dump nests the containers of its modules in each other, as many as there are
projects named on the path above a project.  So a snapshot that is exported from a dump can be read
back exactly if no project of its builds stands too deep (`Dump.read_exported`), although every such
dump is accepted: a path is a string, and no string nests too deep for a text.
-/
import CompositeBuild.Proofs.Discovery.CapturedBuilds
import CompositeBuild.Proofs.Hierarchy.Segments
import CompositeBuild.Proofs.Snapshot.RoundTrip

namespace CompositeBuild.Dump

open Json (Decoder Layout)

/-! ## Modules of an aggregated dump -/

section Aggregated

variable {c : Checked} {toolchain : ToolchainConfig} {config : AggregationConfig} {a : Aggregation}

/-- A project graph of a dump is that of one of its builds. -/
theorem exists_build_of_model? {d : Dump} {name : String} {p : CompositeBuild.Project}
    (h : d.model? name = some p) : ∃ b : Build, p = b.model := by
  obtain ⟨b, -, hb⟩ := Option.bind_eq_some_iff.1 h
  split at hb
  · exact nomatch hb
  · exact ⟨b, (Option.some.inj hb).symm⟩

/-- Every project of the snapshot of a dump is the project graph of a build. -/
theorem exists_build_of_mem_projects
    (ha : ((c.host toolchain).aggregate config).value = .ok a) {p : CompositeBuild.Project}
    (hp : p ∈ a.snapshot.projects) : ∃ b : Build, p = b.model := by
  obtain ⟨root, hroot, rfl⟩ := Host.aggregate_eq_ok_iff _ |>.1 ha
  have hmodel (name : String) (h : (c.dump.fetchBuild name).model = some p) :
      ∃ b : Build, p = b.model :=
    exists_build_of_model? (c.dump.model_fetchBuild name ▸ h)
  rcases List.mem_cons.1 hp with rfl | hp
  · exact hmodel c.rootBuild hroot
  · obtain ⟨ref, -, href⟩ := List.mem_filterMap.1 hp
    exact hmodel ref.build href

theorem length_containers (ha : ((c.host toolchain).aggregate config).value = .ok a)
    {p : CompositeBuild.Project} (hp : p ∈ a.snapshot.projects) {m : Module} (hm : m ∈ p.modules) :
    m.containers.length = (containersAbove (segments m.path)).length := by
  obtain ⟨b, rfl⟩ := exists_build_of_mem_projects ha hp
  obtain ⟨project, -, rfl⟩ := List.mem_map.1 hm
  exact List.length_map _

/-- The snapshot of a dump can stand in a text if no module has more than 122 containers above its
path. -/
theorem depth_exported_le_iff (ha : ((c.host toolchain).aggregate config).value = .ok a) :
    a.snapshot.toJson.depth ≤ Decoder.textRoom ↔ ∀ p ∈ a.snapshot.projects,
      ∀ m ∈ p.modules, (containersAbove (segments m.path)).length ≤ 122 := by
  rw [show Decoder.textRoom = 122 + 5 from rfl, Snapshot.depth_toJson_le_iff]
  exact forall₂_congr fun p hp => forall₂_congr fun m hm => by rw [length_containers ha hp hm]

/-- **Which exported snapshots can be read back.**  The text of a snapshot that was aggregated from
a dump is read as the same snapshot if no module has more than 122 containers above its path;
otherwise it is rejected as malformed, in either layout.  This is so for every dump that was
checked. -/
theorem read_exported (ha : ((c.host toolchain).aggregate config).value = .ok a) (layout : Layout) :
    Snapshot.read (a.snapshot.write layout) =
      if ∀ p ∈ a.snapshot.projects, ∀ m ∈ p.modules,
        (containersAbove (segments m.path)).length ≤ 122
      then .ok a.snapshot else .error (.text .malformed) := by
  rw [Snapshot.read_write, Json.within]
  exact if_congr (depth_exported_le_iff ha) rfl rfl

end Aggregated

/-! ## A project far below its root -/

namespace FarBelow

variable (names : List String)

/-- A project at the path of some names below the root, of which nothing else was captured. -/
def project : Project := ⟨"far", pathTo names, none, .empty, none, .none⟩

/-- A build with that project only. -/
def build : Build := ⟨"App", none, none, [project names], [], []⟩

/-- A dump with that build only. -/
def dump : Dump := ⟨"8.5", none, [build names], []⟩

/-- The dump after its check. -/
def checked : Checked where
  dump := dump names
  rootBuild := "App"
  version := ⟨8, 5, 0⟩
  named := rfl
  known := List.forall_mem_singleton.2 rfl
  parsed := by
    show HostVersion.parse "8.5" = _
    rfl

/-- The JSON form of the dump without what it leaves to defaults. -/
def json : Json :=
  .object
    [("gradleVersion", .string "8.5"),
     ("builds", .array
       [.object
         [("name", .string "App"),
          ("projects", .array
            [.object [("name", .string "far"), ("path", .string (pathTo names))]])]])]

/-- The dump is what its JSON form is read as. -/
theorem reads_json : Dump.decoder.Reads (json names) (dump names) := by
  have hproject : ∀ p ∈ [project names], Project.decoder.Reads
      (.object [("name", .string "far"), ("path", .string (pathTo names))]) p := by
    refine List.forall_mem_singleton.2 (Decoder.reads_record
      (fun room =>
        .member (Decoder.reads_string "far" room) <|
        .member (Decoder.reads_string (pathTo names) room) <|
        .absent rfl <| .absent rfl <| .absent rfl <| .absent rfl .nil)
      rfl fun _ =>
        (by decide : ["name", "path", "projectDir", "tasks", "sourceSets", "failures"].Nodup))
  have hbuild : ∀ b ∈ [build names], Build.decoder.Reads
      (.object
        [("name", .string "App"),
         ("projects", .array
           [.object [("name", .string "far"), ("path", .string (pathTo names))]])]) b := by
    refine List.forall_mem_singleton.2 (Decoder.reads_record
      (fun room =>
        .member (Decoder.reads_string "App" room) <|
        .absent rfl <| .absent rfl <|
        .member (Decoder.reads_list hproject room) <|
        .absent rfl <| .absent rfl .nil)
      rfl fun _ =>
        (by decide : ["name", "rootDir", "languageLevel", "projects", "includedBuilds",
          "failures"].Nodup))
  exact Decoder.reads_record
    (fun room =>
      .member (Decoder.reads_string "8.5" room) <|
      .absent rfl <|
      .member (Decoder.reads_list hbuild room) <|
      .absent rfl .nil)
    rfl fun _ => (by decide : ["gradleVersion", "rootBuild", "builds", "editableBuilds"].Nodup)

/-- The dump is loaded from the text of its JSON form. -/
theorem fromText_json :
    Dump.decoder.fromText ((json names).toText .compact) = .ok (dump names) := by
  have hintegral : (json names).IsIntegral := by
    simp [json, Json.IsIntegral, Json.MembersIntegral, Json.ItemsIntegral]
  have hdepth : (json names).depth ≤ Decoder.textRoom := by
    simp [json, Json.depth, Json.depthOfMembers, Json.depthOfItems, Decoder.textRoom]
  exact (reads_json names).fromText_toText hintegral hdepth .compact

/-- The dump is aggregated, and the only project of its snapshot is that of its build. -/
theorem aggregate_dump :
    ∃ a, (((checked names).host .default).aggregate .default).value = .ok a ∧
      a.snapshot.projects = [(build names).model] := by
  have hroot : ((checked names).host .default).rootProject.model = some (build names).model := rfl
  -- The build includes no other and none is editable, so nothing is visited beside it.
  have hgraph : ((checked names).host .default).graph.value = ⟨[], []⟩ := by rfl
  have hdiscover (strategy : DiscoveryStrategy) (root : String) :
      (⟨[], []⟩ : BuildGraph).discover strategy root = [] := by
    cases strategy <;> exact BuildRef.walk_nil
  refine ⟨_, (Host.aggregate_eq_ok_iff _).2 ⟨_, hroot, rfl⟩, ?_⟩
  show Host.composedProjects _ _ _ = _
  rw [Host.composedProjects, Host.visitedRefs, hgraph, hdiscover]
  rfl

/-- The only module of its snapshot has a container for every name above its own. -/
theorem containers_le_iff {above : List String} {name : String}
    (hnames : ∀ s ∈ above ++ [name], Text.IsName ':' s) {n : Nat} :
    (∀ p ∈ [(build (above ++ [name])).model], ∀ m ∈ p.modules,
        (containersAbove (segments m.path)).length ≤ n) ↔ above.length ≤ n := by
  have hmodules : (build (above ++ [name])).model.modules =
      [(build (above ++ [name])).moduleOf (project (above ++ [name]))] := rfl
  rw [List.forall_mem_singleton, hmodules, List.forall_mem_singleton,
    ← length_containersAbove_pathTo hnames]
  rfl

end FarBelow

/-- The snapshot of a project with one container is read back. -/
theorem read_exported_of_oneContainer :
    ∃ a, (((FarBelow.checked ["libs", "core"]).host .default).aggregate .default).value = .ok a ∧
      ∀ layout, Snapshot.read (a.snapshot.write layout) = .ok a.snapshot := by
  have hnames : ∀ s ∈ ["libs"] ++ ["core"], Text.IsName ':' s := by decide
  obtain ⟨a, ha, hprojects⟩ := FarBelow.aggregate_dump ["libs", "core"]
  refine ⟨a, ha, fun layout => ?_⟩
  rw [read_exported ha layout, if_pos]
  rw [hprojects]
  exact (FarBelow.containers_le_iff hnames).2 (by decide)

/-- **A snapshot that is exported and cannot be read.**  A dump with a project 124 levels below the
root is loaded from its text and accepted, and it is aggregated, but the text of its snapshot nests
128 levels. -/
theorem exported_snapshot_unreadable :
    Dump.decoder.fromText ((FarBelow.json (List.replicate 124 "a")).toText .compact) =
        .ok (FarBelow.dump (List.replicate 124 "a")) ∧
      (FarBelow.dump (List.replicate 124 "a")).check =
        .ok (FarBelow.checked (List.replicate 124 "a")) ∧
      ∃ a, (((FarBelow.checked (List.replicate 124 "a")).host .default).aggregate .default).value =
          .ok a ∧
        ∀ layout, Snapshot.read (a.snapshot.write layout) = .error (.text .malformed) := by
  have hsplit : List.replicate 124 "a" = List.replicate 123 "a" ++ ["a"] := List.replicate_succ'
  have hnames : ∀ s ∈ List.replicate 123 "a" ++ ["a"], Text.IsName ':' s := by
    intro s hs
    rw [← hsplit] at hs
    rw [(List.mem_replicate.1 hs).2]
    decide
  refine ⟨FarBelow.fromText_json _, check_eq_ok_iff.2 rfl, ?_⟩
  obtain ⟨a, ha, hprojects⟩ := FarBelow.aggregate_dump (List.replicate 124 "a")
  have hdepth : ¬ a.snapshot.toJson.depth ≤ Decoder.textRoom := by
    rw [depth_exported_le_iff ha, hprojects, hsplit, FarBelow.containers_le_iff hnames,
      List.length_replicate]
    decide
  refine ⟨a, ha, fun layout => ?_⟩
  rw [Snapshot.read_write, Json.within, if_neg hdepth]

end CompositeBuild.Dump
