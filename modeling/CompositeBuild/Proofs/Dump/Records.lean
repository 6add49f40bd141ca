/-
# The records of a dump in JSON

Each record of a dump is read from its JSON form with all fields as they were written, except that
the properties of its tasks are what their JSON forms stand for (`Dump.reads_toJson`).
-/
import CompositeBuild.Dump
import CompositeBuild.Proofs.Property.ReservedKeys

namespace CompositeBuild

open Json (Decoder Fields)

/-! ## Property maps -/

namespace PropertyMap

/-- Changes the properties of a map under their names. -/
def mapValues (f : Property → Property) (m : PropertyMap) : PropertyMap :=
  m.map fun entry => (entry.1, f entry.2)

section Distinct

variable {m : PropertyMap} (h : (Property.object m).NamesDistinct)
include h

/-- What the properties of a map are read as has distinct names. -/
theorem namesDistinct_reread :
    (Property.object (m.mapValues Property.reread)).NamesDistinct := by
  refine Property.namesDistinct_object_iff.2 ⟨?_, List.forall_mem_map.2 fun entry _ => ?_⟩
  · rw [mapValues, map_fst_map]
    exact (Property.namesDistinct_object_iff.1 h).1
  · exact Property.namesDistinct_ofJson entry.2.toJson

/-- The JSON forms of the properties of a map stand for the properties as they are read. -/
theorem ofMembers_membersToJson :
    ofMembers (Property.membersToJson m) =
      ⟨m.mapValues Property.reread, namesDistinct_reread h⟩ := by
  apply Subtype.ext
  show ofEntries _ = _
  rw [Property.membersToJson_eq_map, List.map_map]
  exact foldl_putEntry_nil (Property.namesDistinct_object_iff.1 (namesDistinct_reread h)).1

/-- A map is read with its names as they were written. -/
theorem reads_toJson :
    decoder.Reads m.toJson ⟨m.mapValues Property.reread, namesDistinct_reread h⟩ := by
  have hentries : (Decoder.entries Decoder.value).Reads m.toJson (Property.membersToJson m) := by
    rw [toJson, Property.membersToJson_eq_map]
    exact Decoder.reads_entries_map fun entry _ => Decoder.reads_value entry.2.toJson
  have hread := hentries.map ofMembers
  rwa [ofMembers_membersToJson h] at hread

end Distinct

theorem isIntegral_toJson {m : PropertyMap}
    (h : ∀ value ∈ m.map (·.2), ∀ q ∈ value.nodes, q.isDouble = false) : m.toJson.IsIntegral := by
  rw [toJson, Property.membersToJson_eq_map]
  refine Json.membersIntegral_iff.2 (List.forall_mem_map.2 fun entry hentry => ?_)
  exact entry.2.isIntegral_toJson_iff.2 (h entry.2 (List.mem_map_of_mem hentry))

theorem depth_toJson_le_iff {m : PropertyMap} {n : Nat} :
    m.toJson.depth ≤ n + 1 ↔ ∀ value ∈ m.map (·.2), value.toJson.depth ≤ n := by
  rw [toJson, Property.membersToJson_eq_map, Json.depth_object_le_iff, List.forall_mem_map,
    List.forall_mem_map]

end PropertyMap

namespace Dump

/-! ## File collections and source sets -/

/-- A file collection is what its JSON form stands for. -/
theorem FileCollection.ofJson?_toJson (c : FileCollection) : ofJson? c.toJson = some c := by
  cases c with
  | unresolved reason => simp [toJson, ofJson?, Property.onlyMember?, Property.textOf?]
  | files paths =>
    show (Property.pathsOf? (Json.strings (paths.map Path.text))).map files = _
    rw [Property.pathsOf?_strings, Option.map_some]

theorem FileCollection.reads_toJson (c : FileCollection) : decoder.Reads c.toJson c := by
  refine Decoder.Reads.bind (Decoder.reads_value c.toJson) ?_
  rw [ofJson?_toJson]
  rfl

theorem FileCollection.isIntegral_toJson (c : FileCollection) : c.toJson.IsIntegral := by
  cases c with
  | unresolved reason => exact ⟨trivial, trivial⟩
  | files paths => exact Json.isIntegral_strings _

theorem FileCollection.depth_toJson_le {n : Nat} (c : FileCollection) : c.toJson.depth ≤ n + 1 := by
  cases c with
  | unresolved reason =>
    exact Json.depth_object_le_iff.2 (List.forall_mem_singleton.2 (Nat.zero_le n))
  | files paths => exact Json.depth_strings_le _

namespace SourceSetDefinition

/-- A definition is read as it was written. -/
theorem reads_toJson (s : SourceSetDefinition) : decoder.Reads s.toJson s :=
  Decoder.reads_record
    (fun room =>
      .member (Decoder.reads_string s.name room) <|
      .member (Decoder.reads_strings Decoder.reads_path s.sourceDirs room) <|
      .member (Decoder.reads_strings Decoder.reads_path s.resourceDirs room) <|
      .member (Decoder.reads_texts s.sourceExcludes room) <|
      .member (Decoder.reads_texts s.resourceExcludes room) <|
      .member (s.compileClasspath.reads_toJson room) <|
      .member (s.runtimeClasspath.reads_toJson room) <|
      .member (Decoder.reads_strings Decoder.reads_path s.outputFiles room) .nil)
    rfl fun _ =>
      (by decide : ["name", "sourceDirs", "resourceDirs", "sourceExcludes", "resourceExcludes",
        "compileClasspath", "runtimeClasspath", "outputFiles"].Nodup)

theorem isIntegral_toJson (s : SourceSetDefinition) : s.toJson.IsIntegral := by
  refine Json.membersIntegral_iff.2 ?_
  simp [FileCollection.isIntegral_toJson]

theorem depth_toJson_le {n : Nat} (s : SourceSetDefinition) : s.toJson.depth ≤ n + 2 := by
  refine Json.depth_object_le_iff.2 ?_
  simp [FileCollection.depth_toJson_le, Json.depth_strings_le]

end SourceSetDefinition

/-! ## Tasks -/

namespace Task

/-- The task with its properties as what their JSON forms stand for. -/
def reread (t : Task) : Task :=
  { t with
    properties := t.properties.mapValues Property.reread
    distinct := PropertyMap.namesDistinct_reread t.distinct }

/-- A task is what it is read as exactly if each of its properties is. -/
theorem reread_eq_self_iff {t : Task} :
    t.reread = t ↔ ∀ value ∈ t.properties.map (·.2), value.reread = value := by
  rw [← map_entries_eq_self_iff]
  obtain ⟨archive, properties, distinct, outputs⟩ := t
  simp only [reread, PropertyMap.mapValues, mk.injEq, true_and, and_true]

/-- A task is read with its properties as what their JSON forms stand for. -/
theorem reads_toJson (t : Task) : decoder.Reads t.toJson t.reread :=
  Decoder.reads_record
    (fun room =>
      .member (Decoder.reads_bool t.archive room) <|
      .member (PropertyMap.reads_toJson t.distinct room) <|
      .member (Decoder.reads_strings Decoder.reads_path t.outputs room) .nil)
    rfl fun _ => (by decide : ["archive", "properties", "outputs"].Nodup)

theorem isIntegral_toJson {t : Task}
    (h : ∀ value ∈ t.properties.map (·.2), ∀ q ∈ value.nodes, q.isDouble = false) :
    t.toJson.IsIntegral := by
  refine Json.membersIntegral_iff.2 ?_
  simp [PropertyMap.isIntegral_toJson h, Json.IsIntegral]

theorem depth_toJson_le_iff {t : Task} {n : Nat} :
    t.toJson.depth ≤ n + 2 ↔ ∀ value ∈ t.properties.map (·.2), value.toJson.depth ≤ n := by
  rw [← PropertyMap.depth_toJson_le_iff, toJson, Json.depth_object_le_iff]
  simp [Json.depth_strings_le, Json.depth]

end Task

/-! ## Projects -/

namespace FacetFailures

/-- Facet failures are read as they were written. -/
theorem reads_toJson (f : FacetFailures) : decoder.Reads f.toJson f :=
  Decoder.reads_record
    (fun room =>
      .member (Decoder.reads_texts f.toolchain room) <|
      .member (Decoder.reads_texts f.sourceSets room) .nil)
    rfl fun _ => (by decide : ["toolchain", "sourceSets"].Nodup)

theorem isIntegral_toJson (f : FacetFailures) : f.toJson.IsIntegral := by
  refine Json.membersIntegral_iff.2 ?_
  simp

theorem depth_toJson_le {n : Nat} (f : FacetFailures) : f.toJson.depth ≤ n + 2 := by
  refine Json.depth_object_le_iff.2 ?_
  simp [Json.depth_strings_le]

end FacetFailures

namespace Project

/-- The tasks of a project, without their names. -/
def taskList (p : Project) : List Task := p.tasks.entries.map (·.2)

/-- The project with its tasks as they are read. -/
def reread (p : Project) : Project := { p with tasks := p.tasks.mapValues Task.reread }

/-- A project is what it is read as exactly if each of its tasks is. -/
theorem reread_eq_self_iff {p : Project} : p.reread = p ↔ ∀ t ∈ p.taskList, t.reread = t := by
  rw [taskList, ← InsertionMap.mapValues_eq_self_iff]
  exact ⟨fun h => congrArg tasks h, fun h => by rw [reread, h]⟩

/-- The JSON form of the source sets of a project, if it has a container for them. -/
def sourceSetsJson? (p : Project) : Option Json :=
  p.sourceSets.map fun sets => .array (sets.map SourceSetDefinition.toJson)

/-- The members of a project, in the order of its fields. -/
theorem toJson_eq (p : Project) :
    p.toJson = .object
      (("name", .string p.name) :: ("path", .string p.path) ::
        (Json.optionalMember "projectDir" (p.projectDir.map fun dir => .string dir.text) ++
          [("tasks", .object (p.tasks.entries.map fun (name, task) => (name, task.toJson))),
           ("sourceSets", p.sourceSetsJson?.getD .null), ("failures", p.failures.toJson)])) := by
  unfold toJson sourceSetsJson?
  cases p.sourceSets <;> simp

/-- The tasks of a project are read under their names. -/
theorem reads_tasks (p : Project) :
    tasksDecoder.Reads (.object (p.tasks.entries.map fun (name, task) => (name, task.toJson)))
      (p.tasks.mapValues Task.reread) := by
  have hentries := Decoder.reads_entries_map fun entry (_ : entry ∈ p.tasks.entries) =>
    Task.reads_toJson entry.2
  have hread := hentries.map InsertionMap.ofList
  have hmap := InsertionMap.ofList_entries (p.tasks.mapValues Task.reread)
  rw [InsertionMap.mapValues] at hmap
  rwa [hmap] at hread

/-- The source sets of a project are read as they were written, if it has a container for them. -/
theorem rel_sourceSetsJson? (p : Project) :
    Option.Rel (fun v sets => v ≠ .null ∧ (Decoder.list SourceSetDefinition.decoder).Reads v sets)
      p.sourceSetsJson? p.sourceSets := by
  unfold sourceSetsJson?
  cases p.sourceSets with
  | none => exact .none
  | some sets => exact .some ⟨nofun, Decoder.reads_list fun s _ => s.reads_toJson⟩

/-- A project is read with the properties of its tasks as what their JSON forms stand for. -/
theorem reads_toJson (p : Project) : decoder.Reads p.toJson p.reread := by
  rw [toJson_eq]
  exact Decoder.reads_record
    (fun room =>
      .member (Decoder.reads_string p.name room) <|
      .member (Decoder.reads_string p.path room) <|
      .optional (Json.rel_map_string Decoder.reads_path p.projectDir) <|
      .member (p.reads_tasks room) <|
      .member (Json.orNull_getD_null p.rel_sourceSetsJson? room) <|
      .member (p.failures.reads_toJson room) .nil)
    rfl fun _ =>
      (by decide : ["name", "path", "projectDir", "tasks", "sourceSets", "failures"].Nodup)

/-- A project holds no double if its tasks hold none. -/
theorem isIntegral_toJson {p : Project} (h : ∀ t ∈ p.taskList, t.toJson.IsIntegral) :
    p.toJson.IsIntegral := by
  have htasks : (Json.object
      (p.tasks.entries.map fun (name, task) => (name, task.toJson))).IsIntegral :=
    Json.membersIntegral_iff.2 (List.forall_mem_map.2 fun entry hentry =>
      h entry.2 (List.mem_map_of_mem hentry))
  have hsets : (p.sourceSetsJson?.getD .null).IsIntegral := by
    unfold sourceSetsJson?
    cases p.sourceSets with
    | none => trivial
    | some sets => exact Json.isIntegral_map_iff.2 fun s _ => s.isIntegral_toJson
  rw [toJson_eq]
  refine Json.membersIntegral_iff.2 ?_
  simp only [List.forall_mem_cons, List.forall_mem_append, Json.forall_mem_optionalMember]
  simp [htasks, hsets, FacetFailures.isIntegral_toJson]

/-- A project nests four levels deeper than the properties of its tasks. -/
theorem depth_toJson_le_iff {p : Project} {n : Nat} :
    p.toJson.depth ≤ n + 4 ↔
      ∀ t ∈ p.taskList, ∀ value ∈ t.properties.map (·.2), value.toJson.depth ≤ n := by
  have htasks : (Json.object (p.tasks.entries.map fun (name, task) => (name, task.toJson))).depth ≤
      n + 3 ↔ ∀ t ∈ p.taskList, ∀ value ∈ t.properties.map (·.2), value.toJson.depth ≤ n := by
    rw [Json.depth_object_le_iff, taskList, List.forall_mem_map, List.forall_mem_map]
    exact forall₂_congr fun entry _ => Task.depth_toJson_le_iff
  have hsets : (p.sourceSetsJson?.getD .null).depth ≤ n + 3 := by
    unfold sourceSetsJson?
    cases p.sourceSets with
    | none => exact Nat.zero_le _
    | some sets => exact Json.depth_map_le_iff.2 fun s _ => s.depth_toJson_le
  rw [toJson_eq, Json.depth_object_le_iff]
  simp only [List.forall_mem_cons, List.forall_mem_append, Json.forall_mem_optionalMember]
  simp [htasks, hsets, FacetFailures.depth_toJson_le]

end Project

/-! ## Builds -/

namespace Build

/-- The tasks of the projects of a build. -/
def tasks (b : Build) : List Task := b.projects.flatMap Project.taskList

/-- The build with its projects as they are read. -/
def reread (b : Build) : Build := { b with projects := b.projects.map Project.reread }

/-- A build is what it is read as exactly if each of its projects is. -/
theorem reread_eq_self_iff {b : Build} : b.reread = b ↔ ∀ p ∈ b.projects, p.reread = p := by
  rw [← map_eq_self_iff]
  exact ⟨fun h => congrArg projects h, fun h => by rw [reread, h]⟩

/-- The JSON form of the failures of a build, if there are any. -/
def failuresJson? (b : Build) : Option Json :=
  if b.failures.isEmpty then none else some (Json.strings b.failures)

/-- The members of a build, in the order of its fields. -/
theorem toJson_eq (b : Build) :
    b.toJson = .object
      (("name", .string b.name) ::
        (Json.optionalMember "rootDir" (b.rootDir.map fun dir => .string dir.text) ++
          (Json.optionalMember "languageLevel" (b.languageLevel.map fun level => .string level) ++
            ("projects", .array (b.projects.map Project.toJson)) ::
              ("includedBuilds", Json.strings b.includedBuilds) ::
                (Json.optionalMember "failures" b.failuresJson? ++ [])))) := by
  unfold toJson failuresJson?
  simp

/-- The failures of a build are written if there are any, and none is what is read otherwise. -/
theorem written_failures (b : Build) (room : Nat) :
    Fields.Written room
      (.cons (.defaulted "failures" [] (Decoder.list Decoder.string room)) .nil)
      (Json.optionalMember "failures" b.failuresJson? ++ []) (b.failures, ()) := by
  unfold failuresJson?
  cases hfailures : b.failures with
  | nil => exact .absent rfl .nil
  | cons failure rest =>
    have hread := Decoder.reads_texts (failure :: rest) room
    exact .member hread .nil

/-- A build is read with the properties of its tasks as what their JSON forms stand for. -/
theorem reads_toJson (b : Build) : decoder.Reads b.toJson b.reread := by
  have hprojects : ∀ p ∈ b.projects, Project.decoder.Reads p.toJson p.reread := fun p _ =>
    p.reads_toJson
  rw [toJson_eq]
  exact Decoder.reads_record
    (fun room =>
      .member (Decoder.reads_string b.name room) <|
      .optional (Json.rel_map_string Decoder.reads_path b.rootDir) <|
      .optional (Json.rel_map_string Decoder.reads_string b.languageLevel) <|
      .member (Decoder.reads_list_map hprojects room) <|
      .member (Decoder.reads_texts b.includedBuilds room) <|
      b.written_failures room)
    rfl fun _ =>
      (by decide : ["name", "rootDir", "languageLevel", "projects", "includedBuilds",
        "failures"].Nodup)

/-- A build holds no double if its tasks hold none. -/
theorem isIntegral_toJson {b : Build} (h : ∀ t ∈ b.tasks, t.toJson.IsIntegral) :
    b.toJson.IsIntegral := by
  have hprojects : ∀ p ∈ b.projects, p.toJson.IsIntegral := fun p hp =>
    Project.isIntegral_toJson fun t ht => h t (List.mem_flatMap.2 ⟨p, hp, ht⟩)
  have hfailures : ∀ v ∈ b.failuresJson?, v.IsIntegral := by
    unfold failuresJson?
    split
    · simp
    · simp
  rw [toJson_eq]
  refine Json.membersIntegral_iff.2 ?_
  simp only [List.forall_mem_cons, List.forall_mem_append, Json.forall_mem_optionalMember]
  simpa [Json.isIntegral_map_iff] using ⟨hprojects, hfailures⟩

/-- A build nests six levels deeper than the properties of its tasks. -/
theorem depth_toJson_le_iff {b : Build} {n : Nat} :
    b.toJson.depth ≤ n + 6 ↔
      ∀ t ∈ b.tasks, ∀ value ∈ t.properties.map (·.2), value.toJson.depth ≤ n := by
  have hprojects : (Json.array (b.projects.map Project.toJson)).depth ≤ n + 5 ↔
      ∀ t ∈ b.tasks, ∀ value ∈ t.properties.map (·.2), value.toJson.depth ≤ n := by
    rw [Json.depth_map_le_iff, tasks, List.forall_mem_flatMap]
    exact forall₂_congr fun p _ => Project.depth_toJson_le_iff
  have hfailures : ∀ v ∈ b.failuresJson?, v.depth ≤ n + 5 := by
    unfold failuresJson?
    split
    · simp
    · simp [Json.depth_strings_le]
  rw [toJson_eq, Json.depth_object_le_iff]
  simp only [List.forall_mem_cons, List.forall_mem_append, Json.forall_mem_optionalMember,
    hprojects]
  simpa [Json.depth_strings_le] using fun _ => hfailures

end Build

end Dump

/-! ## Dumps -/

namespace Dump

/-- The tasks of the builds of a dump. -/
def tasks (d : Dump) : List Task := d.builds.flatMap Build.tasks

/-- The dump with the properties of its tasks as what their JSON forms stand for. -/
def reread (d : Dump) : Dump := { d with builds := d.builds.map Build.reread }

/-- A dump is what it is read as exactly if each property of its tasks is. -/
theorem reread_eq_self_iff {d : Dump} :
    d.reread = d ↔ ∀ t ∈ d.tasks, ∀ value ∈ t.properties.map (·.2), value.reread = value := by
  have hbuilds : d.reread = d ↔ ∀ b ∈ d.builds, b.reread = b := by
    rw [← map_eq_self_iff]
    exact ⟨fun h => congrArg builds h, fun h => by rw [reread, h]⟩
  simp only [hbuilds, Build.reread_eq_self_iff, Project.reread_eq_self_iff,
    Task.reread_eq_self_iff, tasks, Build.tasks, List.forall_mem_flatMap]

/-- The members of a dump, in the order of its fields. -/
theorem toJson_eq (d : Dump) :
    d.toJson = .object
      (("gradleVersion", .string d.gradleVersion) ::
        (Json.optionalMember "rootBuild" (d.rootBuild.map fun name => .string name) ++
          [("builds", .array (d.builds.map Build.toJson)),
           ("editableBuilds", Json.strings d.editableBuilds)])) := by
  simp [toJson]

/-- **A dump is read with the properties of its tasks as what their JSON forms stand for, and as it
was written otherwise.** -/
theorem reads_toJson (d : Dump) : decoder.Reads d.toJson d.reread := by
  have hbuilds : ∀ b ∈ d.builds, Build.decoder.Reads b.toJson b.reread := fun b _ =>
    b.reads_toJson
  rw [toJson_eq]
  exact Decoder.reads_record
    (fun room =>
      .member (Decoder.reads_string d.gradleVersion room) <|
      .optional (Json.rel_map_string Decoder.reads_string d.rootBuild) <|
      .member (Decoder.reads_list_map hbuilds room) <|
      .member (Decoder.reads_texts d.editableBuilds room) .nil)
    rfl fun _ => (by decide : ["gradleVersion", "rootBuild", "builds", "editableBuilds"].Nodup)

/-- A dump holds no double if its tasks hold none. -/
theorem isIntegral_toJson {d : Dump} (h : ∀ t ∈ d.tasks, t.toJson.IsIntegral) :
    d.toJson.IsIntegral := by
  have hbuilds : ∀ b ∈ d.builds, b.toJson.IsIntegral := fun b hb =>
    Build.isIntegral_toJson fun t ht => h t (List.mem_flatMap.2 ⟨b, hb, ht⟩)
  rw [toJson_eq]
  refine Json.membersIntegral_iff.2 ?_
  simp only [List.forall_mem_cons, List.forall_mem_append, Json.forall_mem_optionalMember]
  simpa [Json.isIntegral_map_iff] using hbuilds

/-- **A dump nests eight levels deeper than the properties of its tasks.** -/
theorem depth_toJson_le_iff {d : Dump} {n : Nat} :
    d.toJson.depth ≤ n + 8 ↔
      ∀ t ∈ d.tasks, ∀ value ∈ t.properties.map (·.2), value.toJson.depth ≤ n := by
  have hbuilds : (Json.array (d.builds.map Build.toJson)).depth ≤ n + 7 ↔
      ∀ t ∈ d.tasks, ∀ value ∈ t.properties.map (·.2), value.toJson.depth ≤ n := by
    rw [Json.depth_map_le_iff, tasks, List.forall_mem_flatMap]
    exact forall₂_congr fun b _ => Build.depth_toJson_le_iff
  rw [toJson_eq, Json.depth_object_le_iff]
  simp only [List.forall_mem_cons, List.forall_mem_append, Json.forall_mem_optionalMember, hbuilds]
  simp [Json.depth_strings_le]

end Dump

end CompositeBuild
