/-
# The records of a snapshot in JSON

Each record of a snapshot is read as it was written: containers, modules, projects, toolchain
settings and source sets, and the snapshot itself (`Snapshot.reads_toJson`).  None of them holds a
double.
-/
import CompositeBuild.Proofs.Collection.SortedMap
import CompositeBuild.Proofs.Json.Members
import CompositeBuild.Snapshot

namespace CompositeBuild

open Json (Decoder Fields)

/-! ## Containers -/

namespace Containers

/-- The members of a container: its name and the container around it. -/
theorem toJson_eq (name : String) (outer : List String) :
    toJson name outer =
      .object (("name", .string name) :: (Json.optionalMember "parent" (toJson? outer) ++ [])) := by
  cases outer <;> rfl

/-- The decoder of containers decodes a record with an optional record of the same kind. -/
theorem decoder_eq :
    decoder = Decoder.record "ElementNode"
      (fun room =>
        .cons (.required "name" (Decoder.string room)) <|
        .cons (.optional "parent" (decoder room)) .nil)
      fun (name, outer, _) => name :: outer.getD [] := by
  funext room
  cases room <;> rfl

/-- Containers are read as they were written. -/
theorem exists_rel_toJson? (containers : List String) :
    ∃ read?,
      Option.Rel (fun v read => v ≠ .null ∧ decoder.Reads v read) (toJson? containers) read? ∧
      read?.getD [] = containers := by
  induction containers with
  | nil => exact ⟨none, .none, rfl⟩
  | cons name outer ih =>
    -- The container around this one is an optional field of it, and `ih` gives the value of that
    -- field.
    obtain ⟨read?, hrel, hread⟩ := ih
    refine ⟨some (name :: outer), .some ⟨?_, ?_⟩, rfl⟩
    · rw [toJson_eq]
      nofun
    · rw [toJson_eq, decoder_eq]
      exact Decoder.reads_record
        (fun room => .member (Decoder.reads_string name room) <| .optional hrel .nil)
        (congrArg (name :: ·) hread) fun _ => (by decide : ["name", "parent"].Nodup)

theorem isIntegral_toJson (name : String) (outer : List String) :
    (toJson name outer).IsIntegral := by
  induction outer generalizing name with
  | nil => exact ⟨trivial, trivial⟩
  | cons name' outer ih => exact ⟨trivial, ih name', trivial⟩

theorem depth_toJson (name : String) (outer : List String) :
    (toJson name outer).depth = outer.length + 1 := by
  induction outer generalizing name with
  | nil => rfl
  | cons name' outer ih => simp [toJson, Json.depth, Json.depthOfMembers, ih]

theorem isIntegral_of_mem_toJson? {containers : List String} :
    ∀ v ∈ toJson? containers, v.IsIntegral := by
  cases containers with
  | nil => exact nofun
  | cons name outer => exact fun v hv => Option.mem_some.1 hv ▸ isIntegral_toJson name outer

theorem depth_toJson?_le_iff {containers : List String} {n : Nat} :
    (∀ v ∈ toJson? containers, v.depth ≤ n) ↔ containers.length ≤ n := by
  cases containers with
  | nil => simp [toJson?]
  | cons name outer => simp [toJson?, depth_toJson]

end Containers

/-! ## Modules -/

namespace Module

/-- The members of a module, in the order of its fields. -/
theorem toJson_eq (m : Module) :
    m.toJson = .object
      (("name", .string m.name) :: ("projectName", .string m.projectName) ::
        (Json.optionalMember "parent" (Containers.toJson? m.containers) ++
          ("path", .string m.path) :: ("build", .string m.build) ::
            (Json.optionalMember "moduleDir" (m.moduleDir.map fun dir => .string dir.text) ++
              []))) := by
  simp [toJson]

/-- A module is read as it was written. -/
theorem reads_toJson (m : Module) : decoder.Reads m.toJson m := by
  obtain ⟨parent?, hparent, hcontainers⟩ := Containers.exists_rel_toJson? m.containers
  rw [toJson_eq]
  refine Decoder.reads_record
    (fun room =>
      .member (Decoder.reads_string m.name room) <|
      .member (Decoder.reads_string m.projectName room) <|
      .optional hparent <|
      .member (Decoder.reads_string m.path room) <|
      .member (Decoder.reads_string m.build room) <|
      .optional (Json.rel_map_string Decoder.reads_path m.moduleDir) .nil)
    ?_ fun _ =>
      (by decide : ["name", "projectName", "parent", "path", "build", "moduleDir"].Nodup)
  show (⟨m.name, m.projectName, parent?.getD [], m.path, m.build, m.moduleDir⟩ : Module) = m
  rw [hcontainers]

theorem isIntegral_toJson (m : Module) : m.toJson.IsIntegral := by
  rw [toJson_eq]
  refine Json.membersIntegral_iff.2 ?_
  simp only [List.forall_mem_cons, List.forall_mem_append, Json.forall_mem_optionalMember]
  simpa using Containers.isIntegral_of_mem_toJson?

theorem depth_toJson_le_iff {m : Module} {n : Nat} :
    m.toJson.depth ≤ n + 1 ↔ m.containers.length ≤ n := by
  rw [toJson_eq, Json.depth_object_le_iff]
  simp only [List.forall_mem_cons, List.forall_mem_append, Json.forall_mem_optionalMember,
    Containers.depth_toJson?_le_iff]
  simp

end Module

/-! ## Projects -/

namespace Project

/-- The members of a project, in the order of its fields. -/
theorem toJson_eq (p : Project) :
    p.toJson = .object
      (("name", .string p.name) :: ("build", .string p.build) ::
        (Json.optionalMember "projectDir" (p.projectDir.map fun dir => .string dir.text) ++
          (Json.optionalMember "languageLevel" (p.languageLevel.map fun level => .string level) ++
            [("modules", .array (p.modules.map Module.toJson))]))) := by
  simp [toJson]

/-- A project is read as it was written. -/
theorem reads_toJson (p : Project) : decoder.Reads p.toJson p := by
  rw [toJson_eq]
  exact Decoder.reads_record
    (fun room =>
      .member (Decoder.reads_string p.name room) <|
      .member (Decoder.reads_string p.build room) <|
      .optional (Json.rel_map_string Decoder.reads_path p.projectDir) <|
      .optional (Json.rel_map_string Decoder.reads_string p.languageLevel) <|
      .member (Decoder.reads_list (fun m _ => m.reads_toJson) room) .nil)
    rfl fun _ =>
      (by decide : ["name", "build", "projectDir", "languageLevel", "modules"].Nodup)

theorem isIntegral_toJson (p : Project) : p.toJson.IsIntegral := by
  rw [toJson_eq]
  refine Json.membersIntegral_iff.2 ?_
  simp only [List.forall_mem_cons, List.forall_mem_append, Json.forall_mem_optionalMember]
  simp [Json.isIntegral_map_iff, Module.isIntegral_toJson]

theorem depth_toJson_le_iff {p : Project} {n : Nat} :
    p.toJson.depth ≤ n + 3 ↔ ∀ m ∈ p.modules, m.containers.length ≤ n := by
  rw [toJson_eq, Json.depth_object_le_iff]
  simp only [List.forall_mem_cons, List.forall_mem_append, Json.forall_mem_optionalMember,
    Json.depth_map_le_iff, Module.depth_toJson_le_iff]
  simp

end Project

/-! ## Toolchain settings -/

namespace ToolchainSettings

/-- The target is read as it was written, as null if there is none. -/
theorem orNull_ofText? (text? : Option String) (room : Nat) :
    Json.Field.orNull (Decoder.string room) (Json.ofText? text?).toNode =
      Json.within (Json.ofText? text?).depth room text? := by
  have hform : Json.ofText? text? = (text?.map .string).getD .null := by
    cases text? <;> rfl
  rw [hform]
  exact Json.orNull_getD_null (Json.rel_map_string Decoder.reads_string text?) room

/-- Toolchain settings are read as they were written. -/
theorem reads_toJson (s : ToolchainSettings) : decoder.Reads s.toJson s :=
  Decoder.reads_record
    (fun room =>
      .member (orNull_ofText? s.jvmTarget room) <|
      .member (Decoder.reads_texts s.compilerArgs room) <|
      .member (Decoder.reads_texts s.pluginClasspath room) <|
      .member (Decoder.reads_texts s.pluginOptions room) .nil)
    rfl fun _ =>
      (by decide : ["jvmTarget", "compilerArgs", "pluginClasspath", "pluginOptions"].Nodup)

theorem isIntegral_and_depth_ofText? (text? : Option String) :
    (Json.ofText? text?).IsIntegral ∧ (Json.ofText? text?).depth = 0 := by
  cases text? <;> exact ⟨trivial, rfl⟩

theorem isIntegral_toJson (s : ToolchainSettings) : s.toJson.IsIntegral := by
  refine Json.membersIntegral_iff.2 ?_
  simp [isIntegral_and_depth_ofText?]

theorem depth_toJson_le (s : ToolchainSettings) : s.toJson.depth ≤ 2 := by
  refine Json.depth_object_le_iff.2 ?_
  simp [isIntegral_and_depth_ofText?, Json.depth_strings_le]

end ToolchainSettings

/-! ## Source sets -/

namespace SourceSet

theorem reads_pathsToJson (paths : SortedSet Path) :
    pathsDecoder.Reads (pathsToJson paths) paths := by
  -- The paths are taken up in their order, so none of them is dropped for another spelling.
  have h := (Decoder.reads_strings Decoder.reads_path paths.toList).map SortedSet.ofListFirst
  rwa [SortedSet.ofListFirst_toList] at h

theorem reads_strings (texts : SortedSet String) :
    stringsDecoder.Reads (Json.strings texts.toList) texts := by
  have h := (Decoder.reads_texts texts.toList).map SortedSet.ofListFirst
  rwa [SortedSet.ofListFirst_toList] at h

/-- A source set is read as it was written. -/
theorem reads_toJson (s : SourceSet) : decoder.Reads s.toJson s :=
  Decoder.reads_record
    (fun room =>
      .member (Decoder.reads_string s.name room) <|
      .member (reads_pathsToJson s.sources room) <|
      .member (reads_pathsToJson s.resources room) <|
      .member (reads_strings s.excludes room) <|
      .member (reads_pathsToJson s.compileClasspath room) <|
      .member (reads_pathsToJson s.runtimeClasspath room) <|
      .member (reads_pathsToJson s.artifacts room) <|
      .member (Decoder.reads_bool s.hasUnresolvedDependencies room) .nil)
    rfl fun _ =>
      (by decide : ["name", "sources", "resources", "excludes", "compileClasspath",
        "runtimeClasspath", "artifacts", "hasUnresolvedDependencies"].Nodup)

theorem reads_setToJson (sets : SortedSet SourceSet) : setDecoder.Reads (setToJson sets) sets := by
  have h := (Decoder.reads_list fun s (_ : s ∈ sets.toList) => s.reads_toJson).map
    SortedSet.ofListFirst
  rwa [SortedSet.ofListFirst_toList] at h

theorem isIntegral_setToJson (sets : SortedSet SourceSet) : (setToJson sets).IsIntegral := by
  refine Json.isIntegral_map_iff.2 fun s _ => Json.membersIntegral_iff.2 ?_
  simp [pathsToJson, Json.IsIntegral]

theorem depth_setToJson_le (sets : SortedSet SourceSet) : (setToJson sets).depth ≤ 3 := by
  refine Json.depth_map_le_iff.2 fun s _ => Json.depth_object_le_iff.2 ?_
  simp [pathsToJson, Json.depth_strings_le, Json.depth]

end SourceSet

/-! ## Snapshots -/

namespace Snapshot

/-! ### Maps by module ids -/

section Maps

variable {α : Type} {toJson : α → Json}

theorem mapToJson_eq (m : SortedMap ModuleId α) :
    mapToJson toJson m =
      .object ((m.entries.map fun entry => (entry.1.text, entry.2)).map fun entry =>
        (entry.1, toJson entry.2)) := by
  rw [List.map_map]
  rfl

/-- A map is read as it was written, if its values are. -/
theorem reads_mapToJson {decode : Decoder α} (h : ∀ a, decode.Reads (toJson a) a)
    (m : SortedMap ModuleId α) : (mapDecoder decode).Reads (mapToJson toJson m) m := by
  have hentries : (Decoder.entries decode).Reads (mapToJson toJson m)
      (m.entries.map fun entry => (entry.1.text, entry.2)) := by
    rw [mapToJson_eq]
    exact Decoder.reads_entries fun entry _ => h entry.2
  have hids : (m.entries.map fun entry => (entry.1.text, entry.2)).map
      (fun entry : String × α => ((⟨entry.1⟩ : ModuleId), entry.2)) = m.entries := by
    rw [List.map_map]
    exact List.map_id _
  have hmap := hentries.map fun entries : List (String × α) =>
    SortedMap.ofList (entries.map fun entry => ((⟨entry.1⟩ : ModuleId), entry.2))
  rwa [hids, SortedMap.ofList_entries] at hmap

theorem isIntegral_mapToJson (h : ∀ a, (toJson a).IsIntegral) (m : SortedMap ModuleId α) :
    (mapToJson toJson m).IsIntegral :=
  Json.membersIntegral_iff.2 (List.forall_mem_map.2 fun entry _ => h entry.2)

theorem depth_mapToJson_le {n : Nat} (h : ∀ a, (toJson a).depth ≤ n) (m : SortedMap ModuleId α) :
    (mapToJson toJson m).depth ≤ n + 1 :=
  Json.depth_object_le_iff.2 (List.forall_mem_map.2 fun entry _ => h entry.2)

end Maps

/-- **A snapshot is read as it was written.** -/
theorem reads_toJson (s : Snapshot) : decoder.Reads s.toJson s :=
  Decoder.reads_record
    (fun room =>
      .member (Decoder.reads_list (fun p _ => p.reads_toJson) room) <|
      .member (reads_mapToJson ToolchainSettings.reads_toJson s.toolchains room) <|
      .member (reads_mapToJson SourceSet.reads_setToJson s.sourceSets room) .nil)
    rfl fun _ => (by decide : ["projects", "toolchains", "sourceSets"].Nodup)

theorem isIntegral_toJson (s : Snapshot) : s.toJson.IsIntegral :=
  ⟨Json.isIntegral_map_iff.2 fun p _ => p.isIntegral_toJson,
    isIntegral_mapToJson ToolchainSettings.isIntegral_toJson s.toolchains,
    isIntegral_mapToJson SourceSet.isIntegral_setToJson s.sourceSets, trivial⟩

/-- **A snapshot nests five levels deeper than the containers of its modules.** -/
theorem depth_toJson_le_iff {s : Snapshot} {n : Nat} :
    s.toJson.depth ≤ n + 5 ↔ ∀ p ∈ s.projects, ∀ m ∈ p.modules, m.containers.length ≤ n := by
  have htoolchains : (mapToJson ToolchainSettings.toJson s.toolchains).depth ≤ n + 4 :=
    Nat.le_trans (depth_mapToJson_le ToolchainSettings.depth_toJson_le _) (by omega)
  have hsourceSets : (mapToJson SourceSet.setToJson s.sourceSets).depth ≤ n + 4 :=
    Nat.le_trans (depth_mapToJson_le SourceSet.depth_setToJson_le _) (by omega)
  rw [toJson, Json.depth_object_le_iff]
  simp only [List.forall_mem_cons, Json.depth_map_le_iff, Project.depth_toJson_le_iff]
  simp [htoolchains, hsourceSets]

end Snapshot

end CompositeBuild
