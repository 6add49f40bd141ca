/-
# Workspace snapshots

The result of one aggregation: the projects, and for every module by its id its toolchain settings,
if it has any, and its source sets.
-/
import CompositeBuild.Collection.SortedMap
import CompositeBuild.Json.Writer
import CompositeBuild.Project
import CompositeBuild.SourceSet
import CompositeBuild.Toolchain

namespace CompositeBuild

/-- A snapshot of a workspace. -/
structure Snapshot where
  /-- The root project first, then the projects of the other builds in the order of discovery. -/
  projects : List Project
  toolchains : SortedMap ModuleId ToolchainSettings
  sourceSets : SortedMap ModuleId (SortedSet SourceSet)
deriving DecidableEq

namespace Snapshot

/-! ## Module ids -/

/-- Every module id of the snapshot. -/
def moduleIds (s : Snapshot) : SortedSet ModuleId :=
  .ofListFirst (s.sourceSets.keys ++ s.toolchains.keys)

/-- The toolchain settings of a module. -/
def toolchain? (s : Snapshot) (id : ModuleId) : Option ToolchainSettings := s.toolchains.get? id

/-- The source sets of a module. -/
def moduleSourceSets? (s : Snapshot) (id : ModuleId) : Option (SortedSet SourceSet) :=
  s.sourceSets.get? id

/-! ## JSON -/

/-- The JSON form of a map by module ids. -/
def mapToJson {α : Type} (toJson : α → Json) (m : SortedMap ModuleId α) : Json :=
  .object (m.entries.map fun (id, value) => (id.text, toJson value))

/-- Decodes a map by module ids; of repeated ids the last counts. -/
def mapDecoder {α : Type} (decode : Json.Decoder α) : Json.Decoder (SortedMap ModuleId α) :=
  fun room node => do
    let entries ← Json.Decoder.entries decode room node
    return .ofList (entries.map fun (key, value) => (⟨key⟩, value))

/-- The JSON form of a snapshot. -/
def toJson (s : Snapshot) : Json :=
  .object
    [("projects", .array (s.projects.map Project.toJson)),
     ("toolchains", mapToJson ToolchainSettings.toJson s.toolchains),
     ("sourceSets", mapToJson SourceSet.setToJson s.sourceSets)]

/-- Decodes a snapshot. -/
def decoder : Json.Decoder Snapshot :=
  .record "WorkspaceSnapshot"
    (fun room =>
      .cons (.required "projects" (Json.Decoder.list Project.decoder room)) <|
      .cons (.required "toolchains" (mapDecoder ToolchainSettings.decoder room)) <|
      .cons (.required "sourceSets" (mapDecoder SourceSet.setDecoder room)) .nil)
    fun (projects, toolchains, sourceSets, _) => ⟨projects, toolchains, sourceSets⟩

/-- The text of a snapshot file: its JSON form and a line end. -/
def write (layout : Json.Layout) (s : Snapshot) : String := s.toJson.toText layout ++ "\n"

/-- Reads the text of a snapshot file. -/
def read (text : String) : Except Json.DecodeError Snapshot := decoder.fromText text

end Snapshot

end CompositeBuild
