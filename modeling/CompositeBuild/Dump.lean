/-
# Tooling dumps

A tooling dump holds what a plugin on the host side has captured of a composite Gradle build: its
builds with their projects, tasks, properties and source sets, and the failures that were met on the
way.
-/
import CompositeBuild.Property.Basic

namespace CompositeBuild

namespace Dump

/-! ## File collections -/

/-- A file collection, or the reason why it could not be resolved. -/
inductive FileCollection where
  | unresolved (reason : String)
  | files (paths : List Path)
deriving DecidableEq, Repr

namespace FileCollection

/-- The JSON form of a file collection. -/
def toJson : FileCollection → Json
  | unresolved reason => .object [("unresolved", .string reason)]
  | files paths => Json.strings (paths.map Path.text)

/-- The file collection that a JSON value stands for. -/
def ofJson? : Json → Option FileCollection
  | .object members =>
    ((Property.onlyMember? "unresolved" members).bind Property.textOf?).map unresolved
  | value => (Property.pathsOf? value).map files

/-- Decodes a file collection. -/
def decoder : Json.Decoder FileCollection := fun room node => do
  match ofJson? (← node.value room) with
  | some collection => return collection
  | none => .error (.data (.noVariant "FileCollectionDump"))

end FileCollection

/-! ## Source sets -/

/-- The definition of a source set. -/
structure SourceSetDefinition where
  name : String
  sourceDirs : List Path
  resourceDirs : List Path
  sourceExcludes : List String
  resourceExcludes : List String
  compileClasspath : FileCollection
  runtimeClasspath : FileCollection
  /-- The compiled output: class directories and processed resources. -/
  outputFiles : List Path
deriving DecidableEq, Repr

namespace SourceSetDefinition

/-- The JSON form of a definition. -/
def toJson (d : SourceSetDefinition) : Json :=
  .object
    [("name", .string d.name),
     ("sourceDirs", Json.strings (d.sourceDirs.map Path.text)),
     ("resourceDirs", Json.strings (d.resourceDirs.map Path.text)),
     ("sourceExcludes", Json.strings d.sourceExcludes),
     ("resourceExcludes", Json.strings d.resourceExcludes),
     ("compileClasspath", d.compileClasspath.toJson),
     ("runtimeClasspath", d.runtimeClasspath.toJson),
     ("outputFiles", Json.strings (d.outputFiles.map Path.text))]

/-- Decodes a definition. -/
def decoder : Json.Decoder SourceSetDefinition :=
  .record "SourceSetDump"
    (fun room =>
      .cons (.required "name" (Json.Decoder.string room)) <|
      .cons (.defaulted "sourceDirs" [] (Json.Decoder.list Json.Decoder.path room)) <|
      .cons (.defaulted "resourceDirs" [] (Json.Decoder.list Json.Decoder.path room)) <|
      .cons (.defaulted "sourceExcludes" [] (Json.Decoder.list Json.Decoder.string room)) <|
      .cons (.defaulted "resourceExcludes" [] (Json.Decoder.list Json.Decoder.string room)) <|
      .cons (.defaulted "compileClasspath" (.files []) (FileCollection.decoder room)) <|
      .cons (.defaulted "runtimeClasspath" (.files []) (FileCollection.decoder room)) <|
      .cons (.defaulted "outputFiles" [] (Json.Decoder.list Json.Decoder.path room)) .nil)
    fun (name, sourceDirs, resourceDirs, sourceExcludes, resourceExcludes, compileClasspath,
        runtimeClasspath, outputFiles, _) =>
      ⟨name, sourceDirs, resourceDirs, sourceExcludes, resourceExcludes, compileClasspath,
        runtimeClasspath, outputFiles⟩

end SourceSetDefinition

/-! ## Tasks -/

/-- A task of a project. -/
structure Task where
  /-- The task packages its inputs into an archive. -/
  archive : Bool
  properties : PropertyMap
  distinct : (Property.object properties).NamesDistinct
  outputs : List Path

namespace Task

/-- The JSON form of a task. -/
def toJson (t : Task) : Json :=
  .object
    [("archive", .bool t.archive),
     ("properties", t.properties.toJson),
     ("outputs", Json.strings (t.outputs.map Path.text))]

/-- Decodes a task. -/
def decoder : Json.Decoder Task :=
  .record "TaskDump"
    (fun room =>
      .cons (.defaulted "archive" false (Json.Decoder.bool room)) <|
      .cons (.defaulted "properties" ⟨[], Property.namesDistinct_empty⟩
        (PropertyMap.decoder room)) <|
      .cons (.defaulted "outputs" [] (Json.Decoder.list Json.Decoder.path room)) .nil)
    fun (archive, properties, outputs, _) => ⟨archive, properties.1, properties.2, outputs⟩

end Task

/-! ## Projects -/

/-- The failures of the builders of the facets of a project. -/
structure FacetFailures where
  toolchain : List String
  sourceSets : List String
deriving DecidableEq, Repr

namespace FacetFailures

/-- No failures. -/
def none : FacetFailures := ⟨[], []⟩

/-- The JSON form of facet failures. -/
def toJson (f : FacetFailures) : Json :=
  .object [("toolchain", Json.strings f.toolchain), ("sourceSets", Json.strings f.sourceSets)]

/-- Decodes facet failures. -/
def decoder : Json.Decoder FacetFailures :=
  .record "FacetFailures"
    (fun room =>
      .cons (.defaulted "toolchain" [] (Json.Decoder.list Json.Decoder.string room)) <|
      .cons (.defaulted "sourceSets" [] (Json.Decoder.list Json.Decoder.string room)) .nil)
    fun (toolchain, sourceSets, _) => ⟨toolchain, sourceSets⟩

end FacetFailures

/-- A project of a build. -/
structure Project where
  name : String
  /-- The Gradle path of the project, which is `:` for the root project. -/
  path : String
  projectDir : Option Path
  tasks : InsertionMap Task
  /-- The definitions of its source sets, if it has a container for them. -/
  sourceSets : Option (List SourceSetDefinition)
  failures : FacetFailures

namespace Project

/-- The JSON form of a project. -/
def toJson (p : Project) : Json :=
  .object <|
    [("name", .string p.name), ("path", .string p.path)] ++
    Json.optionalMember "projectDir" (p.projectDir.map fun dir => .string dir.text) ++
    [("tasks", .object (p.tasks.entries.map fun (name, task) => (name, task.toJson))),
     ("sourceSets",
        match p.sourceSets with
        | some sets => .array (sets.map SourceSetDefinition.toJson)
        | none => .null),
     ("failures", p.failures.toJson)]

/-- Decodes the tasks of a project: a repeated name keeps its first place and its last task. -/
def tasksDecoder : Json.Decoder (InsertionMap Task) := fun room node => do
  return .ofList (← Json.Decoder.entries Task.decoder room node)

/-- Decodes a project. -/
def decoder : Json.Decoder Project :=
  .record "ProjectDump"
    (fun room =>
      .cons (.required "name" (Json.Decoder.string room)) <|
      .cons (.required "path" (Json.Decoder.string room)) <|
      .cons (.optional "projectDir" (Json.Decoder.path room)) <|
      .cons (.defaulted "tasks" .empty (tasksDecoder room)) <|
      .cons (.optional "sourceSets" (Json.Decoder.list SourceSetDefinition.decoder room)) <|
      .cons (.defaulted "failures" .none (FacetFailures.decoder room)) .nil)
    fun (name, path, projectDir, tasks, sourceSets, failures, _) =>
      ⟨name, path, projectDir, tasks, sourceSets, failures⟩

end Project

/-! ## Builds -/

/-- A build of a composite. -/
structure Build where
  name : String
  rootDir : Option Path
  languageLevel : Option String
  projects : List Project
  /-- The names of the builds that this build includes. -/
  includedBuilds : List String
  /-- The failures that were met while the projects of the build were captured. -/
  failures : List String

namespace Build

/-- The JSON form of a build. -/
def toJson (b : Build) : Json :=
  .object <|
    [("name", .string b.name)] ++
    Json.optionalMember "rootDir" (b.rootDir.map fun dir => .string dir.text) ++
    Json.optionalMember "languageLevel" (b.languageLevel.map .string) ++
    [("projects", .array (b.projects.map Project.toJson)),
     ("includedBuilds", Json.strings b.includedBuilds)] ++
    Json.optionalMember "failures"
      (if b.failures.isEmpty then none else some (Json.strings b.failures))

/-- Decodes a build. -/
def decoder : Json.Decoder Build :=
  .record "BuildDump"
    (fun room =>
      .cons (.required "name" (Json.Decoder.string room)) <|
      .cons (.optional "rootDir" (Json.Decoder.path room)) <|
      .cons (.optional "languageLevel" (Json.Decoder.string room)) <|
      .cons (.defaulted "projects" [] (Json.Decoder.list Project.decoder room)) <|
      .cons (.defaulted "includedBuilds" [] (Json.Decoder.list Json.Decoder.string room)) <|
      .cons (.defaulted "failures" [] (Json.Decoder.list Json.Decoder.string room)) .nil)
    fun (name, rootDir, languageLevel, projects, includedBuilds, failures, _) =>
      ⟨name, rootDir, languageLevel, projects, includedBuilds, failures⟩

end Build

end Dump

/-! ## Dumps -/

/-- A tooling dump. -/
structure Dump where
  gradleVersion : String
  /-- The name of the root build; the first build is the root if there is none. -/
  rootBuild : Option String
  builds : List Dump.Build
  /-- The names of every build of the composite but the root. -/
  editableBuilds : List String

namespace Dump

/-- The name of the root build. -/
def rootBuildName? (d : Dump) : Option String :=
  d.rootBuild.or (d.builds.head?.map Build.name)

/-- The build of a name, the first if there are several. -/
def build? (d : Dump) (name : String) : Option Build := d.builds.find? (·.name = name)

/-- The JSON form of a dump. -/
def toJson (d : Dump) : Json :=
  .object <|
    [("gradleVersion", .string d.gradleVersion)] ++
    Json.optionalMember "rootBuild" (d.rootBuild.map .string) ++
    [("builds", .array (d.builds.map Build.toJson)),
     ("editableBuilds", Json.strings d.editableBuilds)]

/-- Decodes a dump. -/
def decoder : Json.Decoder Dump :=
  .record "GradleDump"
    (fun room =>
      .cons (.required "gradleVersion" (Json.Decoder.string room)) <|
      .cons (.optional "rootBuild" (Json.Decoder.string room)) <|
      .cons (.required "builds" (Json.Decoder.list Build.decoder room)) <|
      .cons (.defaulted "editableBuilds" [] (Json.Decoder.list Json.Decoder.string room)) .nil)
    fun (gradleVersion, rootBuild, builds, editableBuilds, _) =>
      ⟨gradleVersion, rootBuild, builds, editableBuilds⟩

end Dump

end CompositeBuild
