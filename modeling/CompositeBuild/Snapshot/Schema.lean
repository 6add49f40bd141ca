/-
# The schema of snapshots

A description of the JSON form of a snapshot for other programs.
-/
import CompositeBuild.Json.Schema
import CompositeBuild.Snapshot

namespace CompositeBuild.Snapshot

open Json (FieldSchema RecordSchema Shape)

/-! ## Fields -/

/-- A list of strings that is empty by default. -/
def listField (name : String) (description : Option String) : FieldSchema :=
  ⟨name, .defaulted (.array []), .list false .text, description⟩

/-- A set of strings that is empty by default. -/
def setField (name : String) (description : Option String) : FieldSchema :=
  ⟨name, .defaulted (.array []), .list true .text, description⟩

/-! ## Records -/

/-- The schema of a container. -/
def containerSchema : RecordSchema where
  name := "ElementNode"
  description := "A named container link in a module's upward chain."
  fields :=
    [⟨"name", .required, .text, none⟩,
     ⟨"parent", .optional, .optionalRecord "ElementNode", none⟩]

/-- The schema of a module. -/
def moduleSchema : RecordSchema where
  name := "ModuleModel"
  description := "A unit of compilation owned by exactly one project."
  fields :=
    [⟨"name", .required, .text, none⟩,
     ⟨"projectName", .required, .text, none⟩,
     ⟨"parent", .optional, .optionalRecord "ElementNode", none⟩,
     ⟨"path", .defaulted (.string ""), .text,
      some "Host handle of the module (a Gradle project path such as `:modules:lib`)."⟩,
     ⟨"build", .defaulted (.string ""), .text,
      some "Name of the build this module was fetched from."⟩,
     ⟨"moduleDir", .optional, .optionalText, none⟩]

/-- The schema of a project. -/
def projectSchema : RecordSchema where
  name := "ProjectModel"
  description :=
    "A top-level buildable unit: one project graph of the root build or of an\nincluded build."
  fields :=
    [⟨"name", .required, .text, none⟩,
     ⟨"build", .defaulted (.string ""), .text, none⟩,
     ⟨"projectDir", .optional, .optionalText, none⟩,
     ⟨"languageLevel", .optional, .optionalText, none⟩,
     ⟨"modules", .defaulted (.array []), .list false (.record "ModuleModel"), none⟩]

/-- The schema of a source set. -/
def sourceSetSchema : RecordSchema where
  name := "SourceSet"
  description :=
    "A named grouping of source/resource roots plus its dependency and output\n" ++
      "file sets, scoped to one module.\n\n" ++
      "Ordering is by name first; names are unique within a module."
  fields :=
    [⟨"name", .required, .text, none⟩,
     setField "sources" none,
     setField "resources" none,
     setField "excludes" (some "Union of source-level and resource-level exclusion globs."),
     setField "compileClasspath" none,
     setField "runtimeClasspath" none,
     setField "artifacts" (some "Packaged archives unioned with raw compiled-output files."),
     ⟨"hasUnresolvedDependencies", .defaulted (.bool false), .bool,
      some "Set when either dependency set failed to resolve and was replaced by\nan empty set."⟩]

/-- The schema of toolchain settings. -/
def toolchainSchema : RecordSchema where
  name := "ToolchainSettings"
  description :=
    "Compiler-target and compiler-argument/plugin configuration of a module's\nlanguage toolchain."
  fields :=
    [⟨"jvmTarget", .optional, .optionalText,
      some "Normalized target version, e.g. `17` for a `JVM_17` setting."⟩,
     listField "compilerArgs" none,
     listField "pluginClasspath" (some "Compiler-plugin artifacts only, in classpath order."),
     listField "pluginOptions" none]

/-- The schema of a snapshot, without those of its parts. -/
def ownSchema : RecordSchema where
  name := "WorkspaceSnapshot"
  description := "Immutable result of one aggregation run."
  fields :=
    [⟨"projects", .required, .list false (.record "ProjectModel"), none⟩,
     ⟨"toolchains", .required, .map (.record "ToolchainSettings"), none⟩,
     ⟨"sourceSets", .required, .map (.list true (.record "SourceSet")), none⟩]

/-- The schema of a snapshot. -/
def schema : Json :=
  ownSchema.document
    [containerSchema, moduleSchema, projectSchema, sourceSetSchema, toolchainSchema]

end CompositeBuild.Snapshot
