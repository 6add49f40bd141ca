/-
# Build graphs

A host shows the builds that are composed into its root build in two views: the builds that the root
build includes, each with the builds that it includes in turn, and the flat list of editable builds.
-/
import CompositeBuild.Json.Record

namespace CompositeBuild

/-! ## Handles of projects -/

/-- The handle of a project of some build, by which its host finds it. -/
structure ProjectRef where
  build : String
  name : String
  path : String
  projectDir : Option Path
deriving DecidableEq, Repr

namespace ProjectRef

/-- The JSON form of a handle. -/
def toJson (r : ProjectRef) : Json :=
  .object <|
    [("build", .string r.build), ("name", .string r.name), ("path", .string r.path)] ++
    Json.optionalMember "projectDir" (r.projectDir.map fun dir => .string dir.text)

/-- Decodes a handle. -/
def decoder : Json.Decoder ProjectRef :=
  .record "ProjectRef"
    (fun room =>
      .cons (.required "build" (Json.Decoder.string room)) <|
      .cons (.required "name" (Json.Decoder.string room)) <|
      .cons (.required "path" (Json.Decoder.string room)) <|
      .cons (.optional "projectDir" (Json.Decoder.path room)) .nil)
    fun (build, name, path, projectDir, _) => ⟨build, name, path, projectDir⟩

end ProjectRef

/-! ## Builds -/

/-- A build that is composed into the root build, with the builds that it includes. -/
structure BuildRef where
  name : String
  rootDir : Option Path
  projects : List ProjectRef
  included : List BuildRef
deriving Repr

namespace BuildRef

instance : Inhabited BuildRef := ⟨⟨"", none, [], []⟩⟩

/-- The build of a name, without projects and included builds. -/
def ofName (name : String) : BuildRef := ⟨name, none, [], []⟩

/-- Adds the handle of a project of the build. -/
def withProject (b : BuildRef) (name path : String) : BuildRef :=
  { b with projects := b.projects ++ [⟨b.name, name, path, none⟩] }

/-- Adds an included build. -/
def withIncluded (b : BuildRef) (included : BuildRef) : BuildRef :=
  { b with included := b.included ++ [included] }

mutual

/-- The number of builds in the tree of a build. -/
def size : BuildRef → Nat
  | ⟨_, _, _, included⟩ => sizeOfAll included + 1

/-- The number of builds in the trees of some builds. -/
def sizeOfAll : List BuildRef → Nat
  | [] => 0
  | b :: rest => b.size + sizeOfAll rest

end

mutual

/-- The JSON form of a build. -/
def toJson : BuildRef → Json
  | ⟨name, rootDir, projects, included⟩ =>
    .object <|
      [("name", .string name)] ++
      Json.optionalMember "rootDir" (rootDir.map fun dir => .string dir.text) ++
      [("projects", .array (projects.map ProjectRef.toJson)),
       ("included", .array (allToJson included))]

/-- The JSON forms of some builds. -/
def allToJson : List BuildRef → List Json
  | [] => []
  | b :: rest => b.toJson :: allToJson rest

end

/-- The fields of a build, given how the builds that it includes are decoded. -/
def fields (included : Option (Json.Node → Except Json.DecodeError BuildRef)) (room : Nat) :
    Json.Fields [String, Option Path, List ProjectRef, List BuildRef] :=
  .cons (.required "name" (Json.Decoder.string room)) <|
  .cons (.optional "rootDir" (Json.Decoder.path room)) <|
  .cons (.defaulted "projects" [] (Json.Decoder.list ProjectRef.decoder room)) <|
  .cons (.defaulted "included" [] (Json.Decoder.listOf included)) .nil

/-- The build of the values of its fields. -/
def ofValues : Json.Values [String, Option Path, List ProjectRef, List BuildRef] → BuildRef
  | (name, rootDir, projects, included, _) => ⟨name, rootDir, projects, included⟩

/-- Decodes a build. -/
def decoder : Json.Decoder BuildRef
  | 0 => Json.noRoom "BuildRef"
  | 1 => Json.record "BuildRef" (fields none 0) ofValues
  | room + 2 => Json.record "BuildRef" (fields (some (decoder room)) (room + 1)) ofValues

end BuildRef

/-! ## Graphs -/

/-- The two views of a composite build. -/
structure BuildGraph where
  /-- The builds that the root build includes. -/
  includedBuilds : List BuildRef
  /-- Every build of the composite but the root. -/
  editableBuilds : List BuildRef
deriving Repr, Inhabited

namespace BuildGraph

/-- The graph of a build that is not composed of others. -/
def empty : BuildGraph := ⟨[], []⟩

/-- The JSON form of a graph. -/
def toJson (g : BuildGraph) : Json :=
  .object
    [("includedBuilds", .array (g.includedBuilds.map BuildRef.toJson)),
     ("editableBuilds", .array (g.editableBuilds.map BuildRef.toJson))]

/-- Decodes a graph. -/
def decoder : Json.Decoder BuildGraph :=
  .record "BuildGraph"
    (fun room =>
      .cons (.defaulted "includedBuilds" [] (Json.Decoder.list BuildRef.decoder room)) <|
      .cons (.defaulted "editableBuilds" [] (Json.Decoder.list BuildRef.decoder room)) .nil)
    fun (includedBuilds, editableBuilds, _) => ⟨includedBuilds, editableBuilds⟩

end BuildGraph

end CompositeBuild
