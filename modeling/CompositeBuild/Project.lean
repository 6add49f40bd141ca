/-
# Projects and their modules

A project is the project graph of one build, and its modules are the units of compilation in it.  A
module stands in a hierarchy of named containers, from which its id is made.
-/
import CompositeBuild.ModuleId
import CompositeBuild.Json.Record

namespace CompositeBuild

/-! ## Containers -/

namespace Containers

/-- The JSON form of a container with those around it, nearest first: each holds the one around it
as its parent. -/
def toJson (name : String) : List String → Json
  | [] => .object [("name", .string name)]
  | outer :: more => .object [("name", .string name), ("parent", toJson outer more)]

/-- The JSON form of a list of containers, nearest first, if there are any. -/
def toJson? : List String → Option Json
  | [] => none
  | name :: outer => some (toJson name outer)

/-- Decodes a container with those around it into their names, nearest first. -/
def decoder : Json.Decoder (List String)
  | 0 => Json.noRoom "ElementNode"
  | room + 1 =>
    Json.record "ElementNode"
      (.cons (.required "name" (Json.Decoder.string room)) <|
       .cons (.optional "parent" (decoder room)) .nil)
      fun (name, outer, _) => name :: outer.getD []

end Containers

/-! ## Modules -/

/-- A unit of compilation.  `containers` are the names of the containers around it, nearest first;
`build` and `path` are its handle, by which its host finds it. -/
structure Module where
  name : String
  projectName : String
  containers : List String
  path : String
  build : String
  moduleDir : Option Path
deriving DecidableEq, Repr

namespace Module

/-- The id of the module. -/
def id (m : Module) : ModuleId := .qualified m.name m.containers m.projectName

/-- The id of the container that holds the module, as an element of the same project. -/
def parentId? (m : Module) : Option ModuleId :=
  match m.containers with
  | [] => none
  | name :: outer => some (.qualified name outer m.projectName)

/-- The module is the root module of its project. -/
def isProjectRoot (m : Module) : Bool := m.name == m.projectName

/-- The JSON form of a module. -/
def toJson (m : Module) : Json :=
  .object <|
    [("name", .string m.name), ("projectName", .string m.projectName)] ++
    Json.optionalMember "parent" (Containers.toJson? m.containers) ++
    [("path", .string m.path), ("build", .string m.build)] ++
    Json.optionalMember "moduleDir" (m.moduleDir.map fun dir => .string dir.text)

/-- Decodes a module. -/
def decoder : Json.Decoder Module :=
  .record "ModuleModel"
    (fun room =>
      .cons (.required "name" (Json.Decoder.string room)) <|
      .cons (.required "projectName" (Json.Decoder.string room)) <|
      .cons (.optional "parent" (Containers.decoder room)) <|
      .cons (.defaulted "path" "" (Json.Decoder.string room)) <|
      .cons (.defaulted "build" "" (Json.Decoder.string room)) <|
      .cons (.optional "moduleDir" (Json.Decoder.path room)) .nil)
    fun (name, projectName, parent, path, build, moduleDir, _) =>
      ⟨name, projectName, parent.getD [], path, build, moduleDir⟩

end Module

/-! ## Projects -/

/-- The project graph of one build. -/
structure Project where
  name : String
  build : String
  projectDir : Option Path
  languageLevel : Option String
  modules : List Module
deriving DecidableEq, Repr

namespace Project

/-- The JSON form of a project. -/
def toJson (p : Project) : Json :=
  .object <|
    [("name", .string p.name), ("build", .string p.build)] ++
    Json.optionalMember "projectDir" (p.projectDir.map fun dir => .string dir.text) ++
    Json.optionalMember "languageLevel" (p.languageLevel.map .string) ++
    [("modules", .array (p.modules.map Module.toJson))]

/-- Decodes a project. -/
def decoder : Json.Decoder Project :=
  .record "ProjectModel"
    (fun room =>
      .cons (.required "name" (Json.Decoder.string room)) <|
      .cons (.defaulted "build" "" (Json.Decoder.string room)) <|
      .cons (.optional "projectDir" (Json.Decoder.path room)) <|
      .cons (.optional "languageLevel" (Json.Decoder.string room)) <|
      .cons (.defaulted "modules" [] (Json.Decoder.list Module.decoder room)) .nil)
    fun (name, build, projectDir, languageLevel, modules, _) =>
      ⟨name, build, projectDir, languageLevel, modules⟩

end Project

end CompositeBuild
