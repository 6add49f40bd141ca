/-
# Projects of a build as modules

Every Gradle project of a build is a module.  Its containers are the projects on the way from it up
to the root project, which is not one of them: `:modules:lib` stands in the container `modules`.
-/
import CompositeBuild.Dump
import CompositeBuild.Project

namespace CompositeBuild.Dump

/-! ## Gradle paths -/

/-- The path of the root project. -/
def rootPath : String := ":"

/-- The path that ends with the given segments, the last first; `none` without segments.  The path
of nothing but an empty first segment is the root. -/
def pathOf? : List (List Char) → Option String
  | [] => none
  | [[]] => some rootPath
  | segments => some (String.ofList ([':'].intercalate segments.reverse))

/-- The segments of a path, the last first. -/
def segments (path : String) : List (List Char) := (path.toList.splitOn ':').reverse

/-- The path of the project around the one at a path: `:a` for `:a:b`, and `:` for `:a`.  The root
and a path without a colon have none. -/
def parentPath? (path : String) : Option String :=
  if path = rootPath then none else pathOf? (segments path).tail

/-- The containers above the segments of a path, nearest first and without the root, each as its
path and its last segment. -/
def containersAbove : List (List Char) → List (String × String)
  | [] => []
  | _ :: above =>
    match pathOf? above with
    | none => []
    | some path =>
      if path = rootPath then []
      else (path, String.ofList (above.headD [])) :: containersAbove above

namespace Build

/-! ## The model of a build -/

/-- The root project of a build: the one at the root path, or else the first. -/
def rootProject? (b : Build) : Option Project :=
  (b.projects.find? (·.path = rootPath)).or b.projects.head?

/-- The name of the project graph of a build. -/
def projectName (b : Build) : String :=
  match b.rootProject? with
  | some root => root.name
  | none => b.name

/-- The project at a path, the last if there are several. -/
def lastAt? (b : Build) (path : String) : Option Project :=
  b.projects.reverse.find? (·.path = path)

/-- The name of the container at a path: that of the project there, or else the last segment of the
path. -/
def containerName (b : Build) (container : String × String) : String :=
  match b.lastAt? container.1 with
  | some project => project.name
  | none => container.2

/-- The names of the containers of the project at a path, nearest first. -/
def containersOf (b : Build) (path : String) : List String :=
  (containersAbove (segments path)).map b.containerName

/-- The module of a project. -/
def moduleOf (b : Build) (p : Project) : Module :=
  ⟨p.name, b.projectName, b.containersOf p.path, p.path, b.name, p.projectDir⟩

/-- The project graph of a build. -/
def model (b : Build) : CompositeBuild.Project :=
  ⟨b.projectName, b.name, b.rootDir.or (b.rootProject?.bind Project.projectDir), b.languageLevel,
    b.projects.map b.moduleOf⟩

end Build

end CompositeBuild.Dump
