/-
# Reading source sets

Every definition of a source set gives one source set.  A classpath that could not be resolved is
told as an event, stays empty and marks its source set.
-/
import CompositeBuild.Dump
import CompositeBuild.Event
import CompositeBuild.SourceSet
import CompositeBuild.Unicode.Uppercase

namespace CompositeBuild

/-! ## Names of tasks -/

/-- The name of the task that does something for a source set: the verb itself for `main`, and
otherwise the name of the source set followed by the verb with its first letter in upper case. -/
def sourceSetTaskName (sourceSet verb : String) : String :=
  if sourceSet = "main" then verb
  else
    match verb.toList with
    | [] => sourceSet
    | first :: rest => String.ofList (sourceSet.toList ++ Unicode.uppercase first ++ rest)

namespace Dump.SourceSetDefinition

/-- The name of the task that packages a source set. -/
def jarTaskName (d : SourceSetDefinition) : String := sourceSetTaskName d.name "jar"

/-- The file collection of a classpath. -/
def collection (d : SourceSetDefinition) : Classpath → FileCollection
  | .compile => d.compileClasspath
  | .runtime => d.runtimeClasspath

/-- The files of a classpath. -/
def classpath (d : SourceSetDefinition) (classpath : Classpath) :
    Except ResolutionError (List Path) :=
  match d.collection classpath with
  | .files paths => .ok paths
  | .unresolved reason => .error ⟨d.name, classpath, reason⟩

end Dump.SourceSetDefinition

namespace SourceSet

/-! ## Parts of a source set -/

/-- The files of a classpath, unless it could not be resolved. -/
def resolveClasspath (d : Dump.SourceSetDefinition) (classpath : Classpath) :
    Logged (Option (SortedSet Path)) :=
  match d.classpath classpath with
  | .ok paths => pure (some (.ofListLast paths))
  | .error e => do
    Logged.tell (.classpathUnresolved e)
    return none

/-- The archives that the task of a name produces in a project, if it is an archive task. -/
def archivesOf (project : Dump.Project) (task : String) : List Path :=
  match project.tasks.get? task with
  | some task => if task.archive then task.outputs else []
  | none => []

/-- The files that a source set produces: the archives of its packaging task first, then its
compiled output. -/
def producedArtifacts (project : Dump.Project) (d : Dump.SourceSetDefinition) : SortedSet Path :=
  (SortedSet.empty.insertAll (archivesOf project d.jarTaskName)).insertAll d.outputFiles

/-! ## Source sets of a project -/

/-- The source set of a definition. -/
def ofDefinition (project : Dump.Project) (d : Dump.SourceSetDefinition) : Logged SourceSet := do
  let runtime ← resolveClasspath d .runtime
  let compile ← resolveClasspath d .compile
  return {
    name := d.name
    sources := .ofListLast d.sourceDirs
    resources := .ofListLast d.resourceDirs
    excludes := (SortedSet.ofListFirst d.sourceExcludes).insertAll d.resourceExcludes
    compileClasspath := compile.getD .empty
    runtimeClasspath := runtime.getD .empty
    artifacts := producedArtifacts project d
    hasUnresolvedDependencies := runtime.isNone || compile.isNone }

/-- The source sets of a project; there are none at all without a container for them. -/
def extract (project : Dump.Project) : Logged (Option (SortedSet SourceSet)) :=
  match project.sourceSets with
  | none => pure none
  | some definitions => do
    return some (.ofListLast (← Logged.forEach definitions (ofDefinition project)))

end SourceSet

end CompositeBuild
