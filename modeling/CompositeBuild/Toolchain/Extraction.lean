/-
# Reading toolchain settings

The toolchain settings of a project are read from the properties of its compile task.  Every
property is read for itself: one that cannot be read is told as an event and leaves only its own
setting empty, and one that is not there is not read.
-/
import CompositeBuild.Dump
import CompositeBuild.Event
import CompositeBuild.Toolchain
import CompositeBuild.Toolchain.PluginArtifact

namespace CompositeBuild

/-! ## Conventions -/

/-- The conventions by which toolchain settings are read. -/
structure ToolchainConfig where
  /-- The name of the compile task. -/
  compileTask : String
  /-- What is stripped from the start of a target, as `JVM_` from `JVM_17`. -/
  targetPrefix : String
deriving DecidableEq, Repr

/-- The usual conventions. -/
def ToolchainConfig.default : ToolchainConfig := ⟨"compileKotlin", "JVM_"⟩

/-- The target without the prefix of its naming convention. -/
def normalizeTarget (raw targetPrefix : String) : String :=
  String.ofList (Text.dropStart targetPrefix.toList raw.toList)

namespace ToolchainSettings

/-! ## Best effort -/

/-- The result of reading a property of a task: an error is told and counts as no value. -/
def bestEffort {α : Type} (task property : String) (result : Except PropertyError (Option α)) :
    Logged (Option α) :=
  match result with
  | .ok value => pure value
  | .error e => do
    Logged.tell (.propertyIgnored task property e)
    return none

/-! ## The settings one by one -/

/-- The target and the arguments among the compiler options of a task. -/
def readCompilerOptions (config : ToolchainConfig) (task : String) (properties : PropertyHolder) :
    Logged (Option String × List String) :=
  if properties.has compilerOptionsName then do
    match ← bestEffort task compilerOptionsName (properties.object? compilerOptionsName) with
    | none => return (none, [])
    | some options =>
      let target ← bestEffort task "jvmTarget" (options.text? "jvmTarget")
      let args ← bestEffort task "freeCompilerArgs" (options.list? "freeCompilerArgs")
      return (target.map fun raw => normalizeTarget raw config.targetPrefix,
        (args.getD []).map PropertyValue.display)
  else pure (none, [])

/-- The archives of compiler plugins on the plugin classpath of a task. -/
def readPluginClasspath (task : String) (properties : PropertyHolder) : Logged (List String) :=
  if properties.has "pluginClasspath" then do
    let paths ← bestEffort task "pluginClasspath" (properties.files? "pluginClasspath")
    return ((paths.getD []).filter Path.isPluginArtifact).map Path.text
  else pure []

/-- The arguments of a plugin option.  An option that offers none contributes nothing. -/
def optionArguments (option : PropertyValue) : List String :=
  match option.asObject? with
  | none => []
  | some members =>
    match (PropertyHolder.ofObject members).list? "arguments" with
    | .ok (some args) => args.map PropertyValue.display
    | _ => []

/-- The arguments of the plugin options of a task. -/
def readPluginOptions (task : String) (properties : PropertyHolder) : Logged (List String) :=
  if properties.has "pluginOptions" then do
    let options ← bestEffort task "pluginOptions" (properties.list? "pluginOptions")
    return (options.getD []).flatMap optionArguments
  else pure []

/-- The settings that the properties of a compile task hold. -/
def ofTask (config : ToolchainConfig) (task : String) (properties : PropertyHolder) :
    Logged ToolchainSettings := do
  let (jvmTarget, compilerArgs) ← readCompilerOptions config task properties
  let pluginClasspath ← readPluginClasspath task properties
  let pluginOptions ← readPluginOptions task properties
  return ⟨jvmTarget, compilerArgs, pluginClasspath, pluginOptions⟩

/-- The toolchain settings of a project; there are none without a compile task. -/
def extract (config : ToolchainConfig) (project : Dump.Project) :
    Logged (Option ToolchainSettings) :=
  match project.tasks.get? config.compileTask with
  | none => pure none
  | some task => do
    return some (← ofTask config config.compileTask (.ofTask task.properties))

end ToolchainSettings

end CompositeBuild
