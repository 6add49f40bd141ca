/-
# Toolchain settings of a task

The settings of a task are made of the values that are read of its properties, and a result of
reading that is an error counts as no value (`value_ofTask`).  The options of a legacy task are read
like those of a modern one: giving them the modern name changes nothing, and beside options under
the modern name those under the legacy one have no meaning (`legacy_tasks_are_read_alike`).
-/
import CompositeBuild.Proofs.Property.Reading
import CompositeBuild.Proofs.Property.Replacing
import CompositeBuild.Toolchain.Extraction

namespace CompositeBuild

open PropertyResult (valueOf errorOf)

namespace ToolchainSettings

variable {config : ToolchainConfig} {task : String}

/-! ## Best effort -/

theorem value_bestEffort {α : Type} (task property : String) (result : PropertyResult α) :
    (bestEffort task property result).value = valueOf result := by
  cases result <;> rfl

theorem events_bestEffort {α : Type} (task property : String) (result : PropertyResult α) :
    (bestEffort task property result).events =
      ((errorOf result).map (Event.propertyIgnored task property)).toList := by
  cases result <;> rfl

/-! ## Properties that are not there

Asking whether a property is there before it is read only saves the read: one that is not there has
no value and is no error. -/

section Absent

variable (config : ToolchainConfig) (task : String) (h : PropertyHolder)

theorem readCompilerOptions_eq :
    readCompilerOptions config task h = do
      match ← bestEffort task compilerOptionsName (h.object? compilerOptionsName) with
      | none => return (none, [])
      | some options =>
        let target ← bestEffort task "jvmTarget" (options.text? "jvmTarget")
        let args ← bestEffort task "freeCompilerArgs" (options.list? "freeCompilerArgs")
        return (target.map fun raw => normalizeTarget raw config.targetPrefix,
          (args.getD []).map PropertyValue.display) := by
  unfold readCompilerOptions
  split
  case isTrue => rfl
  case isFalse habsent =>
    rw [PropertyHolder.object?, h.formed?_of_not_has habsent]
    rfl

theorem readPluginClasspath_eq :
    readPluginClasspath task h = do
      let paths ← bestEffort task "pluginClasspath" (h.files? "pluginClasspath")
      return ((paths.getD []).filter Path.isPluginArtifact).map Path.text := by
  unfold readPluginClasspath
  split
  case isTrue => rfl
  case isFalse habsent =>
    rw [PropertyHolder.files?, h.formed?_of_not_has habsent]
    rfl

theorem readPluginOptions_eq :
    readPluginOptions task h = do
      let options ← bestEffort task "pluginOptions" (h.list? "pluginOptions")
      return (options.getD []).flatMap optionArguments := by
  unfold readPluginOptions
  split
  case isTrue => rfl
  case isFalse habsent =>
    rw [PropertyHolder.list?, h.formed?_of_not_has habsent]
    rfl

end Absent

/-! ## The properties that settings are made of -/

/-- A property that a setting is made of. -/
inductive Slot where
  | jvmTarget
  | freeCompilerArgs
  | pluginClasspath
  | pluginOptions
deriving DecidableEq, Repr

namespace Slot

/-- The name of the property. -/
def name : Slot → String
  | jvmTarget => "jvmTarget"
  | freeCompilerArgs => "freeCompilerArgs"
  | pluginClasspath => "pluginClasspath"
  | pluginOptions => "pluginOptions"

/-- The form in which the property is wanted. -/
def wanted : Slot → PropertyForm
  | jvmTarget => .text
  | freeCompilerArgs => .list
  | pluginClasspath => .files
  | pluginOptions => .list

/-- The property is one of the compiler options, and not of the task itself. -/
def isOption : Slot → Bool
  | jvmTarget => true
  | freeCompilerArgs => true
  | pluginClasspath => false
  | pluginOptions => false

end Slot

/-- The compiler options of a task, if they are an object. -/
def options? (h : PropertyHolder) : Option PropertyMap :=
  (h.property? compilerOptionsName).bind (Property.shown? PropertyValue.asObject?)

/-- The captured property of a slot: among the compiler options, or else among the properties of the
task. -/
def Slot.captured? (slot : Slot) (h : PropertyHolder) : Option Property :=
  if slot.isOption then (options? h).bind fun options => options.get? slot.name
  else h.property? slot.name

/-- What a view shows of the captured property of a slot. -/
def Slot.shown? {α : Type} (slot : Slot) (view : PropertyValue → Option α) (h : PropertyHolder) :
    Option α :=
  (slot.captured? h).bind (Property.shown? view)

/-- What is read of the options of a task are their members, if they are an object. -/
theorem valueOf_object?_options (h : PropertyHolder) :
    valueOf (h.object? compilerOptionsName) = (options? h).map PropertyHolder.ofObject := by
  unfold PropertyHolder.object? options?
  rw [PropertyHolder.valueOf_formed?, Option.map_bind]
  exact congrArg _ (funext fun p => Property.shown?_map _ p)

/-- Each setting is made of what is shown of the property of its slot, and is empty if this is
nothing. -/
theorem value_ofTask (config : ToolchainConfig) (task : String) (h : PropertyHolder) :
    (ofTask config task h).value =
      { jvmTarget := (Slot.jvmTarget.shown? PropertyValue.asText? h).map
          fun raw => normalizeTarget raw config.targetPrefix
        compilerArgs := ((Slot.freeCompilerArgs.shown? PropertyValue.asList? h).getD []).map
          PropertyValue.display
        pluginClasspath :=
          (((Slot.pluginClasspath.shown? PropertyValue.asFiles? h).getD []).filter
            Path.isPluginArtifact).map Path.text
        pluginOptions := ((Slot.pluginOptions.shown? PropertyValue.asList? h).getD []).flatMap
          optionArguments } := by
  have hoptions : (readCompilerOptions config task h).value =
      ((Slot.jvmTarget.shown? PropertyValue.asText? h).map
          fun raw => normalizeTarget raw config.targetPrefix,
        ((Slot.freeCompilerArgs.shown? PropertyValue.asList? h).getD []).map
          PropertyValue.display) := by
    unfold Slot.shown? Slot.captured?
    rw [readCompilerOptions_eq, Logged.value_bind, value_bestEffort, valueOf_object?_options]
    cases options? h with
    | none => rfl
    | some options =>
      have htarget : valueOf ((PropertyHolder.ofObject options).text? "jvmTarget") =
          (options.get? "jvmTarget").bind (Property.shown? PropertyValue.asText?) :=
        PropertyHolder.valueOf_formed? ..
      have hargs : valueOf ((PropertyHolder.ofObject options).list? "freeCompilerArgs") =
          (options.get? "freeCompilerArgs").bind (Property.shown? PropertyValue.asList?) :=
        PropertyHolder.valueOf_formed? ..
      simp only [Option.map_some, Logged.value_bind, Logged.value_pure, value_bestEffort, htarget,
        hargs]
      rfl
  have hclasspath : valueOf (h.files? "pluginClasspath") =
      Slot.pluginClasspath.shown? PropertyValue.asFiles? h := PropertyHolder.valueOf_formed? ..
  have hplugins : valueOf (h.list? "pluginOptions") =
      Slot.pluginOptions.shown? PropertyValue.asList? h := PropertyHolder.valueOf_formed? ..
  unfold ofTask
  simp only [readPluginClasspath_eq, readPluginOptions_eq, Logged.value_bind, Logged.value_pure,
    value_bestEffort, hoptions, hclasspath, hplugins]

/-- The names under which properties of a task are read. -/
def readNames : List String := [compilerOptionsName, "pluginClasspath", "pluginOptions"]

/-- Nothing but the properties of these names has a meaning for the settings of a task and for what
is told while they are read. -/
theorem ofTask_congr {h h' : PropertyHolder}
    (hsame : ∀ name ∈ readNames, h.property? name = h'.property? name) :
    ofTask config task h = ofTask config task h' := by
  have hread (name : String) (hname : name ∈ readNames) {α : Type} (wanted : PropertyForm)
      (view : PropertyValue → Option α) :
      h.formed? name wanted view = h'.formed? name wanted view :=
    PropertyHolder.formed?_congr (hsame name hname)
  have hoptions : h.object? compilerOptionsName = h'.object? compilerOptionsName :=
    hread _ (by decide) _ _
  have hclasspath : h.files? "pluginClasspath" = h'.files? "pluginClasspath" :=
    hread _ (by decide) _ _
  have hplugins : h.list? "pluginOptions" = h'.list? "pluginOptions" :=
    hread _ (by decide) _ _
  unfold ofTask
  rw [readCompilerOptions_eq, readCompilerOptions_eq, readPluginClasspath_eq,
    readPluginClasspath_eq, readPluginOptions_eq, readPluginOptions_eq,
    hoptions, hclasspath, hplugins]

/-- The settings of a project are those of its compile task. -/
theorem extract_of_task {p : Dump.Project} {t : Dump.Task}
    (ht : p.tasks.get? config.compileTask = some t) :
    extract config p = do
      return some (← ofTask config config.compileTask (.ofTask t.properties)) := by
  unfold extract
  rw [ht]

end ToolchainSettings

/-! ## Legacy tasks -/

namespace TaskShape

/-- Every shape has a property under its own name, unless it is the compiler options. -/
theorem hostName_of_ne {name : String} (h : name ≠ compilerOptionsName) (shape : TaskShape) :
    shape.hostName name = name := by
  cases shape with
  | modern => rfl
  | legacy => exact if_neg h

end TaskShape

namespace PropertyHolder

variable {m : PropertyMap} {name : String}

theorem property?_ofTask (m : PropertyMap) (name : String) :
    (ofTask m).property? name = m.get? ((TaskShape.ofProperties m).hostName name) := rfl

theorem property?_ofTask_of_has (h : m.has compilerOptionsName = true) :
    (ofTask m).property? name = m.get? name := by
  rw [property?_ofTask, TaskShape.ofProperties_of_has h]
  rfl

/-- The properties of a legacy task are found under the same names after its options have been given
the modern name, but for the legacy name itself. -/
theorem property?_ofTask_renamed (hlegacy : m.has legacyOptionsName = true)
    (hmodern : m.has compilerOptionsName = false) (hname : name ≠ legacyOptionsName) :
    (ofTask (m.renamed legacyOptionsName compilerOptionsName)).property? name =
      (ofTask m).property? name := by
  have hfree : m.get? compilerOptionsName = none := by
    simpa [PropertyMap.has] using hmodern
  have hrenamed : (m.renamed legacyOptionsName compilerOptionsName).get? compilerOptionsName =
      m.get? legacyOptionsName := PropertyMap.get?_renamed_new hfree
  have hhas : (m.renamed legacyOptionsName compilerOptionsName).has compilerOptionsName = true := by
    rw [PropertyMap.has, hrenamed]
    exact hlegacy
  rw [property?_ofTask_of_has hhas, property?_ofTask]
  by_cases hoptions : name = compilerOptionsName
  · subst hoptions
    rw [hrenamed, TaskShape.ofProperties_of_legacy hmodern hlegacy]
    rfl
  · rw [TaskShape.hostName_of_ne hoptions, PropertyMap.get?_renamed_of_ne hname hoptions]

/-- The properties of a modern task are found under the same names whatever is under the legacy
name, but for this name itself. -/
theorem property?_ofTask_withLegacy (hmodern : m.has compilerOptionsName = true)
    (hname : name ≠ legacyOptionsName) (options? : Option Property) :
    (ofTask (m.withProperty legacyOptionsName options?)).property? name =
      (ofTask m).property? name := by
  have hhas : (m.withProperty legacyOptionsName options?).has compilerOptionsName = true := by
    rwa [PropertyMap.has_withProperty_of_ne (by decide)]
  rw [property?_ofTask_of_has hhas, property?_ofTask_of_has hmodern,
    PropertyMap.get?_withProperty_of_ne hname]

end PropertyHolder

namespace ToolchainSettings

/-- No property is read under the legacy name. -/
theorem ne_legacyOptionsName {name : String} (h : name ∈ readNames) : name ≠ legacyOptionsName := by
  rintro rfl
  exact absurd h (by decide)

/-- **Legacy tasks are read like modern ones.** If a compile task has options under the legacy name
only, its project has the same toolchain settings, and the same is told while they are read, after
the options have been given the modern name.  If it has something under the modern name, these stay
the same whatever is set under the legacy name, or if nothing is. -/
theorem legacy_tasks_are_read_alike {config : ToolchainConfig} {p p' : Dump.Project}
    {t t' : Dump.Task} (ht : p.tasks.get? config.compileTask = some t)
    (ht' : p'.tasks.get? config.compileTask = some t') :
    (t.properties.has legacyOptionsName = true → t.properties.has compilerOptionsName = false →
      t'.properties = t.properties.renamed legacyOptionsName compilerOptionsName →
        extract config p' = extract config p) ∧
    (t.properties.has compilerOptionsName = true →
      ∀ options? : Option Property,
        t'.properties = t.properties.withProperty legacyOptionsName options? →
          extract config p' = extract config p) := by
  rw [extract_of_task ht, extract_of_task ht']
  refine ⟨fun hlegacy hmodern heq => ?renamed, fun hmodern options? heq => ?beside⟩
  case renamed =>
    rw [heq, ofTask_congr fun name hname =>
      PropertyHolder.property?_ofTask_renamed hlegacy hmodern (ne_legacyOptionsName hname)]
  case beside =>
    rw [heq, ofTask_congr fun name hname =>
      PropertyHolder.property?_ofTask_withLegacy hmodern (ne_legacyOptionsName hname) options?]

end ToolchainSettings

/-! ### A legacy task and a modern one -/

namespace CompileTask

/-- A project with the given compile task. -/
def project (task : Dump.Task) : Dump.Project :=
  ⟨"app", ":app", none, .ofList [("compileKotlin", task)], none, .none⟩

theorem get?_tasks_project (task : Dump.Task) :
    (project task).tasks.get? ToolchainConfig.default.compileTask = some task := rfl

/-- A task with options under the legacy name, some of which failed. -/
def legacy : Dump.Task where
  archive := false
  properties :=
    [(legacyOptionsName, .object [("jvmTarget", .text "JVM_17"),
        ("freeCompilerArgs", .list [.text "-Werror", .list [.failed "no provider"]])]),
      ("pluginClasspath", .unresolved "offline")]
  distinct := by decide
  outputs := []

/-- The task with its options under the modern name. -/
def renamed : Dump.Task :=
  { legacy with
    properties := legacy.properties.renamed legacyOptionsName compilerOptionsName
    distinct := by decide }

/-- A task with something under the modern name that is no object. -/
def modern : Dump.Task where
  archive := false
  properties := [(compilerOptionsName, .text "none")]
  distinct := by decide
  outputs := []

/-- The task with a failure under the legacy name beside it. -/
def besideLegacy : Dump.Task :=
  { modern with
    properties := modern.properties.withProperty legacyOptionsName (some (.failed "no provider"))
    distinct := by decide }

/-- The options of the first task have a target, and what is told names them as they are named in
modern tasks.  Those of the second are not read in place of what is under the modern name. -/
theorem settings_of_legacyTask :
    ToolchainSettings.extract .default (project renamed) =
      ToolchainSettings.extract .default (project legacy) ∧
    (ToolchainSettings.extract .default (project legacy)).value =
      some { ToolchainSettings.empty with jvmTarget := some "17" } ∧
    (ToolchainSettings.extract .default (project legacy)).events =
      [.propertyIgnored "compileKotlin" "freeCompilerArgs"
          (.unreadable "freeCompilerArgs" "no provider"),
        .propertyIgnored "compileKotlin" "pluginClasspath"
          (.unreadable "pluginClasspath" "offline")] ∧
    ToolchainSettings.extract .default (project besideLegacy) =
      ToolchainSettings.extract .default (project modern) := by
  refine ⟨?_, by decide, by decide, ?_⟩
  · exact (ToolchainSettings.legacy_tasks_are_read_alike (get?_tasks_project legacy)
      (get?_tasks_project renamed)).1 (by decide) (by decide) rfl
  · exact (ToolchainSettings.legacy_tasks_are_read_alike (get?_tasks_project modern)
      (get?_tasks_project besideLegacy)).2 (by decide) (some (.failed "no provider")) rfl

end CompileTask

end CompositeBuild
