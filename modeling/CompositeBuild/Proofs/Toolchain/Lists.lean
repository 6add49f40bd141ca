/-
# The lists among toolchain settings

The lists of settings follow the captured properties in order (`lists_of_settings`).  Compiler
arguments and the arguments of plugin options are the string forms of the items of their lists, as
far as these hold a value, and the plugin classpath is what the captured file collection has of
archives of compiler plugins.
-/
import CompositeBuild.Proofs.Property.StringForms
import CompositeBuild.Proofs.Toolchain.FailedReads
import CompositeBuild.Proofs.Toolchain.PluginArtifact

namespace CompositeBuild

open Property (readableItems capturedPaths stringForm?)
open PropertyResult (valueOf)

/-! ## The properties that are read -/

/-- The members of the compiler options of a task, if these are an object.  Options under the legacy
name count if there are none under the modern one. -/
def PropertyMap.optionMembers? (m : PropertyMap) : Option PropertyMap :=
  match (m.get? compilerOptionsName).or (m.get? legacyOptionsName) with
  | some (.object members) => some members
  | _ => none

/-- The string forms of the arguments of a plugin option, if it is an object whose arguments are a
list that can be read. -/
def Property.argumentForms : Property → List String
  | object members => (readableItems (PropertyMap.get? members "arguments")).filterMap stringForm?
  | _ => []

namespace ToolchainSettings

/-- The compiler options of a task are under one of two names. -/
theorem property?_compilerOptions (m : PropertyMap) :
    (PropertyHolder.ofTask m).property? compilerOptionsName =
      (m.get? compilerOptionsName).or (m.get? legacyOptionsName) := by
  rw [PropertyHolder.property?_ofTask]
  cases hmodern : m.get? compilerOptionsName with
  | some options =>
    have hhas : m.has compilerOptionsName = true := by rw [PropertyMap.has, hmodern]; rfl
    rw [TaskShape.ofProperties_of_has hhas]
    exact hmodern
  | none =>
    have hfree : m.has compilerOptionsName = false := by rw [PropertyMap.has, hmodern]; rfl
    rw [Option.none_or]
    cases hlegacy : m.has legacyOptionsName with
    | true =>
      rw [TaskShape.ofProperties_of_legacy hfree hlegacy]
      rfl
    | false =>
      have hmissing : m.get? legacyOptionsName = none := by simpa [PropertyMap.has] using hlegacy
      rw [hmissing, TaskShape.ofProperties, hfree, hlegacy]
      exact hmodern

/-- The options that are read are the members of those that were captured. -/
theorem options?_ofTask (m : PropertyMap) : options? (.ofTask m) = m.optionMembers? := by
  unfold options? PropertyMap.optionMembers?
  rw [property?_compilerOptions]
  cases (m.get? compilerOptionsName).or (m.get? legacyOptionsName) with
  | none => rfl
  | some p =>
    rw [Option.bind_some, Property.shown?]
    cases p with
    | list items =>
      rw [Property.failures, Property.held?]
      cases Property.failuresOfItems items <;> rfl
    | absent | failed | unresolved | files | text | bool | number | object => rfl

/-- What is read for a plugin option are the string forms of its arguments. -/
theorem flatMap_itemForms_argumentRead? (option : Property) :
    (option.held?.bind argumentRead?).toList.flatMap PropertyRead.itemForms =
      option.argumentForms := by
  cases option with
  | object members =>
    have hread : valueOf ((PropertyHolder.ofObject members).list? "arguments") =
        (PropertyMap.get? members "arguments").bind (Property.shown? PropertyValue.asList?) :=
      PropertyHolder.valueOf_formed? ..
    show List.flatMap _ [_] = _
    rw [List.flatMap_singleton, PropertyRead.itemForms, hread, Property.getD_shown?_asList?,
      Property.map_display_heldByItems]
    rfl
  | absent | failed | unresolved | files | text | bool | number | list => rfl

/-- The plugin options are read one after the other. -/
theorem flatMap_itemForms_heldByItems (items : List Property) :
    ((Property.heldByItems items).filterMap argumentRead?).flatMap PropertyRead.itemForms =
      items.flatMap Property.argumentForms := by
  rw [Property.heldByItems_eq_filterMap, List.filterMap_filterMap, List.filterMap_eq_flatMap_toList,
    List.flatMap_assoc]
  exact congrArg (List.flatMap · items) (funext flatMap_itemForms_argumentRead?)

/-! ## The lists -/

section Task

variable (config : ToolchainConfig) (task : String) (m : PropertyMap)

theorem property?_ofTask_of_ne {name : String} (hname : name ≠ compilerOptionsName) :
    (PropertyHolder.ofTask m).property? name = m.get? name := by
  rw [PropertyHolder.property?_ofTask, TaskShape.hostName_of_ne hname]

/-- The compiler arguments are the string forms of the free arguments among the compiler options. -/
theorem compilerArgs_ofTask_eq :
    (ofTask config task (.ofTask m)).value.compilerArgs =
      (readableItems (m.optionMembers?.bind (·.get? "freeCompilerArgs"))).filterMap
        stringForm? := by
  rw [value_ofTask, ← options?_ofTask, ← Property.map_display_heldByItems,
    ← Property.getD_shown?_asList?]
  rfl

/-- The plugin classpath is the part of the captured one that follows the pattern. -/
theorem pluginClasspath_ofTask_eq :
    (ofTask config task (.ofTask m)).value.pluginClasspath =
      ((capturedPaths (m.get? "pluginClasspath")).filter (·.FollowsPluginPattern)).map
        Path.text := by
  have hpattern : Path.isPluginArtifact = fun path => decide path.FollowsPluginPattern :=
    funext fun path => Bool.eq_iff_iff.2 (by simpa using path.isPluginArtifact_iff)
  have hread : (Slot.pluginClasspath.shown? PropertyValue.asFiles? (.ofTask m)).getD [] =
      capturedPaths (m.get? "pluginClasspath") := by
    rw [← property?_ofTask_of_ne m (by decide)]
    exact Property.getD_shown?_asFiles? _
  rw [value_ofTask, hread, hpattern]

/-- The plugin options are the string forms of the arguments of their items. -/
theorem pluginOptions_ofTask_eq :
    (ofTask config task (.ofTask m)).value.pluginOptions =
      (readableItems (m.get? "pluginOptions")).flatMap Property.argumentForms := by
  have hread : (Slot.pluginOptions.shown? PropertyValue.asList? (.ofTask m)).getD [] =
      Property.heldByItems (readableItems (m.get? "pluginOptions")) := by
    rw [← property?_ofTask_of_ne m (by decide)]
    exact Property.getD_shown?_asList? _
  rw [pluginOptions_ofTask, argumentReads, hread, flatMap_itemForms_heldByItems]

end Task

/-- The settings are those of a compile task with the given list of plugin options. -/
def ReadFromOptions (config : ToolchainConfig) (options : List Property) (s : ToolchainSettings) :
    Prop :=
  ∃ (p : Dump.Project) (t : Dump.Task), p.tasks.get? config.compileTask = some t ∧
    t.properties.get? "pluginOptions" = some (.list options) ∧ (extract config p).value = some s

/-- **The lists of settings follow the captured properties in order.**  There are settings whatever
the properties of a compile task are.  The plugin options are the string forms of the arguments of
the items of their list, the plugin classpath is the part of the captured file collection that
follows the pattern of compiler plugins, and the compiler arguments are the string forms of the
items of their list; a list from which a failure is reached counts as empty, as does anything that
is no list.  So the plugin options of one list behind another are those of both, if no failure is
reached from these. -/
theorem lists_of_settings {config : ToolchainConfig} {p : Dump.Project} {t : Dump.Task}
    (ht : p.tasks.get? config.compileTask = some t) :
    (∃ s, (extract config p).value = some s ∧
      s.pluginOptions =
        (readableItems (t.properties.get? "pluginOptions")).flatMap Property.argumentForms ∧
      s.pluginClasspath =
        ((capturedPaths (t.properties.get? "pluginClasspath")).filter (·.FollowsPluginPattern)).map
          Path.text ∧
      s.compilerArgs =
        (readableItems (t.properties.optionMembers?.bind (·.get? "freeCompilerArgs"))).filterMap
          stringForm?) ∧
    ∀ (xs ys : List Property) (s₁ s₂ s : ToolchainSettings),
      (Property.list (xs ++ ys)).failures = [] →
      ReadFromOptions config xs s₁ → ReadFromOptions config ys s₂ →
        ReadFromOptions config (xs ++ ys) s →
          s.pluginOptions = s₁.pluginOptions ++ s₂.pluginOptions := by
  have hvalue {p : Dump.Project} {t : Dump.Task} (ht : p.tasks.get? config.compileTask = some t) :
      (extract config p).value =
        some (ofTask config config.compileTask (.ofTask t.properties)).value := by
    rw [extract_of_task ht]
    rfl
  refine ⟨⟨_, hvalue ht, pluginOptions_ofTask_eq .., pluginClasspath_ofTask_eq ..,
    compilerArgs_ofTask_eq ..⟩, ?_⟩
  have hoptions {options : List Property} {s : ToolchainSettings}
      (h : ReadFromOptions config options s) :
      s.pluginOptions = (readableItems (some (.list options))).flatMap Property.argumentForms := by
    obtain ⟨p, t, ht, hcaptured, hs⟩ := h
    rw [← Option.some.inj ((hvalue ht).symm.trans hs), pluginOptions_ofTask_eq, hcaptured]
  intro xs ys s₁ s₂ s hfailures h₁ h₂ h
  rw [hoptions h₁, hoptions h₂, hoptions h, Property.readableItems_append hfailures,
    List.flatMap_append]

end ToolchainSettings

/-! ### A task with items of all kinds -/

namespace CompileTask

/-- The first plugin options of the task: one with arguments and two that offer none. -/
def firstOptions : List Property :=
  [.object [("arguments", .list [.text "a", .absent, .bool false])], .text "opaque", .absent]

/-- Its other plugin options: one whose arguments failed, one without arguments and one with a
number. -/
def otherOptions : List Property :=
  [.object [("arguments", .list [.list [.failed "boom"]])], .object [("id", .text "b")],
    .object [("arguments", .list [.number (.integer 3 (by decide))])]]

/-- The properties of the task, with its options under the legacy name. -/
def mixedProperties (pluginOptions : List Property) : PropertyMap :=
  [(legacyOptionsName, .object [("freeCompilerArgs",
      .list [.text "-X", .absent, .list [.bool true, .absent, .files [⟨"/a.jar"⟩]], .object []])]),
    ("pluginClasspath", .files [⟨"/p/x-compiler-plugin.jar"⟩, ⟨"/x-compiler-plugin/p.jar"⟩,
      ⟨"/p/x-compiler-plugin.jar"⟩]),
    ("pluginOptions", .list pluginOptions)]

/-- The task with the first options. -/
def mixedFirst : Dump.Task := ⟨false, mixedProperties firstOptions, by decide, []⟩

/-- The task with the other options. -/
def mixedOther : Dump.Task := ⟨false, mixedProperties otherOptions, by decide, []⟩

/-- The task with all options. -/
def mixed : Dump.Task := ⟨false, mixedProperties (firstOptions ++ otherOptions), by decide, []⟩

/-- The lists among its settings, and its plugin options as those of two tasks. -/
theorem lists_of_mixedTask :
    ∃ s₁ s₂ s, (ToolchainSettings.extract .default (project mixedFirst)).value = some s₁ ∧
      (ToolchainSettings.extract .default (project mixedOther)).value = some s₂ ∧
      (ToolchainSettings.extract .default (project mixed)).value = some s ∧
      s.pluginOptions = ["a", "false", "3"] ∧
      s.pluginOptions = s₁.pluginOptions ++ s₂.pluginOptions ∧
      s.pluginClasspath = ["/p/x-compiler-plugin.jar", "/p/x-compiler-plugin.jar"] ∧
      s.compilerArgs = ["-X", "[true, [/a.jar]]", "\x7b..\x7d"] := by
  obtain ⟨⟨s, hs, hoptions, hclasspath, hargs⟩, hconcat⟩ :=
    ToolchainSettings.lists_of_settings (get?_tasks_project mixed)
  obtain ⟨⟨s₁, hs₁, -⟩, -⟩ := ToolchainSettings.lists_of_settings (get?_tasks_project mixedFirst)
  obtain ⟨⟨s₂, hs₂, -⟩, -⟩ := ToolchainSettings.lists_of_settings (get?_tasks_project mixedOther)
  refine ⟨s₁, s₂, s, hs₁, hs₂, hs, hoptions.trans rfl, ?_, hclasspath.trans rfl,
    hargs.trans rfl⟩
  exact hconcat firstOptions otherOptions s₁ s₂ s rfl ⟨_, _, get?_tasks_project _, rfl, hs₁⟩
    ⟨_, _, get?_tasks_project _, rfl, hs₂⟩ ⟨_, _, get?_tasks_project _, rfl, hs⟩

end CompileTask

end CompositeBuild
