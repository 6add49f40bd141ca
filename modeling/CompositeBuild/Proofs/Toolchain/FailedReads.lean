/-
# What is told of properties that cannot be read

While the settings of a task are read, one event is told for each property of a setting that cannot
be read, in the order of reading, and nothing else (`events_ofTask`).  The arguments of plugin
options are read as well (`pluginOptions_ofTask`), but nothing is told of those: every failure is
told exactly if they can all be read (`failed_reads_are_told_iff`).
-/
import CompositeBuild.Proofs.Toolchain.Settings

namespace CompositeBuild

open PropertyResult (valueOf errorOf)

/-! ## Errors of reading -/

/-- The view that makes something of what another shows, shows the same values. -/
theorem PropertyForm.IsShownBy.map {α β : Type} {wanted : PropertyForm}
    {view : PropertyValue → Option α} (hview : wanted.IsShownBy view) (f : α → β) :
    wanted.IsShownBy fun value => (view value).map f := by
  intro value
  rw [Option.isSome_map]
  exact hview value

namespace PropertyHolder

variable (h : PropertyHolder) (name : String)

theorem errorOf_text? : errorOf (h.text? name) = h.fault? name .text :=
  errorOf_formed? PropertyValue.isShownBy_asText? h name

theorem errorOf_list? : errorOf (h.list? name) = h.fault? name .list :=
  errorOf_formed? PropertyValue.isShownBy_asList? h name

theorem errorOf_files? : errorOf (h.files? name) = h.fault? name .files :=
  errorOf_formed? PropertyValue.isShownBy_asFiles? h name

theorem errorOf_object? : errorOf (h.object? name) = h.fault? name .object :=
  errorOf_formed? (PropertyValue.isShownBy_asObject?.map ofObject) h name

end PropertyHolder

/-! ## Reads -/

/-- One property that is read. -/
structure PropertyRead where
  /-- The properties among which it is looked up. -/
  holder : PropertyHolder
  name : String
  /-- The form in which it is wanted. -/
  wanted : PropertyForm

namespace PropertyRead

/-- Why the property cannot be read: what was captured of it has a failure in it, or another
form. -/
def fault? (r : PropertyRead) : Option PropertyError := r.holder.fault? r.name r.wanted

/-- The event for a property of a task that cannot be read.  It names the property and the
reason. -/
def report? (task : String) (r : PropertyRead) : Option Event :=
  r.fault?.map (Event.propertyIgnored task r.name)

/-- The string forms of the items that are read of a list. -/
def itemForms (r : PropertyRead) : List String :=
  ((valueOf (r.holder.list? r.name)).getD []).map PropertyValue.display

end PropertyRead

namespace ToolchainSettings

open PropertyRead (report?)

variable {config : ToolchainConfig} {task : String} {h : PropertyHolder}

/-- The read of the property at a slot. -/
def Slot.readOf (slot : Slot) (h : PropertyHolder) : PropertyRead := ⟨h, slot.name, slot.wanted⟩

/-- The reads inside the compiler options, if these are an object. -/
def optionReads (h : PropertyHolder) : List PropertyRead :=
  match options? h with
  | some options =>
    [Slot.jvmTarget.readOf (.ofObject options), Slot.freeCompilerArgs.readOf (.ofObject options)]
  | none => []

/-- The reads of the properties that settings are made of, in order. -/
def settingReads (h : PropertyHolder) : List PropertyRead :=
  ⟨h, compilerOptionsName, .object⟩ :: optionReads h ++
    [Slot.pluginClasspath.readOf h, Slot.pluginOptions.readOf h]

/-- The read of the arguments of a plugin option that is an object. -/
def argumentRead? (option : PropertyValue) : Option PropertyRead :=
  option.asObject?.map fun members => ⟨.ofObject members, "arguments", .list⟩

/-- The reads of the arguments of the plugin options, in order. -/
def argumentReads (h : PropertyHolder) : List PropertyRead :=
  ((Slot.pluginOptions.shown? PropertyValue.asList? h).getD []).filterMap argumentRead?

/-- The arguments of a plugin option are what is read of them. -/
theorem optionArguments_eq (option : PropertyValue) :
    optionArguments option = (argumentRead? option).toList.flatMap PropertyRead.itemForms := by
  unfold optionArguments argumentRead?
  cases option.asObject? with
  | none => rfl
  | some members =>
    rw [Option.map_some, Option.toList_some, List.flatMap_singleton, PropertyRead.itemForms]
    dsimp only
    cases (PropertyHolder.ofObject members).list? "arguments" with
    | error e => rfl
    | ok args? => cases args? <;> rfl

/-- **The plugin options of a task are what is read of the arguments.** -/
theorem pluginOptions_ofTask (config : ToolchainConfig) (task : String) (h : PropertyHolder) :
    (ofTask config task h).value.pluginOptions =
      (argumentReads h).flatMap PropertyRead.itemForms := by
  rw [value_ofTask, argumentReads, List.filterMap_eq_flatMap_toList, List.flatMap_assoc]
  exact congrArg (List.flatMap · _) (funext optionArguments_eq)

/-! ## Events -/

/-- Best effort tells the report of a read if its error is the fault of the read. -/
theorem events_bestEffort_read {α : Type} (task : String) (r : PropertyRead)
    {result : PropertyResult α} (herror : errorOf result = r.fault?) :
    (bestEffort task r.name result).events = (r.report? task).toList := by
  rw [events_bestEffort, herror]
  rfl

/-- What is told of the compiler options and of the properties inside. -/
theorem events_readCompilerOptions (config : ToolchainConfig) (task : String) (h : PropertyHolder) :
    (readCompilerOptions config task h).events =
      (⟨h, compilerOptionsName, .object⟩ :: optionReads h).filterMap (report? task) := by
  have hobject := events_bestEffort_read task ⟨h, compilerOptionsName, .object⟩
    (h.errorOf_object? compilerOptionsName)
  unfold optionReads
  rw [readCompilerOptions_eq, Logged.events_bind, value_bestEffort, valueOf_object?_options,
    hobject, List.filterMap_eq_flatMap_toList, List.flatMap_cons]
  cases options? h with
  | none => rfl
  | some options =>
    have htarget := events_bestEffort_read task (Slot.jvmTarget.readOf (.ofObject options))
      (PropertyHolder.errorOf_text? _ "jvmTarget")
    have hargs := events_bestEffort_read task (Slot.freeCompilerArgs.readOf (.ofObject options))
      (PropertyHolder.errorOf_list? _ "freeCompilerArgs")
    simp only [Option.map_some, Logged.events_bind, Logged.events_pure, List.append_nil,
      List.flatMap_cons, List.flatMap_nil, ← htarget, ← hargs]
    rfl

/-- **One event is told for each property of a setting that cannot be read, in the order of reading,
and nothing else.** -/
theorem events_ofTask (config : ToolchainConfig) (task : String) (h : PropertyHolder) :
    (ofTask config task h).events = (settingReads h).filterMap (report? task) := by
  have hclasspath := events_bestEffort_read task (Slot.pluginClasspath.readOf h)
    (h.errorOf_files? "pluginClasspath")
  have hplugins := events_bestEffort_read task (Slot.pluginOptions.readOf h)
    (h.errorOf_list? "pluginOptions")
  unfold ofTask settingReads
  simp only [readPluginClasspath_eq, readPluginOptions_eq, Logged.events_bind, Logged.events_pure,
    List.append_nil, events_readCompilerOptions, List.filterMap_append]
  rw [List.filterMap_eq_flatMap_toList _ [Slot.pluginClasspath.readOf h, _], List.flatMap_cons,
    List.flatMap_singleton, ← hclasspath, ← hplugins]
  rfl

theorem reports_eq_nil_iff (task : String) (reads : List PropertyRead) :
    reads.filterMap (report? task) = [] ↔ ∀ r ∈ reads, r.fault? = none := by
  simp only [List.filterMap_eq_nil_iff, report?, Option.map_eq_none_iff]

/-- **Failed reads are told, but those of arguments are not.**  What is told while the settings of a
compile task are read is one debug message for each property of a setting that cannot be read, with
its name and the reason, in the order of reading, and nothing else.  So there is one message for
each read that fails exactly if none of the reads of the arguments of plugin options fails. -/
theorem failed_reads_are_told_iff {p : Dump.Project} {t : Dump.Task}
    (ht : p.tasks.get? config.compileTask = some t) :
    (∀ e ∈ (extract config p).events,
      ∃ r ∈ settingReads (.ofTask t.properties), ∃ error, r.fault? = some error ∧
        e.line = s!"DEBUG Ignoring {config.compileTask}.{r.name}: {error.message}") ∧
    (extract config p).events =
      (settingReads (.ofTask t.properties)).filterMap (report? config.compileTask) ∧
    ((extract config p).events.Perm
        ((settingReads (.ofTask t.properties) ++ argumentReads (.ofTask t.properties)).filterMap
          (report? config.compileTask)) ↔
      ∀ r ∈ argumentReads (.ofTask t.properties), r.fault? = none) := by
  have hevents : (extract config p).events =
      (settingReads (.ofTask t.properties)).filterMap (report? config.compileTask) := by
    rw [extract_of_task ht, Logged.events_bind, events_ofTask, Logged.events_pure, List.append_nil]
  refine ⟨fun e he => ?message, hevents, ?all⟩
  case message =>
    rw [hevents, List.mem_filterMap] at he
    obtain ⟨r, hr, hreport⟩ := he
    obtain ⟨error, herror, rfl⟩ := Option.map_eq_some_iff.1 hreport
    exact ⟨r, hr, error, herror, rfl⟩
  case all =>
    rw [hevents, List.filterMap_append, ← reports_eq_nil_iff config.compileTask]
    constructor
    · intro hperm
      have hlength := hperm.length_eq
      rw [List.length_append] at hlength
      exact List.eq_nil_of_length_eq_zero (by omega)
    · intro hnone
      rw [hnone, List.append_nil]

end ToolchainSettings

/-! ### Tasks with failed reads -/

namespace CompileTask

open ToolchainSettings (settingReads argumentReads)

/-- A task some of whose properties cannot be read: a target that is a list, arguments with a
failure among them and a missing plugin classpath.  The arguments of its plugin option can be
read. -/
def failing : Dump.Task where
  archive := false
  properties :=
    [(compilerOptionsName, .object [("jvmTarget", .list []),
        ("freeCompilerArgs", .list [.text "-Werror", .list [.unresolved "offline"]])]),
      ("pluginOptions", .list [.text "opaque", .object [("arguments", .list [.bool true])]])]
  distinct := by decide
  outputs := []

/-- Each of the two failures is told once. -/
theorem events_of_failing :
    (ToolchainSettings.extract .default (project failing)).events =
      [.propertyIgnored "compileKotlin" "jvmTarget" (.unexpectedForm "jvmTarget" .text),
        .propertyIgnored "compileKotlin" "freeCompilerArgs"
          (.unreadable "freeCompilerArgs" "offline")] ∧
    (ToolchainSettings.extract .default (project failing)).events.Perm
      ((settingReads (.ofTask failing.properties) ++
        argumentReads (.ofTask failing.properties)).filterMap
        (PropertyRead.report? "compileKotlin")) := by
  obtain ⟨-, hevents, hall⟩ :=
    ToolchainSettings.failed_reads_are_told_iff (get?_tasks_project failing)
  refine ⟨hevents.trans (by decide), hall.2 ?_⟩
  intro r hr
  obtain rfl := List.mem_singleton.1 hr
  decide

/-- A task whose plugin option has arguments that could not be read on the host. -/
def silent : Dump.Task where
  archive := false
  properties := [("pluginOptions", .list [.object [("arguments", .failed "boom")]])]
  distinct := by decide
  outputs := []

/-- The read of these arguments fails and nothing is told of it. -/
theorem events_of_silent :
    (∃ r ∈ argumentReads (.ofTask silent.properties),
      r.fault? = some (.unreadable "arguments" "boom")) ∧
    (ToolchainSettings.extract .default (project silent)).events = [] ∧
    ¬ (ToolchainSettings.extract .default (project silent)).events.Perm
      ((settingReads (.ofTask silent.properties) ++
        argumentReads (.ofTask silent.properties)).filterMap
        (PropertyRead.report? "compileKotlin")) := by
  refine ⟨⟨_, List.mem_singleton_self _, rfl⟩, rfl, fun hperm => ?_⟩
  exact absurd hperm.length_eq (by decide)

end CompileTask

end CompositeBuild
