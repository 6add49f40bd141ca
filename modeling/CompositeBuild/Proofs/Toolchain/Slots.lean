/-
# Replacing what settings are made of

Each setting of a task is made of the property at one slot.  Replacing this property leaves what is
at the other slots (`captured?_replaced_of_ne`), so no other setting changes, and if the new one
cannot be read, the setting itself is empty (`broken_properties_degrade_only_themselves`).
-/
import CompositeBuild.Proofs.Toolchain.Settings

namespace CompositeBuild

/-! ## Properties of a task -/

namespace PropertyHolder

variable {m : PropertyMap} {name other : String}

theorem property?_ofTask_withProperty_self (hname : name ≠ compilerOptionsName) (m : PropertyMap)
    (v? : Option Property) : (ofTask (m.withProperty name v?)).property? name = v? := by
  rw [property?_ofTask, TaskShape.hostName_of_ne hname, PropertyMap.get?_withProperty_self]

/-- The other properties of the task are found as before, and its options under either name. -/
theorem property?_ofTask_withProperty_of_ne (hmodern : name ≠ compilerOptionsName)
    (hlegacy : name ≠ legacyOptionsName) (hother : other ≠ name) (v? : Option Property) :
    (ofTask (m.withProperty name v?)).property? other = (ofTask m).property? other := by
  have hshape : TaskShape.ofProperties (m.withProperty name v?) = TaskShape.ofProperties m :=
    TaskShape.ofProperties_congr (PropertyMap.has_withProperty_of_ne hmodern.symm v?)
      (PropertyMap.has_withProperty_of_ne hlegacy.symm v?)
  have hhost : (TaskShape.ofProperties m).hostName other ≠ name := by
    by_cases hoptions : other = compilerOptionsName
    · subst hoptions
      cases TaskShape.ofProperties m with
      | modern => exact hother
      | legacy => exact hlegacy.symm
    · rwa [TaskShape.hostName_of_ne hoptions]
  rw [property?_ofTask, property?_ofTask, hshape, PropertyMap.get?_withProperty_of_ne hhost]

theorem property?_ofTask_withOptions_self (m : PropertyMap) (v : Property) :
    (ofTask (m.withProperty m.optionsName (some v))).property? compilerOptionsName = some v := by
  rw [property?_ofTask, PropertyMap.shape_withOptions]
  exact PropertyMap.get?_withProperty_self m m.optionsName (some v)

/-- The other properties of the task are found as before. -/
theorem property?_ofTask_withOptions_of_ne (hmodern : other ≠ compilerOptionsName)
    (hlegacy : other ≠ legacyOptionsName) (v : Property) :
    (ofTask (m.withProperty m.optionsName (some v))).property? other =
      (ofTask m).property? other := by
  have hne : other ≠ m.optionsName := by
    unfold PropertyMap.optionsName
    cases TaskShape.ofProperties m with
    | modern => exact hmodern
    | legacy => exact hlegacy
  rw [property?_ofTask, property?_ofTask, PropertyMap.shape_withOptions,
    TaskShape.hostName_of_ne hmodern, PropertyMap.get?_withProperty_of_ne hne]

end PropertyHolder

namespace ToolchainSettings

namespace Slot

/-! ## Replacing the property at a slot -/

/-- Sets the property at a slot, or removes it.  If the options of the task are no object, they have
no slots. -/
def replaced (slot : Slot) (v? : Option Property) (m : PropertyMap) : PropertyMap :=
  if slot.isOption then
    match options? (.ofTask m) with
    | some options =>
      m.withProperty m.optionsName (some (.object (options.withProperty slot.name v?)))
    | none => m
  else m.withProperty slot.name v?

theorem name_injective : Function.Injective name := by
  intro slot other h
  cases slot <;> cases other <;> first | rfl | exact absurd h (by decide)

theorem name_ne_compilerOptionsName (slot : Slot) : slot.name ≠ compilerOptionsName := by
  cases slot <;> decide

theorem name_ne_legacyOptionsName (slot : Slot) : slot.name ≠ legacyOptionsName := by
  cases slot <;> decide

variable {slot other : Slot} {m : PropertyMap} {v? : Option Property}

/-- A slot of the options is set in them. -/
theorem replaced_of_options {options : PropertyMap} (hslot : slot.isOption = true)
    (hoptions : options? (.ofTask m) = some options) :
    slot.replaced v? m =
      m.withProperty m.optionsName (some (.object (options.withProperty slot.name v?))) := by
  rw [replaced, if_pos hslot, hoptions]

/-- It is not set if the options are no object. -/
theorem replaced_of_no_options (hslot : slot.isOption = true)
    (hoptions : options? (.ofTask m) = none) : slot.replaced v? m = m := by
  rw [replaced, if_pos hslot, hoptions]

/-- A slot of the task is set among its properties. -/
theorem replaced_of_task (hslot : slot.isOption = false) :
    slot.replaced v? m = m.withProperty slot.name v? := by
  rw [replaced, hslot, if_neg Bool.false_ne_true]

/-- Setting a slot of the options sets the property in them, if they are an object. -/
theorem options?_replaced_of_option (hslot : slot.isOption = true) :
    options? (.ofTask (slot.replaced v? m)) =
      (options? (.ofTask m)).map (·.withProperty slot.name v?) := by
  cases hoptions : options? (.ofTask m) with
  | none =>
    rw [replaced_of_no_options hslot hoptions, hoptions]
    rfl
  | some options =>
    rw [replaced_of_options hslot hoptions, options?,
      PropertyHolder.property?_ofTask_withOptions_self]
    rfl

/-- Setting a slot of the task leaves the options. -/
theorem options?_replaced_of_task (hslot : slot.isOption = false) :
    options? (.ofTask (slot.replaced v? m)) = options? (.ofTask m) := by
  rw [replaced_of_task hslot, options?, options?,
    PropertyHolder.property?_ofTask_withProperty_of_ne slot.name_ne_compilerOptionsName
      slot.name_ne_legacyOptionsName slot.name_ne_compilerOptionsName.symm]

/-- The property of the task under the name of another slot stays. -/
theorem property?_replaced_of_ne (h : other ≠ slot) (v? : Option Property) (m : PropertyMap) :
    (PropertyHolder.ofTask (slot.replaced v? m)).property? other.name =
      (PropertyHolder.ofTask m).property? other.name := by
  cases hslot : slot.isOption with
  | true =>
    cases hoptions : options? (.ofTask m) with
    | none => rw [replaced_of_no_options hslot hoptions]
    | some options =>
      rw [replaced_of_options hslot hoptions]
      exact PropertyHolder.property?_ofTask_withOptions_of_ne other.name_ne_compilerOptionsName
        other.name_ne_legacyOptionsName _
  | false =>
    rw [replaced_of_task hslot]
    exact PropertyHolder.property?_ofTask_withProperty_of_ne slot.name_ne_compilerOptionsName
      slot.name_ne_legacyOptionsName (name_injective.ne h) v?

/-- **The properties at the other slots stay.** -/
theorem captured?_replaced_of_ne (h : other ≠ slot) (v? : Option Property) (m : PropertyMap) :
    other.captured? (.ofTask (slot.replaced v? m)) = other.captured? (.ofTask m) := by
  unfold captured?
  cases other.isOption with
  | false => exact property?_replaced_of_ne h v? m
  | true =>
    rw [if_pos rfl, if_pos rfl]
    cases hslot : slot.isOption with
    | false => rw [options?_replaced_of_task hslot]
    | true =>
      rw [options?_replaced_of_option hslot]
      cases options? (.ofTask m) with
      | none => rfl
      | some options => exact PropertyMap.get?_withProperty_of_ne (name_injective.ne h) v?

/-- At the slot itself there is nothing but the new property. -/
theorem eq_of_captured?_replaced {p : Property}
    (h : slot.captured? (.ofTask (slot.replaced v? m)) = some p) : v? = some p := by
  unfold captured? at h
  cases hslot : slot.isOption with
  | true =>
    rw [if_pos hslot, options?_replaced_of_option hslot] at h
    cases hoptions : options? (.ofTask m) with
    | none =>
      rw [hoptions] at h
      exact nomatch h
    | some options =>
      rw [hoptions, Option.map_some, Option.bind_some, PropertyMap.get?_withProperty_self] at h
      exact h
  | false =>
    rw [if_neg (by rw [hslot]; exact Bool.false_ne_true), replaced_of_task hslot,
      PropertyHolder.property?_ofTask_withProperty_self slot.name_ne_compilerOptionsName] at h
    exact h

/-- Nothing is shown at a slot whose property cannot be read. -/
theorem shown?_eq_none {α : Type} {view : PropertyValue → Option α} {h : PropertyHolder}
    (slot : Slot) (hview : slot.wanted.IsShownBy view)
    (hread : ∀ p ∈ slot.captured? h, ¬ p.IsReadable slot.wanted) : slot.shown? view h = none := by
  unfold shown?
  rw [Option.bind_eq_none_iff]
  exact fun p hp => hview.shown?_eq_none (hread p hp)

/-! ## The setting of a slot -/

/-- The settings without the one that is made of the property at the slot. -/
def cleared (slot : Slot) (s : ToolchainSettings) : ToolchainSettings :=
  match slot with
  | jvmTarget => { s with jvmTarget := none }
  | freeCompilerArgs => { s with compilerArgs := [] }
  | pluginClasspath => { s with pluginClasspath := [] }
  | pluginOptions => { s with pluginOptions := [] }

variable {config : ToolchainConfig} {task : String} {h h' : PropertyHolder}

/-- The properties at the other slots tell the other settings. -/
theorem cleared_ofTask_congr
    (hsame : ∀ other, other ≠ slot → other.captured? h = other.captured? h') :
    slot.cleared (ToolchainSettings.ofTask config task h).value =
      slot.cleared (ToolchainSettings.ofTask config task h').value := by
  have hshown (other : Slot) (hne : other ≠ slot) {α : Type} (view : PropertyValue → Option α) :
      other.shown? view h = other.shown? view h' := by
    rw [shown?, shown?, hsame other hne]
  rw [value_ofTask, value_ofTask]
  cases slot with
  | jvmTarget =>
    simp only [cleared, hshown freeCompilerArgs (by decide), hshown pluginClasspath (by decide),
      hshown pluginOptions (by decide)]
  | freeCompilerArgs =>
    simp only [cleared, hshown jvmTarget (by decide), hshown pluginClasspath (by decide),
      hshown pluginOptions (by decide)]
  | pluginClasspath =>
    simp only [cleared, hshown jvmTarget (by decide), hshown freeCompilerArgs (by decide),
      hshown pluginOptions (by decide)]
  | pluginOptions =>
    simp only [cleared, hshown jvmTarget (by decide), hshown freeCompilerArgs (by decide),
      hshown pluginClasspath (by decide)]

/-- A property that cannot be read leaves the setting of its slot empty. -/
theorem cleared_ofTask_of_unreadable
    (hread : ∀ p ∈ slot.captured? h, ¬ p.IsReadable slot.wanted) :
    slot.cleared (ToolchainSettings.ofTask config task h).value =
      (ToolchainSettings.ofTask config task h).value := by
  rw [value_ofTask]
  cases slot with
  | jvmTarget =>
    rw [jvmTarget.shown?_eq_none PropertyValue.isShownBy_asText? hread]
    rfl
  | freeCompilerArgs =>
    rw [freeCompilerArgs.shown?_eq_none PropertyValue.isShownBy_asList? hread]
    rfl
  | pluginClasspath =>
    rw [pluginClasspath.shown?_eq_none PropertyValue.isShownBy_asFiles? hread]
    rfl
  | pluginOptions =>
    rw [pluginOptions.shown?_eq_none PropertyValue.isShownBy_asList? hread]
    rfl

end Slot

/-! ## Replacing the options -/

theorem options?_withOptions {v : Property} (hread : ¬ v.IsReadable .object) (m : PropertyMap) :
    options? (.ofTask (m.withProperty m.optionsName (some v))) = none := by
  rw [options?, PropertyHolder.property?_ofTask_withOptions_self, Option.bind_some]
  exact PropertyValue.isShownBy_asObject?.shown?_eq_none hread

/-- Options that cannot be read as an object leave the settings that are made of them empty, and
these only. -/
theorem value_ofTask_withOptions {config : ToolchainConfig} {task : String} {v : Property}
    (hread : ¬ v.IsReadable .object) (m : PropertyMap) :
    (ToolchainSettings.ofTask config task (.ofTask (m.withProperty m.optionsName (some v)))).value =
      { (ToolchainSettings.ofTask config task (.ofTask m)).value with
        jvmTarget := none, compilerArgs := [] } := by
  have hinside (slot : Slot) (hslot : slot.isOption = true) :
      slot.captured? (.ofTask (m.withProperty m.optionsName (some v))) = none := by
    rw [Slot.captured?, if_pos hslot, options?_withOptions hread, Option.bind_none]
  have houtside (slot : Slot) (hslot : slot.isOption = false) :
      slot.captured? (.ofTask (m.withProperty m.optionsName (some v))) =
        slot.captured? (.ofTask m) := by
    unfold Slot.captured?
    rw [hslot]
    exact PropertyHolder.property?_ofTask_withOptions_of_ne slot.name_ne_compilerOptionsName
      slot.name_ne_legacyOptionsName v
  simp only [value_ofTask, Slot.shown?, hinside .jvmTarget rfl, hinside .freeCompilerArgs rfl,
    houtside .pluginClasspath rfl, houtside .pluginOptions rfl, Option.bind_none, Option.map_none,
    Option.getD_none, List.map_nil]

/-! ## Broken properties -/

/-- **A broken property degrades only itself.**  There are settings whatever the properties of a
compile task are.  If the property at a slot is set to anything, or removed, the settings of the
other slots stay the same, and that of this slot is empty unless there now is a property that can be
read in its form.  If the options themselves become something that cannot be read as an object,
exactly the two settings that are made of them are empty. -/
theorem broken_properties_degrade_only_themselves {config : ToolchainConfig} {p p' : Dump.Project}
    {t t' : Dump.Task} (ht : p.tasks.get? config.compileTask = some t)
    (ht' : p'.tasks.get? config.compileTask = some t') :
    ∃ s s' : ToolchainSettings,
      (extract config p).value = some s ∧ (extract config p').value = some s' ∧
      (∀ (slot : Slot) (v? : Option Property),
        t'.properties = slot.replaced v? t.properties →
          slot.cleared s' = slot.cleared s ∧
          ((∀ v ∈ v?, ¬ v.IsReadable slot.wanted) → s' = slot.cleared s)) ∧
      (∀ v : Property, ¬ v.IsReadable .object →
        t'.properties = t.properties.withProperty t.properties.optionsName (some v) →
          s' = { s with jvmTarget := none, compilerArgs := [] }) := by
  refine ⟨_, _, by rw [extract_of_task ht]; rfl, by rw [extract_of_task ht']; rfl, ?slots, ?options⟩
  case slots =>
    intro slot v? heq
    rw [heq]
    have hothers :
        slot.cleared
            (ofTask config config.compileTask (.ofTask (slot.replaced v? t.properties))).value =
          slot.cleared (ofTask config config.compileTask (.ofTask t.properties)).value :=
      Slot.cleared_ofTask_congr fun other hne => Slot.captured?_replaced_of_ne hne v? t.properties
    refine ⟨hothers, fun hread => ?_⟩
    rw [← hothers, Slot.cleared_ofTask_of_unreadable]
    exact fun v hv => hread v (Slot.eq_of_captured?_replaced hv)
  case options =>
    intro v hread heq
    rw [heq]
    exact value_ofTask_withOptions hread t.properties

end ToolchainSettings

/-! ### A task with a broken property -/

namespace CompileTask

/-- A legacy task of which each property can be read. -/
def sound : Dump.Task where
  archive := false
  properties :=
    [(legacyOptionsName, .object [("jvmTarget", .text "JVM_17"),
        ("freeCompilerArgs", .list [.text "-Werror"])]),
      ("pluginClasspath", .files [⟨"/p/all-open-compiler-plugin.jar"⟩]),
      ("pluginOptions", .list [.object [("arguments", .list [.bool true])]])]
  distinct := by decide
  outputs := []

/-- The task with a list as its target. -/
def brokenTarget : Dump.Task :=
  { sound with
    properties := ToolchainSettings.Slot.jvmTarget.replaced (some (.list [.failed "boom"]))
      sound.properties
    distinct := by decide }

/-- The task with options that could not be resolved. -/
def brokenOptions : Dump.Task :=
  { sound with
    properties := sound.properties.withProperty sound.properties.optionsName
      (some (.unresolved "offline"))
    distinct := by decide }

/-- Without its target the task has the other settings, and without its options those of its
plugins. -/
theorem settings_of_brokenTask :
    ∃ s : ToolchainSettings,
      s = ⟨some "17", ["-Werror"], ["/p/all-open-compiler-plugin.jar"], ["true"]⟩ ∧
      (ToolchainSettings.extract .default (project sound)).value = some s ∧
      (ToolchainSettings.extract .default (project brokenTarget)).value =
        some { s with jvmTarget := none } ∧
      (ToolchainSettings.extract .default (project brokenOptions)).value =
        some { s with jvmTarget := none, compilerArgs := [] } := by
  have hnoTarget (v : Property) (hv : v ∈ some (Property.list [.failed "boom"])) :
      ¬ v.IsReadable .text := by
    obtain rfl := Option.some.inj hv
    exact fun h => nomatch h.1
  have hnoOptions : ¬ (Property.unresolved "offline").IsReadable .object := fun h => nomatch h.1
  obtain ⟨s, s', hs, hs', hslot, -⟩ :=
    ToolchainSettings.broken_properties_degrade_only_themselves (get?_tasks_project sound)
      (get?_tasks_project brokenTarget)
  obtain ⟨s₁, s'', hs₁, hs'', -, hoptions⟩ :=
    ToolchainSettings.broken_properties_degrade_only_themselves (get?_tasks_project sound)
      (get?_tasks_project brokenOptions)
  have hsame : s₁ = s := Option.some.inj (hs₁.symm.trans hs)
  subst hsame
  refine ⟨s₁, Option.some.inj (hs.symm.trans (by decide)), hs, ?_, ?_⟩
  · rw [hs', (hslot .jvmTarget _ rfl).2 hnoTarget]
    rfl
  · rw [hs'', hoptions _ hnoOptions rfl]

end CompileTask

end CompositeBuild
